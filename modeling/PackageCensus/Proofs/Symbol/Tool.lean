import Mathlib
import PackageCensus.Proofs.Except
import PackageCensus.Proofs.Host.Attempt
import PackageCensus.Symbol.Tool

/-! # Where the symbols of a binary come from -/

namespace PackageCensus

open Attempt (outcome)

variable {h : Host}

/-- The octets in which a host gives the symbol table of a binary: those of the file that stands in
for the table, or what the program writes that makes it, if that program ends well. -/
inductive TableOf (h : Host) (t : SymbolTool) (substitute? : Option String) (binary : String) :
    Source → Prop
  | substitute {path : String} {source : Source} :
    substitute? = some path → h.answer (.file path) = .ok source →
    TableOf h t substitute? binary source
  | made {p : Process} :
    substitute? = none → h.answer (.process ⟨t.program, t.arguments ++ [binary]⟩) = .ok p →
    p.status.success = true → TableOf h t substitute? binary p.output

namespace SymbolTool

@[simp] theorem outcome_readTable (s : Source) :
    outcome h (readTable s) = (SymbolTable.symbols s).mapError .table := by
  simp only [readTable, Attempt.outcome_bind, Attempt.outcome_report, Attempt.outcome_ofExcept]
  rfl

/-- The symbols of a binary that there is are those of its table. -/
theorem symbols_eq_ok {t : SymbolTool} {substitute? : Option String} {binary : String}
    {kept : List Symbol} : outcome h (t.symbols substitute? binary) = .ok kept ↔
      h.answer (.isFile binary) = true ∧
        ∃ source, TableOf h t substitute? binary source ∧
          SymbolTable.symbols source = .ok kept := by
  simp only [symbols, Attempt.outcome_bind, Attempt.outcome_isFile, bind_eq_ok]
  constructor
  · rintro ⟨found, hf, ok⟩
    cases hf
    split at ok
    · next found =>
      refine ⟨found, ?_⟩
      split at ok
      · next path =>
        simp only [readSubstitute, Attempt.outcome_bind, Attempt.outcome_report,
          Attempt.outcome_adapt, Attempt.outcome_openFile, outcome_readTable, bind_eq_ok,
          mapError_eq_ok] at ok
        obtain ⟨-, -, source, hs, hk⟩ := ok
        exact ⟨source, .substitute rfl hs, hk⟩
      · simp only [run, Attempt.outcome_bind, Attempt.outcome_report, Attempt.outcome_adapt,
          Attempt.outcome_launch, outcome_readTable, bind_eq_ok, mapError_eq_ok] at ok
        obtain ⟨-, -, p, hp, symbols, hk, ok⟩ := ok
        split at ok
        · next success =>
          cases ok
          exact ⟨p.output, .made rfl hp success, hk⟩
        · simp [bind_eq_ok] at ok
    · cases ok
  · rintro ⟨found, source, table, hk⟩
    refine ⟨_, rfl, ?_⟩
    rw [if_pos found]
    cases table with
    | substitute hs ho =>
      subst hs
      simp [readSubstitute, ho, hk, bind_eq_ok, mapError_eq_ok]
    | made hs hp success =>
      subst hs
      simp [run, hp, hk, success, bind_eq_ok, mapError_eq_ok]

end SymbolTool
end PackageCensus
