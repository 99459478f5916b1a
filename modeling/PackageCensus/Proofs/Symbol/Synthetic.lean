import PackageCensus.Proofs.Symbol.Line
import PackageCensus.Proofs.Symbol.QualifiedName
import PackageCensus.Proofs.Symbol.Table

/-! # Symbols that the compiler makes up

The compiler's own symbols are told by the beginning of their names, and could be told by that of
the first segment of their paths.  With a slash before its first call a name has as its first
segment all that stands before its first slash (`head?_path_of_slash`), so that both tests come to
the same. Without, its path is at most the one segment before its first dot (`path_of_slashless`),
which is too short to begin like that: it is `go` or `type`, and only the test of the name tells
such a symbol (`synthetic_by_path`). -/

namespace PackageCensus

namespace QualifiedName

variable {q before after : List Char} {c : Char}

/-! ### First segments -/

theorem head?_splitOnP (w : List Char) :
    (w.splitOnP (· == '/')).head? = some (w.takeWhile (· != '/')) := by
  by_cases h : '/' ∈ w
  · obtain ⟨u, v, rfl, hu⟩ := List.eq_append_cons_of_mem h
    have solid : ∀ d ∈ u, (d == '/') = false := fun d hd => by simpa using bne_of_notMem hu d hd
    rw [List.splitOnP_append_cons_of_forall_mem solid '/' rfl, takeWhile_ne_append hu]
    rfl
  · have solid : ∀ d ∈ w, (d == '/') = false := fun d hd => by simpa using bne_of_notMem h d hd
    rw [List.splitOnP_eq_singleton solid, List.takeWhile_eq_self_iff.mpr (bne_of_notMem h)]
    rfl

/-- The first segment of a path is a beginning of the name. -/
theorem head?_path_isPrefix (q : List Char) :
    ∀ segment ∈ (split q).1.head?, segment <+: q := by
  rcases split_spec q with h | ⟨before, c, after, hq, -, -, -, h⟩
  · simp [h]
  · intro segment hs
    rw [h, head?_splitOnP, Option.mem_some_iff] at hs
    subst hs
    exact (List.takeWhile_prefix _).trans ⟨c :: after, hq.symm⟩

/-- A name divides at its last slash or behind it. -/
theorem slash_mem_of_division (slash : '/' ∈ beforeCall q) (hq : q = before ++ c :: after)
    (hlen : before.length = division q) : '/' ∈ before ++ [c] := by
  obtain ⟨call, hcall, -⟩ := beforeCall_append q
  rcases lastSlash_spec (beforeCall q) with ⟨hnone, -⟩ | ⟨u, v, hw, -, hlast⟩
  · exact absurd slash hnone
  · have within : u.length ≤ before.length := by
      rw [hlen, division, hlast]
      exact Nat.le_add_right ..
    have first : u ++ ['/'] <+: q := ⟨v ++ call, by rw [hcall, hw]; simp⟩
    have second : before ++ [c] <+: q := ⟨after, by rw [hq]; simp⟩
    have nested := List.prefix_of_prefix_length_le first second (by simpa using within)
    exact nested.subset (by simp)

theorem takeWhile_slash (h : '/' ∈ before ++ [c]) :
    (before ++ c :: after).takeWhile (· != '/') = before.takeWhile (· != '/') := by
  by_cases hb : '/' ∈ before
  · obtain ⟨u, v, rfl, hu⟩ := List.eq_append_cons_of_mem hb
    rw [List.append_assoc, List.cons_append, takeWhile_ne_append hu, takeWhile_ne_append hu]
  · obtain rfl : '/' = c := by simpa [hb] using h
    rw [takeWhile_ne_append hb, List.takeWhile_eq_self_iff.mpr (bne_of_notMem hb)]

/-- With a slash before its first call a name divides, unless a slash begins it. -/
theorem division_ne_zero (slash : '/' ∈ beforeCall q) (hq : q = c :: after) (hc : c ≠ '/') :
    division q ≠ 0 := by
  intro hzero
  have here : '/' ∈ [] ++ [c] := slash_mem_of_division slash hq hzero.symm
  exact hc (by simpa [eq_comm] using here)

/-- With a slash before its first call a name that divides has as its first segment what stands
before its first slash. -/
theorem head?_path_of_slash (slash : '/' ∈ beforeCall q) (hdivides : division q ≠ 0) :
    (split q).1.head? = some (q.takeWhile (· != '/')) := by
  obtain ⟨before, c, after, hq, hlen, -, -⟩ := division_spec hdivides
  have hne : before ≠ [] := by
    rintro rfl
    exact hdivides hlen.symm
  have cut : (before ++ c :: after).takeWhile (· != '/') = before.takeWhile (· != '/') :=
    takeWhile_slash (slash_mem_of_division slash hq hlen)
  rw [split_of_division hq hlen hne, head?_splitOnP, ← cut, ← hq]

theorem division_of_slashless (slashless : '/' ∉ beforeCall q) :
    division q = firstDot (beforeCall q) := by
  simp only [division, lastSlash_of_notMem slashless, List.drop_zero, Nat.zero_add]

/-- Without a slash before its first call a name has one segment, which ends before its first dot.
-/
theorem path_of_dot (slashless : '/' ∉ beforeCall q) (hq : q = before ++ '.' :: after)
    (hcall : '(' ∉ before) (hdot : '.' ∉ before) (hne : before ≠ []) :
    (split q).1 = [before] := by
  have hhead : beforeCall q = before ++ '.' :: beforeCall after := by
    rw [hq, beforeCall, List.takeWhile_append_of_pos (bne_of_notMem hcall)]
    rfl
  have hdivision : division q = before.length := by
    rw [division_of_slashless slashless, hhead, firstDot_append hdot]
  have hslash : '/' ∉ before := fun h => slashless (hhead ▸ List.mem_append_left _ h)
  have solid : ∀ d ∈ before, (d == '/') = false := fun d hd => by
    simpa using bne_of_notMem hslash d hd
  rw [split_of_division hq hdivision.symm hne, List.splitOnP_eq_singleton solid]

theorem path_of_slashless (slashless : '/' ∉ beforeCall q) :
    (split q).1 = [] ∨ ∃ before, '.' ∉ before ∧ (split q).1 = [before] := by
  obtain ⟨call, hcall, hopen⟩ := beforeCall_append q
  have hdivision := division_of_slashless slashless
  rcases firstDot_spec (beforeCall q) with ⟨-, hdot⟩ | ⟨u, v, hw, hu, hdot⟩
  · rw [split, hdivision, hdot]
    exact .inl rfl
  · by_cases hnil : u = []
    · rw [split, hdivision, hdot, hnil]
      exact .inl rfl
    · have hq : q = u ++ '.' :: (v ++ call) := by
        conv_lhs => rw [hcall, hw]
        simp
      have hopen : '(' ∉ u := fun h => hopen (hw ▸ List.mem_append_left _ h)
      exact .inr ⟨u, hu, path_of_dot slashless hq hopen hu hnil⟩

end QualifiedName

namespace Symbol

open QualifiedName (beforeCall)

/-! ### The two tests -/

/-- A text that begins like the names of method tables or of descriptors of types. -/
def BeginsSynthetic (text : List Char) : Prop :=
  "go.itab.".toList <+: text ∨ "type..".toList <+: text

/-- The first segment of the path begins like the compiler's own names. -/
def SyntheticByPath (s : Symbol) : Prop :=
  ∃ segment ∈ s.path.head?, BeginsSynthetic segment.toList

theorem isSynthetic_iff {s : Symbol} :
    s.isSynthetic = true ↔ BeginsSynthetic s.qualifiedName.toList := by
  simp [isSynthetic, syntheticBeginnings, BeginsSynthetic, List.isPrefixOf_iff_prefix]

/-- Both beginnings end before any slash. -/
theorem beginsSynthetic_takeWhile {w : List Char} :
    BeginsSynthetic (w.takeWhile (· != '/')) ↔ BeginsSynthetic w := by
  have solid {b : List Char} (hb : '/' ∉ b) : b <+: w.takeWhile (· != '/') ↔ b <+: w := by
    refine ⟨fun h => h.trans (List.takeWhile_prefix _), ?_⟩
    rintro ⟨rest, rfl⟩
    rw [List.takeWhile_append_of_pos (QualifiedName.bne_of_notMem hb)]
    exact List.prefix_append ..
  exact or_congr (solid (by decide)) (solid (by decide))

/-- Both beginnings hold a dot. -/
theorem BeginsSynthetic.dot_mem {w : List Char} (h : BeginsSynthetic w) : '.' ∈ w := by
  rcases h with h | h
  · exact h.subset (by decide)
  · exact h.subset (by decide)

section

variable {line : String} {s : Symbol}

theorem head?_path_of_parse (h : parse line = .ok s) : s.path.head? =
    (QualifiedName.split s.qualifiedName.toList).1.head?.map String.ofList := by
  rw [path_of_parse h, QualifiedName.parts_eq, List.head?_map]

theorem syntheticByPath_iff (h : parse line = .ok s) : s.SyntheticByPath ↔
    ∃ segment ∈ (QualifiedName.split s.qualifiedName.toList).1.head?, BeginsSynthetic segment := by
  rw [SyntheticByPath, head?_path_of_parse h]
  simp only [Option.mem_map, ↓existsAndEq, and_true, String.toList_ofList]

/-- The test of the path is that of the name, for names with a slash before their first call. -/
theorem syntheticByPath_iff_isSynthetic (h : parse line = .ok s) : s.SyntheticByPath ↔
    s.isSynthetic = true ∧ '/' ∈ beforeCall s.qualifiedName.toList := by
  rw [syntheticByPath_iff h, isSynthetic_iff]
  constructor
  · rintro ⟨segment, hs, begins⟩
    refine ⟨?_, ?_⟩
    · obtain ⟨rest, hrest⟩ := QualifiedName.head?_path_isPrefix _ segment hs
      rw [← hrest]
      exact begins.imp (·.trans (List.prefix_append ..)) (·.trans (List.prefix_append ..))
    · by_contra slashless
      rcases QualifiedName.path_of_slashless slashless with hpath | ⟨before, hdot, hpath⟩
      · simp [hpath] at hs
      · rw [hpath, List.head?_cons, Option.mem_some_iff] at hs
        exact hdot (hs ▸ begins.dot_mem)
  · rintro ⟨begins, slash⟩
    have hdivides : QualifiedName.division s.qualifiedName.toList ≠ 0 := by
      rcases begins with ⟨rest, hq⟩ | ⟨rest, hq⟩
      · exact QualifiedName.division_ne_zero slash hq.symm (by decide)
      · exact QualifiedName.division_ne_zero slash hq.symm (by decide)
    exact ⟨_, QualifiedName.head?_path_of_slash slash hdivides, beginsSynthetic_takeWhile.mpr begins⟩

/-- Without such a slash the path is too short for the test. -/
theorem path_of_isSynthetic (h : parse line = .ok s) (synthetic : s.isSynthetic = true)
    (slashless : '/' ∉ beforeCall s.qualifiedName.toList) :
    s.path = ["go"] ∨ s.path = ["type"] := by
  rw [path_of_parse h, QualifiedName.parts_eq]
  rcases isSynthetic_iff.mp synthetic with ⟨rest, hq⟩ | ⟨rest, hq⟩
  · have hpath : (QualifiedName.split s.qualifiedName.toList).1 = ["go".toList] :=
      QualifiedName.path_of_dot slashless hq.symm (by decide) (by decide) (by decide)
    exact .inl (by rw [hpath]; rfl)
  · have hpath : (QualifiedName.split s.qualifiedName.toList).1 = ["type".toList] :=
      QualifiedName.path_of_dot slashless hq.symm (by decide) (by decide) (by decide)
    exact .inr (by rw [hpath]; rfl)

/-- The first segment of a path is a beginning of the name, and it begins like the compiler's own
names exactly if the name does and has a slash before its first call; without such a slash the path
of a symbol of the compiler is `go` or `type`.  So no symbol that stays in a table has a path whose
first segment begins like that. -/
theorem synthetic_by_path :
    (∀ (line : String) (s : Symbol), parse line = .ok s →
      (∀ segment ∈ s.path.head?, segment.toList <+: s.qualifiedName.toList) ∧
      (s.SyntheticByPath ↔ s.isSynthetic = true ∧ '/' ∈ beforeCall s.qualifiedName.toList) ∧
      (s.isSynthetic = true → '/' ∉ beforeCall s.qualifiedName.toList →
        s.path = ["go"] ∨ s.path = ["type"])) ∧
    ∀ (source : Source) (kept : List Symbol), SymbolTable.symbols source = .ok kept →
      ∀ s ∈ kept, ¬ s.SyntheticByPath := by
  refine ⟨fun line s h => ⟨fun segment hs => ?_, syntheticByPath_iff_isSynthetic h,
    path_of_isSynthetic h⟩, fun source kept ok s hs bypath => ?_⟩
  · rw [head?_path_of_parse h, Option.mem_map] at hs
    obtain ⟨cs, hcs, rfl⟩ := hs
    rw [String.toList_ofList]
    exact QualifiedName.head?_path_isPrefix _ cs hcs
  · obtain ⟨line, h, stays⟩ := SymbolTable.kept_of_symbols ok hs
    have synthetic := ((syntheticByPath_iff_isSynthetic h).mp bypath).1
    simp [SymbolTable.isKept, synthetic] at stays

/-- A method table with a slash behind a parenthesis only, one with a slash before it, and a table
that keeps the symbol before the latter. -/
theorem synthetic_by_path_call : ∃ s t kept : Symbol,
    parse "10 T go.itab.F(a/b.T),io.Reader" = .ok s ∧ parse "20 T go.itab.*a/b.T" = .ok t ∧
      SymbolTable.symbols ⟨Text.encode "20 T a/b.T\n10 T go.itab.*a/b.T".toList, none⟩ = .ok [kept] ∧
      s.path = ["go"] ∧ ¬ s.SyntheticByPath ∧ t.SyntheticByPath ∧ ¬ kept.SyntheticByPath := by
  obtain ⟨-, bypath, short⟩ := synthetic_by_path.1 "10 T go.itab.F(a/b.T),io.Reader" _ rfl
  obtain ⟨-, bypath', -⟩ := synthetic_by_path.1 "20 T go.itab.*a/b.T" _ rfl
  have table : SymbolTable.symbols ⟨Text.encode "20 T a/b.T\n10 T go.itab.*a/b.T".toList, none⟩ =
      .ok [⟨0, 20, 'T', "a/b.T", "", ["a", "b"], "T"⟩] := (SymbolTable.symbols_eq _).trans rfl
  refine ⟨_, _, _, rfl, rfl, table, (short (by decide) (by decide)).resolve_right (by decide), ?_, ?_,
    synthetic_by_path.2 _ _ table _ (.head _)⟩
  · rw [bypath]
    decide
  · rw [bypath']
    decide

end
end Symbol
end PackageCensus
