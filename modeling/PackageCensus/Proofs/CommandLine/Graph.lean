import Mathlib
import PackageCensus.CommandLine.Commands
import PackageCensus.Proofs.Config
import PackageCensus.Proofs.Except
import PackageCensus.Proofs.Host.Attempt
import PackageCensus.Proofs.Json.Record
import PackageCensus.Proofs.Manifest
import PackageCensus.Proofs.StandardList
import PackageCensus.Proofs.Text.Utf8

/-! # The graphs that commands compute

The graph of a manifest holds what the manifest reaches (`contains_closureOf`), and a graph without
its standard packages what is not on their list (`contains_withoutStandard`). -/

namespace PackageCensus

open Attempt (outcome)

variable {h : Host}

/-! ### Files that hold a text -/

theorem Host.fileText_of_encode {path text : String}
    (answer : h.answer (.file path) = .ok ⟨Text.encode text.toList, none⟩) :
    h.fileText path = .ok text := by
  rw [fileText_of_answer answer, Source.text, Text.decode?_encode]
  exact congrArg Except.ok String.ofList_toList

/-- The manifest at a path. -/
def Host.manifest (h : Host) (path : String) : Except ManifestError Manifest := do
  Manifest.ofText ((Format.ofPath? path).getD .json)
    (← (h.fileText path).mapError (.unreadable path))

theorem Host.manifest_of_text {path text : String} (read : h.fileText path = .ok text) :
    h.manifest path = Manifest.ofText ((Format.ofPath? path).getD .json) text := by
  rw [manifest, read]
  rfl

theorem Host.manifest_of_unreadable {path : String} {cause : AccessError}
    (unread : h.fileText path = .error cause) :
    h.manifest path = .error (.unreadable path cause) := by
  rw [manifest, unread]
  rfl

/-- A manifest that is printed to a file is read back from it. -/
theorem Host.manifest_of_compactText {path : String} {m : Manifest}
    (read : h.fileText path = .ok (Json.compactText m))
    (format : (Format.ofPath? path).getD .json = .json) : h.manifest path = .ok m := by
  rw [manifest_of_text read, format, Manifest.ofText, Format.parse,
    Json.parse_compactText Manifest.shape_clear, m.ofCarrier_toCarrier]
  rfl

@[simp] theorem Manifest.outcome_load (path : String) : outcome h (load path) = h.manifest path := by
  simp [load, Host.manifest]

namespace CommandLine

/-- A configuration that is printed to a file is the one of a run that names the file. -/
theorem outcome_loadConfig {path : String} {c : Config} {env : Environment}
    (read : h.fileText path = .ok (Json.compactText c)) (format : Format.ofPath? path = some .json) :
    outcome h (loadConfig (some path) env) = .ok c := by
  have compact := Json.parse_compactText Config.shape_clear c
  rw [Config.ofCarrier_toCarrier] at compact
  simp only [loadConfig, Config.load, Config.loadAs, format, Attempt.outcome_adapt,
    Attempt.outcome_bind, Attempt.outcome_readText, read, Attempt.outcome_ofExcept]
  show (Config.ofText .json (Json.compactText c)).mapError _ = _
  rw [Config.ofText_json compact]
  rfl

/-! ### Closures -/

theorem closureOf_eq_ok {manifest : String} {roots : List String} {strict : Bool} {g : Graph} :
    outcome h (closureOf manifest roots strict) = .ok g ↔
      ∃ m catalog, h.manifest manifest = .ok m ∧ m.catalog (!strict) = .ok catalog ∧
        (catalog.resolver.closure roots).outcome = .ok g := by
  unfold closureOf
  simp only [Attempt.outcome_bind, Attempt.outcome_adapt, Attempt.outcome_ofExcept,
    Attempt.outcome_report, Manifest.outcome_load, bind_eq_ok, mapError_eq_ok]
  constructor
  · rintro ⟨m, hm, catalog, hc, _, _, hg⟩
    exact ⟨m, catalog, hm, hc, hg⟩
  · rintro ⟨m, catalog, hm, hc, hg⟩
    exact ⟨m, hm, catalog, hc, (), trivial, hg⟩

theorem contains_closureOf {manifest : String} {roots : List String} {g : Graph}
    (ok : outcome h (closureOf manifest roots false) = .ok g) :
    ∃ m, h.manifest manifest = .ok m ∧ ∀ id, g.contains id = true ↔ m.Reaches roots id := by
  obtain ⟨m, catalog, hm, hc, hg⟩ := closureOf_eq_ok.mp ok
  refine ⟨m, hm, fun id => ?_⟩
  rw [Closure.search_ok (catalog.resolver.ends roots) hg, Manifest.reaches_catalog hc]

/-! ### Standard packages -/

/-- Whether an id is on the list of standard packages of a configuration. -/
def IsStandard (h : Host) (c : GraphConfig) (id : String) : Prop :=
  match c.standardList with
  | some path => ∃ text, h.fileText path = .ok text ∧ id ∈ StandardList.names text
  | none => id ∈ StandardList.bundledIds

theorem outcome_standardPackages (h : Host) (c : GraphConfig) :
    outcome h (standardPackages c) = match c.standardList with
      | some path => ((h.fileText path).map StandardList.parse).mapError (.standardList path)
      | none => .ok StandardList.bundled := by
  unfold standardPackages
  rw [Attempt.outcome_adapt]
  cases c.standardList with
  | none => rfl
  | some path =>
    simp only [StandardList.loadOr, StandardList.load, Attempt.outcome_adapt,
      Attempt.outcome_bind, Attempt.outcome_readText, Attempt.outcome_pure]
    cases h.fileText path <;> rfl

/-- A text on disk is the list of a configuration that names its path. -/
theorem outcome_standardPackages_of_text {c : GraphConfig} {path text : String}
    (read : h.fileText path = .ok text) (named : c.standardList = some path) :
    outcome h (standardPackages c) = .ok (StandardList.parse text) := by
  rw [outcome_standardPackages, named]
  simp only [read]
  rfl

/-- The standard packages stay, or they are taken away once their list is read. -/
theorem outcome_withoutStandard (h : Host) (g : Graph) (keep : Bool) (c : GraphConfig) :
    outcome h (withoutStandard g keep c) =
      if keep = true ∨ c.includeStandard = true then .ok g
      else (outcome h (standardPackages c)).map g.subtract := by
  unfold withoutStandard
  simp only [Bool.or_eq_true]
  split
  · rfl
  · rw [Attempt.outcome_bind]
    cases outcome h (standardPackages c) <;> rfl

theorem contains_standardPackages {c : GraphConfig} {g : Graph}
    (ok : outcome h (standardPackages c) = .ok g) (id : String) :
    g.contains id = true ↔ IsStandard h c id := by
  rw [outcome_standardPackages] at ok
  unfold IsStandard
  cases hlist : c.standardList with
  | some path =>
    simp only [hlist, mapError_eq_ok, map_eq_ok] at ok
    obtain ⟨text, htext, rfl⟩ := ok
    simp [StandardList.parse, StandardList.contains_leaves, htext]
  | none =>
    simp only [hlist, Except.ok.injEq] at ok
    rw [← ok, StandardList.bundled, StandardList.contains_leaves]

theorem contains_withoutStandard {g kept : Graph} {keep : Bool} {c : GraphConfig}
    (ok : outcome h (withoutStandard g keep c) = .ok kept) (id : String) :
    kept.contains id = true ↔
      g.contains id = true ∧ (keep = true ∨ c.includeStandard = true ∨ ¬ IsStandard h c id) := by
  rw [outcome_withoutStandard] at ok
  split at ok
  · next stays =>
    cases ok
    tauto
  · next leaves =>
    obtain ⟨standard, hs, rfl⟩ := map_eq_ok.mp ok
    rw [Graph.contains_subtract, ← contains_standardPackages hs, Bool.not_eq_true]
    tauto

end CommandLine
end PackageCensus
