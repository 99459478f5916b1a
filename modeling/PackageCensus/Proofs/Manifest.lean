import Mathlib
import PackageCensus.Manifest
import PackageCensus.Proofs.Graph.Basic
import PackageCensus.Proofs.Graph.Reachable

/-! # What a manifest reaches

`Manifest.Reaches m roots` holds of the ids that the roots lead to along the imports that a
manifest lists, where an id that it does not list leads nowhere.  It is what the catalog of the
manifest reaches if unknown ids are leaves (`reaches_catalog`).  A manifest that lists an id twice
has no catalog, and the id that is listed for the second time before any other tells why
(`repeated?_eq_some`). -/

namespace PackageCensus.Manifest

/-- The ids that a manifest lists. -/
def ids (m : Manifest) : List String := m.packages.map (·.id)

/-- The ids that some roots lead to in a manifest. -/
inductive Reaches (m : Manifest) (roots : List String) : String → Prop
  | root {id : String} : id ∈ roots → Reaches m roots id
  | step {p : Package} {dep : String} :
    p ∈ m.packages → Reaches m roots p.id → dep ∈ p.imports → Reaches m roots dep

/-! ### Catalogs -/

theorem repeatedAfter_eq_none {before ids : List String} :
    repeatedAfter before ids = none ↔ ids.Nodup ∧ ∀ id ∈ ids, id ∉ before := by
  induction ids generalizing before with
  | nil => simp [repeatedAfter]
  | cons id ids ih =>
    unfold repeatedAfter
    split
    · next hold => simp [hold]
    · next hnew =>
      rw [ih, List.nodup_cons]
      constructor
      · rintro ⟨nodup, apart⟩
        refine ⟨⟨fun h => apart id h (.head _), nodup⟩, fun i hi => ?_⟩
        rcases List.mem_cons.mp hi with rfl | hi
        · exact hnew
        · exact fun h => apart i hi (.tail _ h)
      · rintro ⟨⟨hid, nodup⟩, apart⟩
        refine ⟨nodup, fun i hi h => ?_⟩
        rcases List.mem_cons.mp h with rfl | h
        · exact hid hi
        · exact apart i (.tail _ hi) h

theorem repeated?_eq_none {m : Manifest} :
    m.repeated? = none ↔ (m.packages.map (·.id)).Nodup := by
  simp [repeated?, repeatedAfter_eq_none]

theorem repeatedAfter_eq_some {seen ids : List String} {id : String} :
    repeatedAfter seen ids = some id ↔
      ∃ before after, ids = before ++ id :: after ∧ before.Nodup ∧ (∀ i ∈ before, i ∉ seen) ∧
        (id ∈ before ∨ id ∈ seen) := by
  induction ids generalizing seen with
  | nil => simp [repeatedAfter]
  | cons first ids ih =>
    unfold repeatedAfter
    split
    · next old =>
      constructor
      · intro h
        cases h
        refine ⟨[], ids, rfl, .nil, fun i hi => ?_, .inr old⟩
        cases hi
      · rintro ⟨_ | ⟨_, before⟩, after, split, -, fresh, -⟩
        · rw [(List.cons.inj split).1]
        · cases split
          exact absurd old (fresh first (.head _))
    · next new =>
      rw [ih]
      constructor
      · rintro ⟨before, after, rfl, nodup, fresh, old⟩
        refine ⟨first :: before, after, rfl, List.nodup_cons.mpr ⟨?_, nodup⟩, ?_, ?_⟩
        · exact fun h => fresh first h (.head _)
        · intro i hi
          rcases List.mem_cons.mp hi with rfl | hi
          · exact new
          · exact fun h => fresh i hi (.tail _ h)
        · rw [List.mem_cons] at old ⊢
          tauto
      · rintro ⟨_ | ⟨_, before⟩, after, split, nodup, fresh, old⟩
        · cases split
          simp only [List.not_mem_nil, false_or] at old
          exact absurd old new
        · cases split
          rw [List.nodup_cons] at nodup
          refine ⟨before, after, rfl, nodup.2, fun i hi h => ?_, ?_⟩
          · rcases List.mem_cons.mp h with rfl | h
            · exact nodup.1 hi
            · exact fresh i (.tail _ hi) h
          · rw [List.mem_cons] at old ⊢
            tauto

/-- The id that is listed for the second time before any other is. -/
theorem repeated?_eq_some {m : Manifest} {id : String} : m.repeated? = some id ↔
    ∃ before after, m.ids = before ++ id :: after ∧ before.Nodup ∧ id ∈ before := by
  simp [repeated?, repeatedAfter_eq_some, ids]

variable {m : Manifest} {lenient : Bool} {catalog : Catalog}

theorem catalog_eq_ok : m.catalog lenient = .ok catalog ↔
    (m.packages.map (·.id)).Nodup ∧ catalog = ⟨.ofList m.packages, lenient⟩ := by
  unfold Manifest.catalog
  rw [← repeated?_eq_none]
  cases m.repeated? with
  | none => simp [eq_comm]
  | some id => simp

/-- With unknown ids as leaves, the catalog reaches what the manifest reaches. -/
theorem reaches_catalog (h : m.catalog true = .ok catalog) {roots : List String} {id : String} :
    Closure.Reaches catalog.resolver.imports roots id ↔ m.Reaches roots id := by
  obtain ⟨nodup, rfl⟩ := catalog_eq_ok.mp h
  constructor
  · intro reach
    induction reach with
    | root h => exact .root h
    | step _ answer hd ih =>
      simp only [Catalog.resolver, Catalog.imports] at answer
      split at answer
      · next p hp =>
        obtain ⟨hmem, rfl⟩ := (Graph.get?_ofList_of_nodup nodup).mp hp
        cases answer
        exact .step hmem ih hd
      · cases answer
        cases hd
  · intro reach
    induction reach with
    | root h => exact .root h
    | step hp _ hd ih =>
      refine .step ih ?_ hd
      simp only [Catalog.resolver, Catalog.imports,
        (Graph.get?_ofList_of_nodup nodup).mpr ⟨hp, rfl⟩]

end PackageCensus.Manifest
