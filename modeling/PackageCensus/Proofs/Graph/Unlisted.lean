import PackageCensus.Proofs.Graph.Strict

/-! # What stands in the way of a closure

A manifest is refused for the first id that is listed for the second time (`repeated?_eq_some`), and
a strict closure for the first id that is not listed, in the order in which a walk asks for ids
(`asked`, `closure_refused`).  Otherwise the closure is the graph of what the manifest reaches, each
package with the imports that the manifest lists of it (`closure_found`). -/

namespace PackageCensus.Manifest

open Closure

variable {m : Manifest} {id : String}

/-! ### Walks -/

/-- The imports that a manifest lists of a package, and none of a package that it does not list. -/
def importsOf (m : Manifest) (id : String) : List String :=
  ((m.packages.find? (·.id == id)).map (·.imports)).getD []

/-- The ids that a walk from some roots asks for, in order, when an id that is not listed is taken
for a package without imports. -/
def asked (m : Manifest) (roots : List String) : List String :=
  ((Catalog.resolver ⟨.ofList m.packages, true⟩).closure roots).asked

theorem imports_lenient (distinct : m.ids.Nodup) (id : String) :
    Catalog.imports ⟨.ofList m.packages, true⟩ id = .ok (m.importsOf id) := by
  have found : (Graph.ofList m.packages).get? id = m.packages.find? (·.id == id) := by
    rw [Graph.get?_ofList, Graph.find?_of_perm distinct m.packages.reverse_perm.symm]
  unfold Catalog.imports importsOf
  rw [found]
  cases m.packages.find? (·.id == id) <;> rfl

variable {roots : List String}

theorem mem_asked (distinct : m.ids.Nodup) : id ∈ m.asked roots ↔ m.Reaches roots id := by
  obtain ⟨g, ok⟩ := lenient_closure m roots
  have told : Yields (Catalog.imports ⟨.ofList m.packages, true⟩) roots .empty
      ((Catalog.resolver ⟨.ofList m.packages, true⟩).closure roots) := yields_walk _
  have held := told.contains_iff ok id
  rw [search_ok (Resolver.ends _ roots) ok, reaches_catalog (catalog_of_nodup distinct true)] at held
  rw [held]
  exact (or_iff_right Bool.false_ne_true).symm

theorem closure_eq {c : Catalog} {run : Closure.Run ResolveError}
    (made : Yields c.imports roots .empty run) : c.resolver.closure roots = run :=
  (yields_walk (c.resolver.ends roots)).unique made

/-- Either all that is asked for is listed, and a strict closure is the lenient one, or a strict
closure is refused for the first id that is asked for and not listed. -/
theorem strict_closure (m : Manifest) (roots : List String) :
    (∀ id ∈ m.asked roots, id ∈ m.ids) ∧
      (Catalog.resolver ⟨.ofList m.packages, false⟩).closure roots =
        (Catalog.resolver ⟨.ofList m.packages, true⟩).closure roots ∨
    ∃ id, (m.asked roots).find? (fun id => ! m.ids.contains id) = some id ∧
      ((Catalog.resolver ⟨.ofList m.packages, false⟩).closure roots).outcome =
        .error (.unknownPackage id) := by
  have told : Yields (Catalog.imports ⟨.ofList m.packages, true⟩) roots .empty
      ((Catalog.resolver ⟨.ofList m.packages, true⟩).closure roots) := yields_walk _
  rcases told.until_unknown (fun _ h => imports_of_mem h false true)
      (fun _ h => imports_of_notMem h false) with
    ⟨all, made⟩ | ⟨before, x, after, rounds, askedFor, all, unlisted, made⟩
  · exact .inl ⟨all, closure_eq made⟩
  · refine .inr ⟨x, ?_, congrArg Closure.Run.outcome (closure_eq made)⟩
    rw [List.find?_eq_some_iff_append]
    exact ⟨by simpa using unlisted, before, after, askedFor, fun i hi => by simpa using all i hi⟩

theorem not_mem_of_first
    (first : (m.asked roots).find? (fun id => ! m.ids.contains id) = some id) :
    id ∈ m.asked roots ∧ id ∉ m.ids :=
  ⟨List.mem_of_find?_eq_some first, by simpa using List.find?_some first⟩

/-- A closure of listed packages, or of any packages if it is not strict, is what the manifest
reaches. -/
theorem closure_found (distinct : m.ids.Nodup) {strict : Bool}
    (listed : strict = true → ∀ id, m.Reaches roots id → id ∈ m.ids) :
    ∃ g, ((Catalog.resolver ⟨.ofList m.packages, !strict⟩).closure roots).outcome = .ok g ∧
      (∀ id, g.contains id = true ↔ m.Reaches roots id) ∧
      ∀ p ∈ g.packages, p.imports = m.importsOf p.id := by
  obtain ⟨g, ok⟩ := lenient_closure m roots
  have same : ((Catalog.resolver ⟨.ofList m.packages, !strict⟩).closure roots).outcome = .ok g := by
    cases strict with
    | false => exact ok
    | true =>
      rcases strict_closure m roots with ⟨-, same⟩ | ⟨id, first, -⟩
      · exact (congrArg Closure.Run.outcome same).trans ok
      · obtain ⟨here, missing⟩ := not_mem_of_first first
        exact absurd (listed rfl id ((mem_asked distinct).mp here)) missing
  have lenient := Resolver.ends (Catalog.resolver ⟨.ofList m.packages, true⟩) roots
  refine ⟨g, same, fun id => ?_, fun p hp => ?_⟩
  · rw [search_ok lenient ok, ← reaches_catalog (catalog_of_nodup distinct true)]
  · have told := (search_progress lenient ok).told p hp
    exact Except.ok.inj (told.symm.trans (imports_lenient distinct p.id))

/-- A strict closure is refused for the first id that is asked for and not listed. -/
theorem closure_refused
    (first : (m.asked roots).find? (fun id => ! m.ids.contains id) = some id) :
    ((Catalog.resolver ⟨.ofList m.packages, false⟩).closure roots).outcome =
      .error (.unknownPackage id) := by
  rcases strict_closure m roots with ⟨all, -⟩ | ⟨x, first', refused⟩
  · obtain ⟨here, missing⟩ := not_mem_of_first first
    exact absurd (all id here) missing
  · cases first'.symm.trans first
    exact refused

/-- If not all that is reached is listed, there is a first id that is not. -/
theorem exists_first_unlisted (distinct : m.ids.Nodup)
    (unlisted : ¬ ∀ id, m.Reaches roots id → id ∈ m.ids) :
    ∃ id, (m.asked roots).find? (fun id => ! m.ids.contains id) = some id := by
  rw [← Option.isSome_iff_exists, List.find?_isSome]
  push Not at unlisted
  obtain ⟨id, reached, missing⟩ := unlisted
  exact ⟨id, (mem_asked distinct).mpr reached, by simpa using missing⟩

end PackageCensus.Manifest
