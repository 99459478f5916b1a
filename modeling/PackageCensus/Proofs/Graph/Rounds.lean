import PackageCensus.Graph.Catalog
import PackageCensus.Proofs.Graph.BreadthFirst
import PackageCensus.Proofs.Graph.Storage

/-! # How long a walk takes

Every round of a walk takes one id from the queue, and an id gets into the queue as a root or as one
of the imports that an answer tells.  As no id is asked for twice, the rounds are bounded by the
number of roots and the lengths of the answers, however often ids return to the queue before they
are resolved (`Yields.rounds_le`).

A catalog names finitely many ids, so that every walk along it ends.  It asks for roots and for
imports that the catalog lists, each at most once, and its rounds are bounded by the packages that
it asks for (`closure_rounds`). -/

namespace PackageCensus.Closure

variable {ε : Type} {ask : String → Except ε (List String)} {queue : List String} {g : Graph}
  {run : Run ε}

/-- The number of imports that an answer tells. -/
def answerLength (ask : String → Except ε (List String)) (id : String) : Nat :=
  match ask id with
  | .ok imports => imports.length
  | .error _ => 0

/-- A walk takes no more rounds than ids are queued at its start or told of in its answers. -/
theorem Yields.rounds_le (h : Yields ask queue g run) :
    run.rounds ≤ queue.length + (run.asked.map (answerLength ask)).sum := by
  induction h with
  | done g => exact Nat.zero_le _
  | held _ _ ih =>
    simp only [List.length_cons]
    omega
  | refused =>
    simp only [List.length_cons]
    omega
  | @resolved id rest imports g run fresh answer _ ih =>
    have here : answerLength ask id = imports.length := by simp only [answerLength, answer]
    -- Of the imports only those that are not held yet join the queue.
    have joined := List.length_filter_le (fun dep => ! g.contains dep) imports
    simp only [List.length_append, List.length_cons, List.map_cons, List.sum_cons, here] at ih ⊢
    omega

/-! ### Walks along catalogs -/

variable {c : Catalog} {roots : List String}

/-- What a catalog tells are the imports of the packages that it lists. -/
theorem sum_answerLength (c : Catalog) (asked : List String) :
    (asked.map (answerLength c.imports)).sum =
      ((asked.filterMap c.listing.get?).map (·.imports.length)).sum := by
  induction asked with
  | nil => rfl
  | cons id asked ih =>
    rw [List.map_cons, List.sum_cons, ih]
    cases found : c.listing.get? id with
    | some p =>
      have here : answerLength c.imports id = p.imports.length := by
        simp only [answerLength, Catalog.imports, found]
      rw [List.filterMap_cons_some found, List.map_cons, List.sum_cons, here]
    | none =>
      have here : answerLength c.imports id = 0 := by
        simp only [answerLength, Catalog.imports, found]
        cases c.unknownAsLeaf <;> rfl
      rw [List.filterMap_cons_none found, here, Nat.zero_add]

theorem mem_of_reaches {id : String} (h : Reaches c.imports roots id) : id ∈ roots ++ c.named := by
  cases h with
  | root hid => exact List.mem_append_left _ hid
  | step _ answer hd => exact List.mem_append_right _ (c.resolver.mem_named answer hd)

/-- A walk along a catalog ends, also where packages are kept in a storage.  It takes no more
rounds than there are roots and imports of the listed packages that it asks for, and it asks at
most once for each of the roots and of the imports that the catalog lists, and for nothing else. -/
theorem closure_rounds (c : Catalog) (roots : List String) : ∃ run,
    Yields c.imports roots .empty run ∧ c.resolver.closure roots = run ∧
    (∃ result, Storage.Fills c.imports roots .empty result ∧ Storage.Agree result run.outcome) ∧
    run.rounds ≤ roots.length + ((run.asked.filterMap c.listing.get?).map (·.imports.length)).sum ∧
    (run.asked.filterMap c.listing.get?).Nodup ∧
    run.asked.Nodup ∧
    (∀ id ∈ run.asked, id ∈ roots ∨ ∃ p ∈ c.listing.packages, id ∈ p.imports) ∧
    run.asked.length ≤ (roots ++ c.listing.packages.flatMap (·.imports)).toFinset.card := by
  have yields : Yields c.imports roots .empty (c.resolver.closure roots) := yields_walk _
  have distinct := yields.asked_fresh.1
  have within : ∀ id ∈ (c.resolver.closure roots).asked, id ∈ roots ++ c.named := fun id hid =>
    mem_of_reaches ((yields.distance_le (List.append_nil roots) .start).1 id hid).1
  refine ⟨_, yields, rfl, Storage.fills_of_yields yields Storage.holds_empty, ?_, ?_, distinct,
    fun id hid => ?_, ?_⟩
  · exact sum_answerLength c _ ▸ yields.rounds_le
  · refine distinct.filterMap fun id id' p hp hp' => ?_
    exact (Graph.get?_id hp).symm.trans (Graph.get?_id hp')
  · exact (List.mem_append.mp (within id hid)).imp_right List.mem_flatMap.mp
  · rw [← List.toFinset_card_of_nodup distinct]
    refine Finset.card_le_card fun id hid => ?_
    exact List.mem_toFinset.mpr (within id (List.mem_toFinset.mp hid))

end PackageCensus.Closure
