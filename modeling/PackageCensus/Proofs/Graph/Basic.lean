import Mathlib
import PackageCensus.Graph.Basic

/-! # Look-up in graphs of lists, differences and unions, and edges

A list in which no two items share a key gives for each key one item at most, wherever it stands
(`find?_eq_some_of_nodup`).  So the order of a list of packages with different ids makes no
difference to the graph of them (`ofList_of_perm`), nor to the graph that they are merged into
(`foldl_merge_of_perm`): what two graphs hold under one id is `joined` in their union
(`get?_union`).

An import is an edge as often as it is listed, if both its ends are held (`count_edges`). -/

namespace PackageCensus.Graph

/-! ### Items found by their keys -/

section Found

variable {α : Type} {key : α → String} {l m : List α}

theorem find?_eq_none_of_notMem {k : String} (h : k ∉ l.map key) :
    l.find? (key · == k) = none := by
  rw [List.find?_eq_none]
  intro a ha same
  exact h (beq_iff_eq.mp same ▸ List.mem_map_of_mem ha)

variable (nodup : (l.map key).Nodup)
include nodup

theorem find?_eq_some_of_nodup {k : String} {a : α} :
    l.find? (key · == k) = some a ↔ a ∈ l ∧ key a = k := by
  constructor
  · intro h
    have hkey := List.find?_some h
    exact ⟨List.mem_of_find?_eq_some h, by simpa using hkey⟩
  · rintro ⟨ha, rfl⟩
    have held : (l.find? (key · == key a)).isSome = true := by
      rw [List.find?_isSome]
      exact ⟨a, ha, by simp⟩
    obtain ⟨b, hb⟩ := Option.isSome_iff_exists.mp held
    have hkey : key b = key a := by simpa using List.find?_some hb
    rw [hb, List.inj_on_of_nodup_map nodup (List.mem_of_find?_eq_some hb) ha hkey]

theorem find?_of_perm (p : l.Perm m) (k : String) :
    l.find? (key · == k) = m.find? (key · == k) := by
  have nodup' : (m.map key).Nodup := (p.map key).nodup_iff.mp nodup
  ext a
  rw [find?_eq_some_of_nodup nodup, find?_eq_some_of_nodup nodup', p.mem_iff]

end Found

/-! ### The ids of a graph -/

theorem nodup_ids (g : Graph) : (g.packages.map (·.id)).Nodup :=
  List.pairwise_map.mpr (g.increasing.imp fun h => String.ne_of_lt h)

theorem get?_eq_some {g : Graph} {id : String} {p : Package} :
    g.get? id = some p ↔ p ∈ g.packages ∧ p.id = id := find?_eq_some_of_nodup g.nodup_ids

/-! ### Graphs of lists -/

theorem ofList_append (packages : List Package) (p : Package) :
    ofList (packages ++ [p]) = (ofList packages).insert p := by
  simp [ofList, List.foldl_append]

/-- Of the packages of a list with an id the last stays. -/
theorem get?_ofList (packages : List Package) (id : String) :
    (ofList packages).get? id = packages.reverse.find? (·.id == id) := by
  induction packages using List.reverseRecOn with
  | nil => rfl
  | append_singleton packages p ih =>
    rw [ofList_append, get?_insert, ih, List.reverse_append, List.reverse_singleton,
      List.singleton_append]
    by_cases h : p.id = id
    · simp [h]
    · simp [List.find?_cons_of_neg, h]

theorem contains_ofList {packages : List Package} {id : String} :
    (ofList packages).contains id = true ↔ ∃ p ∈ packages, p.id = id := by
  rw [contains_eq, get?_ofList, List.find?_isSome]
  simp

theorem get?_ofList_of_nodup {packages : List Package} (nodup : (packages.map (·.id)).Nodup)
    {id : String} {p : Package} :
    (ofList packages).get? id = some p ↔ p ∈ packages ∧ p.id = id := by
  have nodup' : (packages.reverse.map (·.id)).Nodup := by
    rw [List.map_reverse]
    exact List.nodup_reverse.mpr nodup
  rw [get?_ofList, find?_eq_some_of_nodup nodup', List.mem_reverse]

theorem ofList_perm {packages others : List Package} (nodup : (packages.map (·.id)).Nodup)
    (p : packages.Perm others) : ofList packages = ofList others := by
  have nodup' : (others.map (·.id)).Nodup := (p.map _).nodup_iff.mp nodup
  refine ext_get? fun id => Option.ext fun q => ?_
  rw [get?_ofList_of_nodup nodup, get?_ofList_of_nodup nodup', p.mem_iff]

/-- The packages of a graph make it up in any order. -/
theorem ofList_of_perm {g : Graph} {packages : List Package} (p : packages.Perm g.packages) :
    ofList packages = g := by
  have nodup : (packages.map (·.id)).Nodup := (p.map _).nodup_iff.mpr g.nodup_ids
  refine ext_get? fun id => Option.ext fun q => ?_
  rw [get?_ofList_of_nodup nodup, get?_eq_some, p.mem_iff]

/-! ### Differences -/

theorem contains_subtract {g h : Graph} {id : String} :
    (g.subtract h).contains id = true ↔ g.contains id = true ∧ h.contains id = false := by
  simp only [contains_iff, subtract, restrict, List.mem_filter, Bool.not_eq_true']
  constructor
  · rintro ⟨p, ⟨hp, hk⟩, rfl⟩
    exact ⟨⟨p, hp, rfl⟩, hk⟩
  · rintro ⟨⟨p, hp, rfl⟩, hk⟩
    exact ⟨p, ⟨hp, hk⟩, rfl⟩

/-! ### Unions -/

/-- Two packages of one id made one. -/
def joined (p q : Package) : Package := { p with imports := mergeImports p.imports q.imports }

/-- Imports that are all listed add nothing. -/
theorem mergeImports_of_subset {first second : List String} (h : ∀ id ∈ second, id ∈ first) :
    mergeImports first second = first := by
  induction second with
  | nil => rfl
  | cons id second ih =>
    have listed : first.contains id = true := List.contains_iff_mem.mpr (h id (.head _))
    rw [mergeImports, List.foldl_cons, if_pos listed]
    exact ih fun i hi => h i (.tail _ hi)

theorem joined_self (p : Package) : joined p p = p := by
  rw [joined, mergeImports_of_subset fun _ h => h]

theorem get?_merge (g : Graph) (p : Package) (id : String) :
    (g.merge p).get? id =
      if p.id = id then (g.get? id).merge joined (some p) else g.get? id := by
  unfold merge
  by_cases h : p.id = id
  · subst h
    cases hq : g.get? p.id with
    | none => simp [get?_insert]
    | some q => simp [get?_insert, get?_id hq, joined]
  · rw [if_neg h]
    cases hq : g.get? p.id with
    | none => simp [get?_insert, h]
    | some q => simp [get?_insert, get?_id hq, h]

theorem get?_foldl_merge {packages : List Package} (nodup : (packages.map (·.id)).Nodup)
    (g : Graph) (id : String) : (packages.foldl merge g).get? id =
      (g.get? id).merge joined (packages.find? (·.id == id)) := by
  induction packages generalizing g with
  | nil => simp
  | cons p packages ih =>
    rw [List.map_cons, List.nodup_cons] at nodup
    rw [List.foldl_cons, ih nodup.2, get?_merge]
    by_cases h : p.id = id
    · -- no later package has the id
      have later : packages.find? (·.id == id) = none := find?_eq_none_of_notMem (h ▸ nodup.1)
      simp [h, later]
    · simp [h]

/-- What either graph holds under an id is joined. -/
theorem get?_union (g h : Graph) (id : String) :
    (g.union h).get? id = (g.get? id).merge joined (h.get? id) :=
  get?_foldl_merge h.nodup_ids g id

theorem contains_union (g h : Graph) (id : String) :
    (g.union h).contains id = (g.contains id || h.contains id) := by
  rw [contains_eq, contains_eq, contains_eq, get?_union]
  cases g.get? id <;> cases h.get? id <;> rfl

theorem foldl_merge_of_perm {packages : List Package} {h : Graph}
    (p : packages.Perm h.packages) (g : Graph) : packages.foldl merge g = g.union h := by
  have nodup : (packages.map (·.id)).Nodup := (p.map _).nodup_iff.mpr h.nodup_ids
  refine ext_get? fun id => ?_
  rw [get?_foldl_merge nodup, get?_union, find?_of_perm nodup p]
  rfl

/-! ### Edges -/

/-- An edge links two packages of the graph. -/
theorem mem_ids_of_mem_edges {g : Graph} {e : String × String} (h : e ∈ g.edges) :
    e.1 ∈ g.ids ∧ e.2 ∈ g.ids := by
  obtain ⟨p, hp, he⟩ := List.mem_flatMap.mp h
  obtain ⟨dep, hdep, rfl⟩ := List.mem_map.mp he
  have held := (List.mem_filter.mp hdep).2
  exact ⟨List.mem_map_of_mem hp, List.mem_map.mpr (contains_iff.mp held)⟩

/-- Among pairs of a key and an item, those of one key are the items that the key has. -/
theorem count_flatMap_pairs {packages : List Package} (distinct : (packages.map (·.id)).Nodup)
    (items : Package → List String) (x y : String) :
    (packages.flatMap fun p => (items p).map (p.id, ·)).count (x, y) =
      ((packages.find? (·.id == x)).map fun p => (items p).count y).getD 0 := by
  induction packages with
  | nil => rfl
  | cons p packages ih =>
    rw [List.map_cons, List.nodup_cons] at distinct
    rw [List.flatMap_cons, List.count_append, ih distinct.2]
    by_cases hp : p.id = x
    · subst hp
      have later : packages.find? (·.id == p.id) = none := find?_eq_none_of_notMem distinct.1
      have pairs : ((items p).map (p.id, ·)).count (p.id, y) = (items p).count y :=
        List.count_map_of_injective _ _ (Prod.mk_right_injective p.id) y
      simp [later, pairs]
    · have pairs : ((items p).map (p.id, ·)).count (x, y) = 0 := by
        rw [List.count_eq_zero]
        intro h
        obtain ⟨_, -, same⟩ := List.mem_map.mp h
        exact hp (congrArg Prod.fst same)
      simp [hp, pairs]

/-- A pair is an edge as often as its second is listed among the imports of its first, if both are
held. -/
theorem count_edges {g : Graph} {p : Package} (hp : p ∈ g.packages) (y : String) :
    g.edges.count (p.id, y) = if g.contains y = true then p.imports.count y else 0 := by
  have found : g.packages.find? (·.id == p.id) = some p := get?_of_mem hp
  rw [edges, count_flatMap_pairs g.nodup_ids, found, Option.map_some, Option.getD_some]
  split
  · next held => exact List.count_filter held
  · next missing =>
    rw [List.count_eq_zero]
    exact fun h => missing (List.mem_filter.mp h).2

theorem count_edges_of_notMem {g : Graph} {x : String} (hx : g.contains x = false) (y : String) :
    g.edges.count (x, y) = 0 := by
  have missing : g.packages.find? (·.id == x) = none := by
    rw [contains_eq] at hx
    exact Option.isNone_iff_eq_none.mp (Option.isSome_eq_false_iff.mp hx)
  rw [edges, count_flatMap_pairs g.nodup_ids, missing]
  rfl

end PackageCensus.Graph
