import Mathlib
import PackageCensus.Proofs.Graph.Basic
import PackageCensus.Proofs.Graph.Reachable

/-! # Closures of different roots

A search comes to a graph exactly if the graph is `Gathered` from its roots: it holds the ids that
the roots lead to, each with the imports told of it (`search_eq_ok_iff`).  There is one such graph
at most (`Gathered.unique`), so that nothing counts but what the roots lead to: neither their order
nor how often they are given, nor whether all of it is given as roots.

Two graphs gathered from two lists of roots are one when they are joined: a package that both hold
has the same imports in both, and joining it with itself leaves them as they are
(`Gathered.union`). -/

namespace PackageCensus.Closure

variable {ε : Type} {ask : String → Except ε (List String)} {roots others : List String}

/-! ### What roots lead to -/

theorem Reaches.mono {id : String} (h : Reaches ask roots id)
    (sub : ∀ i ∈ roots, Reaches ask others i) : Reaches ask others id := by
  induction h with
  | root hid => exact sub _ hid
  | step _ answer hd ih => exact .step ih answer hd

theorem reaches_append {id : String} :
    Reaches ask (roots ++ others) id ↔ Reaches ask roots id ∨ Reaches ask others id := by
  constructor
  · intro h
    induction h with
    | root hid => exact (List.mem_append.mp hid).imp .root .root
    | step _ answer hd ih => exact ih.imp (.step · answer hd) (.step · answer hd)
  · rintro (h | h)
    · exact h.mono fun i hi => .root (List.mem_append_left _ hi)
    · exact h.mono fun i hi => .root (List.mem_append_right _ hi)

/-! ### Gathered graphs -/

/-- The graph of the ids that some roots lead to, with the imports that are told. -/
structure Gathered (ask : String → Except ε (List String)) (roots : List String) (g : Graph) :
    Prop where
  contains_iff : ∀ id, g.contains id = true ↔ Reaches ask roots id
  told : ∀ p ∈ g.packages, ask p.id = .ok p.imports

namespace Gathered

variable {g h : Graph}

theorem answered (gathered : Gathered ask roots g) {id : String} (reached : Reaches ask roots id) :
    ∃ imports, ask id = .ok imports := by
  obtain ⟨p, hp, rfl⟩ := Graph.contains_iff.mp ((gathered.contains_iff id).mpr reached)
  exact ⟨p.imports, gathered.told p hp⟩

/-- Two packages of one id in gathered graphs are the same. -/
theorem package_eq (gathered : Gathered ask roots g) (gathered' : Gathered ask others h)
    {p q : Package} (hp : p ∈ g.packages) (hq : q ∈ h.packages) (same : p.id = q.id) : p = q := by
  have told := gathered.told p hp
  have told' := gathered'.told q hq
  rw [same, told'] at told
  obtain ⟨id, imports⟩ := p
  obtain ⟨id', imports'⟩ := q
  cases same
  cases told
  rfl

/-- What one graph gathers of the other's ids is in the other. -/
theorem subset (gathered : Gathered ask roots g) (gathered' : Gathered ask others h)
    (sub : ∀ id, Reaches ask roots id → Reaches ask others id) : g.packages ⊆ h.packages := by
  intro p hp
  have reached := (gathered.contains_iff p.id).mp (Graph.contains_iff.mpr ⟨p, hp, rfl⟩)
  obtain ⟨q, hq, same⟩ := Graph.contains_iff.mp ((gathered'.contains_iff p.id).mpr (sub _ reached))
  exact gathered.package_eq gathered' hp hq same.symm ▸ hq

theorem unique (gathered : Gathered ask roots g) (gathered' : Gathered ask roots h) : g = h := by
  refine Graph.ext_get? fun id => Option.ext fun p => ?_
  rw [Graph.get?_eq_some, Graph.get?_eq_some]
  exact and_congr_left' ⟨fun hp => gathered.subset gathered' (fun _ h => h) hp,
    fun hp => gathered'.subset gathered (fun _ h => h) hp⟩

theorem congr (gathered : Gathered ask roots g)
    (same : ∀ id, Reaches ask others id ↔ Reaches ask roots id) : Gathered ask others g :=
  ⟨fun id => (gathered.contains_iff id).trans (same id).symm, gathered.told⟩

theorem union (gathered : Gathered ask roots g) (gathered' : Gathered ask others h) :
    Gathered ask (roots ++ others) (g.union h) where
  contains_iff id := by
    rw [reaches_append, ← gathered.contains_iff, ← gathered'.contains_iff, Graph.contains_eq,
      Graph.contains_eq, Graph.contains_eq, Graph.get?_union]
    cases g.get? id <;> cases h.get? id <;> simp
  told p hp := by
    have found := Graph.get?_of_mem hp
    rw [Graph.get?_union] at found
    cases hq : g.get? p.id with
    | none =>
      rw [hq, Option.merge_none_left] at found
      exact gathered'.told p (Graph.mem_of_get? found)
    | some q =>
      have mem := Graph.mem_of_get? hq
      cases hr : h.get? p.id with
      | none =>
        rw [hq, hr, Option.merge_none_right] at found
        exact Option.some_inj.mp found ▸ gathered.told q mem
      | some r =>
        have same : q = r := gathered.package_eq gathered' mem (Graph.mem_of_get? hr)
          ((Graph.get?_id hq).trans (Graph.get?_id hr).symm)
        rw [hq, hr, ← same, Option.merge_some_some, Graph.joined_self] at found
        exact Option.some_inj.mp found ▸ gathered.told q mem

/-- The ids that a gathered graph holds lead to nothing else. -/
theorem held (gathered : Gathered ask roots g)
    (same : ∀ id, id ∈ others ↔ g.contains id = true) : Gathered ask others g := by
  refine gathered.congr fun id => ⟨fun h => h.mono fun i hi => ?_, fun h => ?_⟩
  · exact (gathered.contains_iff i).mp ((same i).mp hi)
  · exact .root ((same id).mpr ((gathered.contains_iff id).mpr h))

end Gathered

/-! ### Searches -/

theorem gathered_of_search (ends : Ends ask roots .empty) {g : Graph}
    (ok : (search ask roots ends).outcome = .ok g) : Gathered ask roots g :=
  ⟨search_ok ends ok, (search_progress ends ok).told⟩

/-- A search from ids that some roots lead to comes to a graph if these have one. -/
theorem search_ok_of_gathered (ends : Ends ask others .empty) {g : Graph}
    (gathered : Gathered ask roots g) (sub : ∀ id ∈ others, Reaches ask roots id) :
    ∃ h, (search ask others ends).outcome = .ok h := by
  cases outcome : (search ask others ends).outcome with
  | ok h => exact ⟨h, rfl⟩
  | error e =>
    obtain ⟨id, reached, refused⟩ := search_error ends outcome
    obtain ⟨imports, answer⟩ := gathered.answered (reached.mono sub)
    cases refused.symm.trans answer

theorem search_eq_ok_iff (ends : Ends ask roots .empty) {g : Graph} :
    (search ask roots ends).outcome = .ok g ↔ Gathered ask roots g := by
  refine ⟨gathered_of_search ends, fun gathered => ?_⟩
  obtain ⟨h, ok⟩ := search_ok_of_gathered ends gathered fun _ hid => .root hid
  rw [ok, gathered.unique (gathered_of_search ends ok)]

theorem ends_of_reaches (finite : {id | Reaches ask roots id}.Finite)
    (sub : ∀ id ∈ others, Reaches ask roots id) : Ends ask others .empty :=
  ends_of_finite (finite.subset fun _ h => h.mono sub)

/-- A search from two lists of roots comes to a graph exactly if the searches from either do, and
the graph is then the union of theirs.  The graph of some roots is that of any roots with the same
members, it is part of that of any more roots, and it is that of all the ids that it holds. -/
theorem search_append {first second : List String}
    (finite : {id | Reaches ask first id}.Finite)
    (finite' : {id | Reaches ask second id}.Finite) :
    ∃ (ends : Ends ask first .empty) (ends' : Ends ask second .empty)
      (both : Ends ask (first ++ second) .empty),
      ((∃ k, (search ask (first ++ second) both).outcome = .ok k) ↔
        (∃ g, (search ask first ends).outcome = .ok g) ∧
          ∃ h, (search ask second ends').outcome = .ok h) ∧
      (∀ g h, (search ask first ends).outcome = .ok g →
        (search ask second ends').outcome = .ok h →
        (search ask (first ++ second) both).outcome = .ok (g.union h)) ∧
      ∀ g, (search ask first ends).outcome = .ok g →
        (∀ roots : List String, (∀ id, id ∈ roots ↔ id ∈ first) →
          ∃ again, (search ask roots again).outcome = .ok g) ∧
        (∀ (roots : List String) (more : Ends ask roots .empty) (k : Graph), first ⊆ roots →
          (search ask roots more).outcome = .ok k → g.packages ⊆ k.packages) ∧
        ∀ roots : List String, (∀ id, id ∈ roots ↔ g.contains id = true) →
          ∃ again, (search ask roots again).outcome = .ok g := by
  have ends := ends_of_finite finite
  have ends' := ends_of_finite finite'
  have both : Ends ask (first ++ second) .empty := by
    refine ends_of_finite ((finite.union finite').subset fun id h => ?_)
    exact reaches_append.mp h
  simp only [search_eq_ok_iff]
  refine ⟨ends, ends', both, ⟨?_, ?_⟩, fun g h => .union, fun g gathered => ⟨?_, ?_, ?_⟩⟩
  · rintro ⟨k, gathered⟩
    obtain ⟨g, ok⟩ := search_ok_of_gathered ends gathered fun id hid =>
      .root (List.mem_append_left _ hid)
    obtain ⟨h, ok'⟩ := search_ok_of_gathered ends' gathered fun id hid =>
      .root (List.mem_append_right _ hid)
    exact ⟨⟨g, (search_eq_ok_iff ends).mp ok⟩, h, (search_eq_ok_iff ends').mp ok'⟩
  · rintro ⟨⟨g, gathered⟩, h, gathered'⟩
    exact ⟨g.union h, gathered.union gathered'⟩
  · intro roots same
    have sub : ∀ id ∈ roots, Reaches ask first id := fun id hid => .root ((same id).mp hid)
    have sub' : ∀ id ∈ first, Reaches ask roots id := fun id hid => .root ((same id).mpr hid)
    exact ⟨ends_of_reaches finite sub, gathered.congr fun id => ⟨(·.mono sub), (·.mono sub')⟩⟩
  · intro roots _ k sub gathered'
    exact gathered.subset gathered' fun id h => h.mono fun i hi => .root (sub hi)
  · intro roots same
    refine ⟨ends_of_reaches finite fun id hid => ?_, gathered.held same⟩
    exact (gathered.contains_iff id).mp ((same id).mp hid)

/-- Two roots that lead to packages in common, one of which lists an import twice. -/
theorem search_append_shared :
    let ask : String → Except String (List String) := fun id =>
      if id = "a" then .ok ["b", "b"] else if id = "b" then .ok ["a"]
      else if id = "c" then .ok ["b", "d"] else if id = "d" then .ok [] else .error id
    {id | Reaches ask ["a"] id}.Finite ∧ {id | Reaches ask ["c"] id}.Finite ∧
      ∃ (ends : Ends ask ["a"] .empty) (ends' : Ends ask ["c"] .empty)
        (both : Ends ask (["a"] ++ ["c"]) .empty) (g h : Graph),
        (search ask ["a"] ends).outcome = .ok g ∧ (search ask ["c"] ends').outcome = .ok h ∧
        (search ask (["a"] ++ ["c"]) both).outcome = .ok (g.union h) ∧
        (g.union h).get? "a" = some ⟨"a", ["b", "b"]⟩ ∧
        (∃ again, (search ask ["a", "a"] again).outcome = .ok g) ∧
        ∃ again, (search ask g.ids again).outcome = .ok g := by
  intro ask
  have known : ∀ root ∈ ["a", "c"], ∀ id, Reaches ask [root] id → id ∈ ["a", "b", "c", "d"] := by
    intro root hroot id h
    induction h with
    | root h =>
      rw [List.mem_singleton.mp h]
      simp only [List.mem_cons, List.not_mem_nil, or_false] at hroot ⊢
      tauto
    | step _ answer hd _ =>
      simp only [ask] at answer
      split_ifs at answer <;> cases answer <;> simp at hd ⊢ <;> tauto
  have finite : ∀ root ∈ ["a", "c"], {id | Reaches ask [root] id}.Finite := fun root hroot =>
    (List.finite_toSet ["a", "b", "c", "d"]).subset (known root hroot)
  have first := finite "a" (by simp)
  have second := finite "c" (by simp)
  have made : Yields ask ["a"] .empty _ :=
    .resolved rfl rfl <| .resolved rfl rfl <| .held rfl <| .done _
  have made' : Yields ask ["c"] .empty _ :=
    .resolved rfl rfl <| .resolved rfl rfl <| .resolved rfl rfl <| .resolved rfl rfl <| .done _
  obtain ⟨ends, ends', both, -, union, again⟩ := search_append first second
  have ok := congrArg Run.outcome (walk_eq made ends)
  have ok' := congrArg Run.outcome (walk_eq made' ends')
  obtain ⟨members, -, held⟩ := again _ ok
  refine ⟨first, second, ends, ends', both, _, _, ok, ok', union _ _ ok ok', by decide,
    members ["a", "a"] (by simp), held _ fun id => ?_⟩
  rw [Graph.contains_iff, Graph.ids, List.mem_map]

end PackageCensus.Closure
