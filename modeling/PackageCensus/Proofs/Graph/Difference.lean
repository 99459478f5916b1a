import Mathlib
import PackageCensus.Proofs.Graph.Union

/-! # Differences

A difference keeps packages as they are and drops those whose ids the other graph holds
(`get?_subtract`), so it may be taken step by step, taken from either part of a union, and depends
on nothing else of the other graph.

Its edges are those of the graph, in their order, but for the ones with an end that was dropped
(`edges_subtract`).  An import of a dropped package stays listed; it is no edge any more. -/

namespace PackageCensus

namespace Graph

variable (g h k : Graph)

/-! ### The laws of differences -/

theorem get?_subtract (id : String) :
    (g.subtract h).get? id = if h.contains id = true then none else g.get? id := by
  ext p
  rw [get?_eq_some, subtract, restrict, List.mem_filter]
  by_cases dropped : h.contains id = true
  · rw [if_pos dropped]
    simp only [reduceCtorEq, iff_false]
    rintro ⟨⟨-, kept⟩, rfl⟩
    simp [dropped] at kept
  · rw [if_neg dropped, get?_eq_some]
    constructor
    · rintro ⟨⟨hp, -⟩, rfl⟩
      exact ⟨hp, rfl⟩
    · rintro ⟨hp, rfl⟩
      exact ⟨⟨hp, by simpa using dropped⟩, rfl⟩

theorem subtract_subtract : (g.subtract h).subtract k = g.subtract (h.union k) := by
  refine ext_get? fun id => ?_
  simp only [get?_subtract, contains_union, Bool.or_eq_true]
  by_cases hh : h.contains id = true <;> by_cases hk : k.contains id = true <;> simp [hh, hk]

theorem union_subtract : (g.union h).subtract k = (g.subtract k).union (h.subtract k) := by
  refine ext_get? fun id => ?_
  simp only [get?_subtract, get?_union]
  split <;> rfl

theorem subtract_self : g.subtract g = empty := by
  refine ext_get? fun id => ?_
  rw [get?_subtract, contains_eq]
  cases g.get? id <;> rfl

theorem subtract_empty : g.subtract empty = g := by
  refine ext_get? fun id => ?_
  rw [get?_subtract]
  rfl

/-! ### Edges -/

/-- The edges of a package with neither end dropped, if the package is kept. -/
theorem filter_edges_from (p : Package) :
    ((p.imports.filter g.contains).map (p.id, ·)).filter
        (fun e => ! h.contains e.1 && ! h.contains e.2) =
      if h.contains p.id = true then []
      else (p.imports.filter (g.subtract h).contains).map (p.id, ·) := by
  rw [List.filter_map]
  split
  · next dropped =>
    rw [List.map_eq_nil_iff, List.filter_eq_nil_iff]
    intro dep _
    simp [dropped]
  · next kept =>
    rw [List.filter_filter]
    refine congrArg _ (List.filter_congr fun dep _ => ?_)
    rw [Bool.eq_iff_iff, contains_subtract]
    simp [kept, and_comm]

/-- The edges of a difference: those with neither end dropped, in their order. -/
theorem edges_subtract : (g.subtract h).edges =
    g.edges.filter fun e => ! h.contains e.1 && ! h.contains e.2 := by
  -- to pass over packages that are dropped is to give them no edges
  have kept (packages : List Package) (items : Package → List (String × String)) :
      (packages.filter fun p => ! h.contains p.id).flatMap items =
        packages.flatMap fun p => if h.contains p.id = true then [] else items p := by
    induction packages with
    | nil => rfl
    | cons p packages ih =>
      rw [List.flatMap_cons, ← ih]
      cases dropped : h.contains p.id <;> simp [dropped]
  rw [edges, edges, List.filter_flatMap]
  simp only [filter_edges_from]
  exact kept g.packages _

/-- An edge is an import of a package that is held, of one that is held too. -/
theorem mem_edges {g : Graph} {src dst : String} : (src, dst) ∈ g.edges ↔
    ∃ p, g.get? src = some p ∧ dst ∈ p.imports ∧ g.contains dst = true := by
  simp only [edges, List.mem_flatMap, List.mem_map, List.mem_filter, Prod.mk.injEq, get?_eq_some]
  constructor
  · rintro ⟨p, hp, dep, ⟨listed, held⟩, rfl, rfl⟩
    exact ⟨p, ⟨hp, rfl⟩, listed, held⟩
  · rintro ⟨p, ⟨hp, rfl⟩, listed, held⟩
    exact ⟨p, hp, dst, ⟨listed, held⟩, rfl, rfl⟩

end Graph

namespace Storage

variable {s t u : Storage}

/-- Differences of storages, however these are listed: two may be taken one after the other or as one
of the union, a difference from a union is the union of the differences, nothing is left of a
storage without itself, and all of it without nothing.  Of the second storage only the ids count, and
a package that stays keeps its imports.  The edges of a difference are those with neither end in the
second storage, in their order; so an import of a package that was dropped, or that was never held,
stays listed and is no edge. -/
theorem subtract_laws (hs : Reached s) (ht : Reached t) (hu : Reached u) :
    (∀ left right : Storage, left.equal (s.subtract t) = true → right.equal (t.union u) = true →
      (left.subtract u).equal (s.subtract right) = true) ∧
    (∀ both left right : Storage, both.equal (s.union t) = true →
      left.equal (s.subtract u) = true → right.equal (t.subtract u) = true →
      (both.subtract u).equal (left.union right) = true) ∧
    (s.subtract s).size = 0 ∧ (s.subtract .empty).equal s = true ∧
    (∀ t' : Storage, (∀ id, t'.contains id = t.contains id) → s.subtract t' = s.subtract t) ∧
    (∀ id p, (s.subtract t).get? id = some p ↔ s.get? id = some p ∧ t.contains id = false) ∧
    (∀ rest : Storage, rest.equal (s.subtract t) = true →
      rest.edges = s.edges.filter fun e => ! t.contains e.1 && ! t.contains e.2) ∧
    ∀ src dst, (src, dst) ∈ (s.subtract t).edges ↔
      ∃ p, (s.subtract t).get? src = some p ∧ dst ∈ p.imports ∧
        s.contains dst = true ∧ t.contains dst = false := by
  obtain ⟨g, hg⟩ := hs.holds
  obtain ⟨h, hh⟩ := ht.holds
  obtain ⟨k, hk⟩ := hu.holds
  have kept := hg.subtract hh
  refine ⟨fun left right hl hr => ?_, fun both left right hb hl hr => ?_, ?_, ?_,
    fun t' same => ?_, fun id p => ?_, fun rest hrest => ?_, fun src dst => ?_⟩
  · have first := (kept.of_equal hl).subtract hk
    rw [Graph.subtract_subtract] at first
    exact first.equal (hg.subtract ((hh.union hk).of_equal hr))
  · have first := ((hg.union hh).of_equal hb).subtract hk
    rw [Graph.union_subtract] at first
    exact first.equal (((hg.subtract hk).of_equal hl).union ((hh.subtract hk).of_equal hr))
  · have nothing := hg.subtract hg
    rw [Graph.subtract_self] at nothing
    exact nothing.size_eq
  · have all := hg.subtract holds_empty
    rw [Graph.subtract_empty] at all
    exact all.equal hg
  · rw [subtract, subtract, funext same]
  · rw [kept.get?_eq, hg.get?_eq, hh.contains_eq, Graph.get?_subtract]
    cases h.contains id <;> simp
  · rw [(kept.of_equal hrest).edges_eq, hg.edges_eq, hh.contains_funext, Graph.edges_subtract]
  · rw [kept.edges_eq, Graph.mem_edges, kept.get?_eq, hg.contains_eq, hh.contains_eq]
    simp only [Graph.contains_subtract]

/-- A package that imports one that is dropped, itself and one that is not held. -/
theorem subtract_laws_dangling :
    let s := ofList [⟨"b", ["lib", "b", "gone", "a", "lib", "b"]⟩, ⟨"a", ["b", "lib"]⟩,
      ⟨"lib", ["a"]⟩]
    let t := ofList [⟨"lib", []⟩, ⟨"c", ["b"]⟩]
    let u := ofList [⟨"a", []⟩]
    Reached s ∧ Reached t ∧ Reached u ∧
      ((s.subtract t).subtract u).equal (s.subtract (t.union u)) = true ∧
      ((s.union t).subtract u).equal ((s.subtract u).union (t.subtract u)) = true ∧
      (s.subtract s).size = 0 ∧
      (s.subtract t).get? "b" = some ⟨"b", ["lib", "b", "gone", "a", "lib", "b"]⟩ ∧
      (s.subtract t).edges = [("a", "b"), ("b", "b"), ("b", "a"), ("b", "b")] ∧
      ("b", "lib") ∉ (s.subtract t).edges := by
  intro s t u
  have hs : Reached s := .ofList _
  have ht : Reached t := .ofList _
  have hu : Reached u := .ofList _
  obtain ⟨steps, parts, nothing, -, -, stays, edges, links⟩ := subtract_laws hs ht hu
  have all : s.edges = (Graph.ofList _).edges := (Holds.ofList _).edges_eq
  refine ⟨hs, ht, hu, steps _ _ (by decide) (by decide),
    parts _ _ _ (by decide) (by decide) (by decide), nothing,
    (stays _ _).mpr ⟨by decide, by decide⟩, ?_, fun link => ?_⟩
  · rw [edges _ (by decide), all]
    decide
  · obtain ⟨p, -, -, -, kept⟩ := (links _ _).mp link
    exact absurd kept (by decide)

end Storage
end PackageCensus
