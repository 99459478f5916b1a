import Mathlib
import PackageCensus.Proofs.Graph.Keyed

/-! # Unions

When two import lists are made one, the first stays as it is, and of the second there follows what the
first does not list, each import where it is first seen (`mergeImports_eq`).  A third list may join the
two, or the second before (`mergeImports_assoc`).  What the first list repeats stays repeated, so that
all imports are told apart exactly if those of the first list are (`nodup_mergeImports`).

Look-up carries this over to graphs: their union is associative, a graph is its own union with itself
and with the empty one, and which of two graphs comes first decides on the order of imports, and on
their repetitions, but not on what is held or imported. -/

namespace PackageCensus

namespace Graph

/-! ### Merged imports -/

theorem mergeImports_concat (first second : List String) (id : String) :
    mergeImports first (second ++ [id]) =
      if (mergeImports first second).contains id then mergeImports first second
      else mergeImports first second ++ [id] := by
  rw [mergeImports, List.foldl_append]
  rfl

/-- The first list, and then what only the second lists, each import where it is first seen. -/
theorem mergeImports_eq (first second : List String) :
    mergeImports first second = first ++ (second.removeAll first).eraseDups := by
  induction second using List.reverseRecOn with
  | nil => simp [mergeImports]
  | append_singleton second id ih =>
    have later : (second ++ [id]).removeAll first =
        second.removeAll first ++ [id].removeAll first := List.filter_append ..
    rw [mergeImports_concat, ih, later, List.eraseDups_append]
    -- an import is passed over if the first list has it, or if the second has had it before
    by_cases listed : id ∈ first
    · simp [List.removeAll, listed]
    · by_cases seen : id ∈ second
      · simp [List.removeAll, listed, seen]
      · simp [List.removeAll, listed, seen, List.eraseDups_cons]

theorem mem_mergeImports {first second : List String} {id : String} :
    id ∈ mergeImports first second ↔ id ∈ first ∨ id ∈ second := by
  rw [mergeImports_eq, List.mem_append, List.mem_eraseDups, List.removeAll, List.mem_filter]
  by_cases listed : id ∈ first <;> simp [listed]

theorem prefix_mergeImports (first second : List String) : first <+: mergeImports first second :=
  ⟨_, (mergeImports_eq first second).symm⟩

theorem mergeImports_assoc (first second third : List String) :
    mergeImports (mergeImports first second) third =
      mergeImports first (mergeImports second third) := by
  induction third using List.reverseRecOn with
  | nil => rfl
  | append_singleton third id ih =>
    rw [mergeImports_concat, mergeImports_concat second, ih]
    by_cases listed : (mergeImports second third).contains id = true
    · -- then all three lists made one have it too, and neither side grows
      have both : (mergeImports first (mergeImports second third)).contains id = true := by
        simp only [List.contains_iff_mem] at listed ⊢
        exact mem_mergeImports.mpr (.inr listed)
      rw [if_pos listed, if_pos both]
    · rw [if_neg listed, mergeImports_concat]

/-- A merged list repeats no import exactly if the first list repeats none. -/
theorem nodup_mergeImports {first second : List String} :
    (mergeImports first second).Nodup ↔ first.Nodup := by
  refine ⟨fun h => h.sublist (prefix_mergeImports first second).sublist, fun h => ?_⟩
  induction second using List.reverseRecOn with
  | nil => exact h
  | append_singleton second id ih =>
    rw [mergeImports_concat]
    split
    · exact ih
    · next fresh =>
      rw [List.contains_iff_mem] at fresh
      rw [← List.concat_eq_append]
      exact ih.concat fresh

theorem nodup_eraseDups (imports : List String) : imports.eraseDups.Nodup := by
  have merged := mergeImports_eq [] imports
  have all : imports.removeAll [] = imports := List.filter_eq_self.mpr fun _ _ => rfl
  rw [all, List.nil_append] at merged
  exact merged ▸ nodup_mergeImports.mpr .nil

theorem eraseDups_of_nodup {imports : List String} (h : imports.Nodup) :
    imports.eraseDups = imports := by
  induction imports with
  | nil => rfl
  | cons id imports ih =>
    obtain ⟨fresh, h⟩ := List.nodup_cons.mp h
    have others : imports.filter (fun b => ! b == id) = imports :=
      List.filter_eq_self.mpr fun b hb => by
        simpa using fun same : b = id => fresh (same ▸ hb)
    rw [List.eraseDups_cons, others, ih h]

/-- The imports of both lists in the order in which they are first seen. -/
theorem mergeImports_eq_eraseDups_iff {first second : List String} :
    mergeImports first second = (first ++ second).eraseDups ↔ first.Nodup := by
  constructor
  · intro same
    exact nodup_mergeImports.mp (same ▸ nodup_eraseDups _)
  · intro h
    rw [mergeImports_eq, List.eraseDups_append, eraseDups_of_nodup h]

/-! ### The laws of unions -/

/-- What is imported by either of two packages is imported by the one that they make. -/
theorem mem_imports_of_merge {x y : Option Package} {r : Package} (made : x.merge joined y = some r)
    {dep : String} :
    dep ∈ r.imports ↔ (∃ p ∈ x, dep ∈ p.imports) ∨ ∃ q ∈ y, dep ∈ q.imports := by
  cases x <;> cases y <;> cases made <;> simp [joined, mem_mergeImports]

variable (g h k : Graph)

theorem joined_assoc (p q r : Package) : joined (joined p q) r = joined p (joined q r) := by
  simp only [joined, mergeImports_assoc]

theorem union_assoc : (g.union h).union k = g.union (h.union k) := by
  refine ext_get? fun id => ?_
  simp only [get?_union]
  cases g.get? id <;> cases h.get? id <;> cases k.get? id <;> simp [joined_assoc]

theorem union_self : g.union g = g := by
  refine ext_get? fun id => ?_
  rw [get?_union]
  cases g.get? id <;> simp [joined_self]

theorem union_empty : g.union .empty = g := rfl

theorem empty_union : empty.union g = g := by
  refine ext_get? fun id => ?_
  rw [get?_union, get?_empty, Option.merge_none_left]

end Graph

namespace Storage

/-! ### Storages made one -/

variable {s t u : Storage}

/-- What a union holds under an id, from what either storage holds under it. -/
theorem get?_union (hs : Reached s) (ht : Reached t) (id : String) :
    (s.union t).get? id = (s.get? id).merge Graph.joined (t.get? id) := by
  obtain ⟨g, hs⟩ := hs.holds
  obtain ⟨h, ht⟩ := ht.holds
  rw [(hs.union ht).get?_eq, hs.get?_eq, ht.get?_eq, Graph.get?_union]

/-- Unions of storages, however these are listed: it makes no difference which two of three are made
one before, a storage is its own union with itself and with the empty one, on either side, and
which of two comes first makes none to what is held or imported.  The imports in the first begin
those in the union. -/
theorem union_monoid (hs : Reached s) (ht : Reached t) (hu : Reached u) :
    (∀ left right : Storage, left.equal (s.union t) = true → right.equal (t.union u) = true →
      (left.union u).equal (s.union right) = true) ∧
    (s.union s).equal s = true ∧
    (s.union .empty).equal s = true ∧ (Storage.empty.union s).equal s = true ∧
    (∀ id, (s.union t).contains id = (t.union s).contains id) ∧
    (∀ id p q, (s.union t).get? id = some p → (t.union s).get? id = some q →
      ∀ dep, dep ∈ p.imports ↔ dep ∈ q.imports) ∧
    ∀ id p, s.get? id = some p →
      ∃ q, (s.union t).get? id = some q ∧ p.imports <+: q.imports := by
  obtain ⟨g, hg⟩ := hs.holds
  obtain ⟨h, hh⟩ := ht.holds
  obtain ⟨k, hk⟩ := hu.holds
  refine ⟨fun left right hl hr => ?_, ?_, ?_, ?_, fun id => ?_, fun id p q hp hq dep => ?_,
    fun id p hp => ?_⟩
  · have first := ((hg.union hh).of_equal hl).union hk
    rw [Graph.union_assoc] at first
    exact first.equal (hg.union ((hh.union hk).of_equal hr))
  · have twice := hg.union hg
    rw [Graph.union_self] at twice
    exact twice.equal hg
  · have before := hg.union holds_empty
    rw [Graph.union_empty] at before
    exact before.equal hg
  · have behind := holds_empty.union hg
    rw [Graph.empty_union] at behind
    exact behind.equal hg
  · rw [contains_eq, contains_eq, get?_union hs ht, get?_union ht hs]
    cases s.get? id <;> cases t.get? id <;> rfl
  · rw [get?_union hs ht] at hp
    rw [get?_union ht hs] at hq
    rw [Graph.mem_imports_of_merge hp, Graph.mem_imports_of_merge hq, or_comm]
  · rw [get?_union hs ht, hp]
    cases t.get? id with
    | none => exact ⟨p, rfl, List.prefix_rfl⟩
    | some q => exact ⟨_, rfl, Graph.prefix_mergeImports p.imports q.imports⟩

/-- Three storages that share two ids, with imports that two of them repeat. -/
theorem union_monoid_shared :
    let s := ofList [⟨"b", ["x", "x"]⟩, ⟨"a", ["b"]⟩]
    let t := ofList [⟨"c", ["y", "y"]⟩, ⟨"b", ["y", "x", "y"]⟩]
    let u := ofList [⟨"b", ["z", "y"]⟩, ⟨"c", ["z", "y"]⟩]
    Reached s ∧ Reached t ∧ Reached u ∧
      ((s.union t).union u).equal (s.union (t.union u)) = true ∧ (s.union s).equal s = true ∧
      (s.union t).contains "c" = (t.union s).contains "c" ∧
      (s.union t).get? "b" = some ⟨"b", ["x", "x", "y"]⟩ ∧
      (t.union s).get? "b" = some ⟨"b", ["y", "x", "y"]⟩ ∧
      ("x" ∈ ["x", "x", "y"] ↔ "x" ∈ ["y", "x", "y"]) := by
  intro s t u
  have hs : Reached s := .ofList _
  have ht : Reached t := .ofList _
  have hu : Reached u := .ofList _
  obtain ⟨assoc, self, -, -, held, same, -⟩ := union_monoid hs ht hu
  have first : (s.union t).get? "b" = some ⟨"b", ["x", "x", "y"]⟩ := by decide
  have last : (t.union s).get? "b" = some ⟨"b", ["y", "x", "y"]⟩ := by decide
  exact ⟨hs, ht, hu, assoc _ _ (by decide) (by decide), self, held "c", first, last,
    same "b" _ _ first last "x"⟩

/-! ### Repeated imports -/

/-- Of an id that both storages hold, a union lists the imports in the first, as they are, and then
those that only the second lists, where they are first seen.  These are the imports in both in the
order in which they are first seen exactly if the first repeats none, and only then is each of them
listed once. -/
theorem union_imports (hs : Reached s) (ht : Reached t) {id : String} {p q : Package}
    (hp : s.get? id = some p) (hq : t.get? id = some q) :
    ∃ imports, (s.union t).get? id = some ⟨id, imports⟩ ∧
      imports = p.imports ++ (q.imports.removeAll p.imports).eraseDups ∧
      (imports = (p.imports ++ q.imports).eraseDups ↔ p.imports.Nodup) ∧
      ((∀ dep, dep ∈ p.imports ∨ dep ∈ q.imports → imports.count dep = 1) ↔ p.imports.Nodup) := by
  have same : p.id = id := keyed_iff.mp (reached_iff_keyed.mp hs) id p hp
  have once : (Graph.mergeImports p.imports q.imports).Nodup ↔ p.imports.Nodup :=
    Graph.nodup_mergeImports
  refine ⟨Graph.mergeImports p.imports q.imports, ?_, Graph.mergeImports_eq ..,
    Graph.mergeImports_eq_eraseDups_iff, ?_⟩
  · rw [get?_union hs ht, hp, hq, ← same]
    rfl
  · rw [← once, List.nodup_iff_count_eq_one]
    simp only [Graph.mem_mergeImports]

/-- An import that the first of two storages repeats is repeated in their union, one that the second
repeats is not. -/
theorem union_imports_twice :
    let s := ofList [⟨"app", ["lib", "lib"]⟩]
    let t := ofList [⟨"app", ["log", "lib", "log"]⟩]
    Reached s ∧ Reached t ∧ s.get? "app" = some ⟨"app", ["lib", "lib"]⟩ ∧
      t.get? "app" = some ⟨"app", ["log", "lib", "log"]⟩ ∧
      (s.union t).get? "app" = some ⟨"app", ["lib", "lib", "log"]⟩ ∧
      ["lib", "lib", "log"] ≠ (["lib", "lib"] ++ ["log", "lib", "log"]).eraseDups := by
  intro s t
  have hs : Reached s := .ofList _
  have ht : Reached t := .ofList _
  have hp : s.get? "app" = some ⟨"app", ["lib", "lib"]⟩ := by decide
  have hq : t.get? "app" = some ⟨"app", ["log", "lib", "log"]⟩ := by decide
  obtain ⟨imports, merged, listed, once, -⟩ := union_imports hs ht hp hq
  have imports_eq : imports = ["lib", "lib", "log"] := listed.trans (by decide)
  rw [imports_eq] at merged once
  exact ⟨hs, ht, hp, hq, merged, fun same => absurd (once.mp same) (by decide)⟩

/-- It is not so that a union lists every import of an id once that both storages hold. -/
theorem union_repeats_imports :
    ¬ ∀ s t : Storage, Reached s → Reached t → ∀ (id : String) (p q r : Package),
      s.get? id = some p → t.get? id = some q → (s.union t).get? id = some r →
      ∀ dep, dep ∈ p.imports ∨ dep ∈ q.imports → r.imports.count dep = 1 := by
  intro once
  have twice := once (ofList [⟨"app", ["lib", "lib"]⟩]) (ofList [⟨"app", ["log"]⟩]) (.ofList _)
    (.ofList _) "app" ⟨"app", ["lib", "lib"]⟩ ⟨"app", ["log"]⟩ ⟨"app", ["lib", "lib", "log"]⟩
    (by decide) (by decide) (by decide) "lib" (.inl (by decide))
  exact absurd twice (by decide)

end Storage
end PackageCensus
