import Mathlib
import PackageCensus.Dot.Document
import PackageCensus.Graph.Record
import PackageCensus.Proofs.Graph.Storage
import PackageCensus.Proofs.Weight.Regrouped

/-! # The order in which entries are listed

Storages of one graph differ in the order of their entries only.  What is shown of them is what is
shown of the graph, to the last octet of a document (`Holds.compactText_eq`,
`Holds.renderStored_eq`), and operations on them come to storages of one graph again: nothing tells
in which order a storage was listed (`listing_irrelevant`).

The rows of a listing of weights are kept like that as well until they are ranked. -/

namespace PackageCensus.Storage

variable {s t : Storage} {g h : Graph}

/-! ### Documents -/

theorem Holds.compactText_eq (hs : s.Holds g) : Json.compactText s = Json.compactText g := by
  show Json.writeCompact (Shaped.shape (List Package)) (Shaped.toCarrier s.sorted) = _
  rw [hs.sorted_eq]
  rfl

theorem Holds.prettyText_eq (hs : s.Holds g) : Json.prettyText s = Json.prettyText g := by
  show Json.writePretty (Shaped.shape (List Package)) (Shaped.toCarrier s.sorted) = _
  rw [hs.sorted_eq]
  rfl

theorem Holds.renderStored_eq (hs : s.Holds g) (label : Dot.Label) :
    Dot.renderStored label s = Dot.render label g := by
  rw [Dot.renderStored, hs.sorted_eq, hs.edges_eq]
  rfl

/-! ### Other listings -/

/-- Storages that list two graphs in any order come to equal storages when one is taken from the
other or both are made one, and they show the same packages, the same edges and the same documents:
those of the graphs.  Neither does a listing of weights depend on the order in which its rows were
kept, nor a drawing on the order in which packages were put in, so long as the same package stays
for each id. -/
theorem listing_irrelevant {s' t' : Storage} (hs : s.Holds g) (hs' : s'.Holds g) (ht : t.Holds h)
    (ht' : t'.Holds h) :
    ((s.subtract t).equal (s'.subtract t') = true ∧ (s.subtract t).Holds (g.subtract h)) ∧
    ((s.union t).equal (s'.union t') = true ∧ (s.union t).Holds (g.union h)) ∧
    (s.sorted = s'.sorted ∧ s.sorted = g.packages) ∧
    (s.edges = s'.edges ∧ s.edges = g.edges) ∧
    (Json.compactText s = Json.compactText s' ∧ Json.compactText s = Json.compactText g) ∧
    (Json.prettyText s = Json.prettyText s' ∧ Json.prettyText s = Json.prettyText g) ∧
    (∀ label, Dot.renderStored label s = Dot.renderStored label s' ∧
      Dot.renderStored label s = Dot.render label g) ∧
    (∀ (symbols : List Symbol) (rows : List PackageWeight),
      rows.Perm (symbols.foldl Weight.charge []) → Weight.rank rows = Weight.aggregate symbols) ∧
    ∀ packages others : List Package,
      (∀ id, (ofList packages).get? id = (ofList others).get? id) →
      ∀ u v : Storage, u.entries.Perm (ofList packages).entries →
        v.entries.Perm (ofList others).entries →
        ∀ label, Dot.renderStored label u = Dot.renderStored label v := by
  refine ⟨⟨(hs.subtract ht).equal (hs'.subtract ht'), hs.subtract ht⟩,
    ⟨(hs.union ht).equal (hs'.union ht'), hs.union ht⟩,
    ⟨hs.sorted_eq.trans hs'.sorted_eq.symm, hs.sorted_eq⟩,
    ⟨hs.edges_eq.trans hs'.edges_eq.symm, hs.edges_eq⟩,
    ⟨hs.compactText_eq.trans hs'.compactText_eq.symm, hs.compactText_eq⟩,
    ⟨hs.prettyText_eq.trans hs'.prettyText_eq.symm, hs.prettyText_eq⟩,
    fun label => ⟨?_, hs.renderStored_eq label⟩, fun symbols rows p => ?_, ?_⟩
  · rw [hs.renderStored_eq, hs'.renderStored_eq]
  · have nodup := (Weight.Tally.foldl_charge symbols).nodup
    exact (Weight.rank_of_perm nodup p.symm).symm
  · intro packages others same u v pu pv label
    have held : (ofList others).Holds (.ofList packages) :=
      holds_of_perm (.ofList packages) (perm_iff.mpr same)
    rw [(holds_of_perm (.ofList packages) pu.symm).renderStored_eq,
      (holds_of_perm held pv.symm).renderStored_eq]

/-- Two storages that hold a package in common, and the same two listed backwards. -/
theorem listing_irrelevant_backwards :
    let backwards (s : Storage) : Storage :=
      ⟨s.entries.reverse, by rw [List.map_reverse]; exact List.nodup_reverse.mpr s.distinct⟩
    let s := Storage.ofList [⟨"b", ["a", "a"]⟩, ⟨"a", ["b", "x"]⟩]
    let t := Storage.ofList [⟨"c", []⟩, ⟨"b", ["c", "a"]⟩]
    let g := Graph.ofList [⟨"b", ["a", "a"]⟩, ⟨"a", ["b", "x"]⟩]
    let h := Graph.ofList [⟨"c", []⟩, ⟨"b", ["c", "a"]⟩]
    s.Holds g ∧ (backwards s).Holds g ∧ t.Holds h ∧ (backwards t).Holds h ∧
      (backwards s).packages ≠ s.packages ∧
      (s.union t).equal ((backwards s).union (backwards t)) = true ∧
      s.edges = [("a", "b"), ("b", "a"), ("b", "a")] ∧
      Dot.renderStored .ofId s = Dot.renderStored .ofId (backwards s) := by
  intro backwards s t g h
  have hs : s.Holds g := .ofList _
  have ht : t.Holds h := .ofList _
  have hs' : (backwards s).Holds g := holds_of_perm hs (List.reverse_perm _).symm
  have ht' : (backwards t).Holds h := holds_of_perm ht (List.reverse_perm _).symm
  obtain ⟨-, union, -, edges, -, -, drawn, -⟩ := listing_irrelevant hs hs' ht ht'
  exact ⟨hs, hs', ht, ht', by decide, union.1, edges.2.trans (by decide), (drawn .ofId).1⟩

end PackageCensus.Storage
