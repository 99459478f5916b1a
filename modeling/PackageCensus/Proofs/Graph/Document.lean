import PackageCensus.Proofs.Graph.Keyed
import PackageCensus.Proofs.Json.Record

/-! # Graphs in JSON documents

A graph is written as the list of its packages in order of their ids, and read from any list, of which
the last package with an id stays.  So a document of a graph tells the graph whatever the order in
which it is stored, and each graph has one document of its own (`Canonical`).  All of this holds for
any way of writing lists of packages that reading undoes (`canonical_of_list`), and both layouts are
such (`json_canonical`). -/

namespace PackageCensus.Storage

open Json (parse compactText prettyText)

/-! ### Lists of packages -/

theorem list_shape_clear : (Shaped.shape (List Package)).clear = true := by decide

theorem parse_list_compactText (packages : List Package) :
    parse (List Package) (compactText packages) = .ok packages := by
  rw [Json.parse_compactText list_shape_clear, Package.list_ofCarrier_toCarrier]

theorem parse_list_prettyText (packages : List Package) :
    parse (List Package) (prettyText packages) = .ok packages := by
  rw [Json.parse_prettyText list_shape_clear, Package.list_ofCarrier_toCarrier]

/-- A graph is read from the list of packages that a text holds. -/
theorem parse_eq (text : String) :
    parse Storage text = (parse (List Package) text).map ofList := by
  show (Json.readAs _ text).map _ = ((Json.readAs _ text).map _).map ofList
  cases Json.readAs (Shaped.shape (List Package)) text <;> rfl

/-- Look-up finds the last package of a list with an id. -/
theorem get?_ofList {packages : List Package} {id : String} {p : Package} :
    (ofList packages).get? id = some p ↔
      p.id = id ∧ ∃ before after, packages = before ++ p :: after ∧ ∀ q ∈ after, q.id ≠ id := by
  rw [(Holds.ofList packages).get?_eq, Graph.get?_ofList, List.find?_eq_some_iff_append]
  simp only [beq_iff_eq, Bool.not_eq_true', beq_eq_false_iff_ne]
  refine and_congr_right fun _ => ⟨?_, ?_⟩
  · rintro ⟨after, before, split, others⟩
    refine ⟨before.reverse, after.reverse, ?_, fun q hq => others q (List.mem_reverse.mp hq)⟩
    rw [← List.reverse_reverse packages, split]
    simp
  · rintro ⟨before, after, rfl, others⟩
    refine ⟨after.reverse, before.reverse, by simp, fun q hq => others q (List.mem_reverse.mp hq)⟩

/-! ### Graphs that are shown alike -/

theorem Holds.ofList_sorted {s : Storage} {g : Graph} (hs : s.Holds g) :
    (Storage.ofList s.sorted).Holds g := by
  have held := Holds.ofList g.packages
  rwa [Graph.ofList_of_perm (List.Perm.refl g.packages), ← hs.sorted_eq] at held

/-- Two graphs have the same packages in order exactly if they are equal. -/
theorem sorted_eq_iff {s t : Storage} (hs : Reached s) (ht : Reached t) :
    s.sorted = t.sorted ↔ s.equal t = true := by
  obtain ⟨g, hs⟩ := hs.holds
  obtain ⟨h, ht⟩ := ht.holds
  rw [equal_iff]
  constructor
  · intro same
    have held := hs.ofList_sorted
    rw [same] at held
    exact hs.trans (held.symm.trans (ht.ofList_sorted.trans ht.symm))
  · intro perm
    rw [hs.sorted_eq, (holds_of_perm hs perm).sorted_eq]

/-! ### Documents that tell graphs apart -/

/-- What makes a way of writing graphs canonical. -/
structure Canonical (write : Storage → String) : Prop where
  /-- A graph is read back from what is written of it. -/
  read_back : ∀ s, Reached s → ∃ t, parse Storage (write s) = .ok t ∧ s.equal t = true
  /-- The same is written of equal graphs, and of no others. -/
  write_eq_iff : ∀ s t, Reached s → Reached t → (write s = write t ↔ s.equal t = true)
  /-- Whatever is read as a graph is a list of packages, the last of which with an id is the one that
  the graph holds.  What is written of the graph lists all that it holds in strictly increasing
  order of the octets of ids, and reading this and writing it again changes nothing. -/
  of_parse : ∀ text t, parse Storage text = .ok t →
    (∃ packages, parse (List Package) text = .ok packages ∧ ∀ id p,
      t.get? id = some p ↔
        p.id = id ∧ ∃ before after, packages = before ++ p :: after ∧ ∀ q ∈ after, q.id ≠ id) ∧
    (∃ listed, parse (List Package) (write t) = .ok listed ∧
      (listed.Pairwise fun p q => Text.encode p.id.toList < Text.encode q.id.toList) ∧
      ∀ p, p ∈ listed ↔ t.get? p.id = some p) ∧
    (parse Storage (write t)).map write = .ok (write t)

/-- It is canonical to write the packages in order in a way that reading undoes. -/
theorem canonical_of_list {write : List Package → String}
    (reads : ∀ packages, parse (List Package) (write packages) = .ok packages) :
    Canonical fun s => write s.sorted := by
  have parsed (s : Storage) : parse Storage (write s.sorted) = .ok (ofList s.sorted) := by
    rw [parse_eq, reads]
    rfl
  constructor
  case read_back =>
    intro s reached
    obtain ⟨g, hs⟩ := reached.holds
    exact ⟨_, parsed s, hs.equal hs.ofList_sorted⟩
  case write_eq_iff =>
    intro s t hs ht
    rw [← sorted_eq_iff hs ht]
    refine ⟨fun same => ?_, fun same => congrArg write same⟩
    have read := reads s.sorted
    rw [same, reads] at read
    exact (Except.ok.inj read).symm
  case of_parse =>
    intro text t read
    rw [parse_eq] at read
    obtain ⟨packages, listed, rfl⟩ := map_eq_ok.mp read
    have hs : (ofList packages).Holds (.ofList packages) := .ofList packages
    refine ⟨⟨packages, listed, fun id p => get?_ofList⟩, ⟨_, reads _, ?_, fun p => ?_⟩, ?_⟩
    · rw [hs.sorted_eq]
      exact (Graph.ofList packages).increasing.imp Text.encode_lt_iff.mpr
    · rw [hs.sorted_eq, hs.get?_eq, Graph.get?_eq_some, and_iff_left rfl]
    · rw [parsed, Except.map, hs.ofList_sorted.sorted_eq, hs.sorted_eq]

/-- Both layouts are canonical. -/
theorem json_canonical : Canonical compactText ∧ Canonical prettyText :=
  ⟨canonical_of_list parse_list_compactText, canonical_of_list parse_list_prettyText⟩

/-- A document with a package given twice, and another order of those that stay. -/
theorem json_canonical_repeated :
    let packages : List Package := [⟨"b", ["a"]⟩, ⟨"a", []⟩, ⟨"b", []⟩]
    let s := ofList packages
    let t := ofList [⟨"a", []⟩, ⟨"b", []⟩]
    parse Storage (compactText packages) = .ok s ∧ s.get? "b" = some ⟨"b", []⟩ ∧
      s.packages ≠ t.packages ∧ compactText s = compactText t ∧
      (∃ u, parse Storage (compactText s) = .ok u ∧ s.equal u = true) ∧
      (parse Storage (compactText s)).map compactText = .ok (compactText s) := by
  intro packages s t
  have read : parse Storage (compactText packages) = .ok s := by
    rw [parse_eq, parse_list_compactText]
    rfl
  have canonical := json_canonical.1
  obtain ⟨⟨listed, parsed, last⟩, -, fixed⟩ := canonical.of_parse _ s read
  rw [parse_list_compactText] at parsed
  cases parsed
  have found : s.get? "b" = some ⟨"b", []⟩ :=
    (last "b" ⟨"b", []⟩).mpr ⟨rfl, [⟨"b", ["a"]⟩, ⟨"a", []⟩], [], rfl, nofun⟩
  exact ⟨read, found, by decide,
    (canonical.write_eq_iff s t (.ofList _) (.ofList _)).mpr (by decide),
    canonical.read_back s (.ofList _), fixed⟩

end PackageCensus.Storage
