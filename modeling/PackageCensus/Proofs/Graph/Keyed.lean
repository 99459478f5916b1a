import Mathlib
import PackageCensus.Graph.Record
import PackageCensus.Proofs.Except
import PackageCensus.Proofs.Graph.Storage
import PackageCensus.Proofs.Text.Order
import PackageCensus.StandardList

/-! # Packages stay under their own ids

`Reached` are the storages that the operations come to, from packages and documents of any kind,
listed anew at any time.  Each operation on storages that hold graphs gives one that holds a graph
(`Reached.holds`), so that no package is ever stored under another id than its own
(`reached_iff_keyed`), and look-up, the packages in order and their number all tell the same ids
(`reached_keyed`). -/

namespace PackageCensus.Storage

/-- The storages that operations come to. -/
inductive Reached : Storage → Prop
  | empty : Reached .empty
  | insert {s : Storage} (p : Package) : Reached s → Reached (s.insert p).2
  | ofList (packages : List Package) : Reached (.ofList packages)
  | json {s : Storage} {document : String} : Json.parse Storage document = .ok s → Reached s
  | yaml {s : Storage} {document : String} : Yaml.parse Storage document = some s → Reached s
  | subtract {s t : Storage} : Reached s → Reached t → Reached (s.subtract t)
  | union {s t : Storage} : Reached s → Reached t → Reached (s.union t)
  | closure {ε : Type} {ask : String → Except ε (List String)} {roots : List String}
    {s : Storage} : Fills ask roots .empty (.ok s) → Reached s
  | standard (text : String) : Reached (StandardList.store text)
  /-- The order in which entries are listed may change at any time. -/
  | relisted {s t : Storage} : Reached s → s.entries.Perm t.entries → Reached t

/-- Whatever operations come to holds a graph. -/
theorem Reached.holds {s : Storage} (h : Reached s) : ∃ g, s.Holds g := by
  induction h with
  | empty => exact ⟨_, holds_empty⟩
  | insert p _ ih =>
    obtain ⟨g, hs⟩ := ih
    exact ⟨_, hs.insert p⟩
  | ofList packages => exact ⟨_, .ofList packages⟩
  | json parsed =>
    obtain ⟨packages, -, rfl⟩ := map_eq_ok.mp parsed
    exact ⟨_, .ofList _⟩
  | yaml parsed =>
    obtain ⟨packages, -, rfl⟩ := Option.map_eq_some_iff.mp parsed
    exact ⟨_, .ofList _⟩
  | subtract _ _ ih ih' =>
    obtain ⟨g, hs⟩ := ih
    obtain ⟨h, ht⟩ := ih'
    exact ⟨_, hs.subtract ht⟩
  | union _ _ ih ih' =>
    obtain ⟨g, hs⟩ := ih
    obtain ⟨h, ht⟩ := ih'
    exact ⟨_, hs.union ht⟩
  | closure filled =>
    obtain ⟨run, -, agree⟩ := filled.yields holds_empty
    generalize run.outcome = outcome at agree
    cases agree with
    | ok hs => exact ⟨_, hs⟩
  | standard text => exact ⟨_, .ofList _⟩
  | relisted _ p ih =>
    obtain ⟨g, hs⟩ := ih
    exact ⟨g, holds_of_perm hs p⟩

/-- Operations come to all storages that keep every package under its own id, and to no others. -/
theorem reached_iff_keyed {s : Storage} : Reached s ↔ s.Keyed := by
  constructor
  · intro reached
    obtain ⟨g, hs⟩ := reached.holds
    exact hs.keyed
  · exact fun keyed => .relisted (.ofList s.packages) ((Holds.ofList _).perm keyed.holds)

/-- One package at most has an id in a graph. -/
theorem countP_packages (g : Graph) (id : String) :
    g.packages.countP (·.id == id) = if g.contains id = true then 1 else 0 := by
  have count : g.packages.countP (·.id == id) = (g.packages.map (·.id)).count id := by
    rw [List.count, List.countP_map]
    rfl
  rw [count, g.nodup_ids.count]
  simp [Graph.contains_iff]

/-- Whatever operations come to stores every package under its own id.  So the packages in order
increase strictly by the octets of their ids and are as many as are stored; an id is a key exactly
if the package under it has it, and exactly if one of the packages in order has it, which is the
package under it; and a package put in takes the place of the one that look-up gave, and changes
look-up for no other id. -/
theorem reached_keyed {s : Storage} (reached : Reached s) :
    (∀ e ∈ s.entries, e.2.id = e.1) ∧
    (s.sorted.Pairwise fun p q => Text.encode p.id.toList < Text.encode q.id.toList) ∧
    s.sorted.length = s.size ∧
    (∀ id, (s.contains id = true ↔ ∃ p, s.get? id = some p ∧ p.id = id) ∧
      (s.contains id = true ↔ s.sorted.countP (·.id == id) = 1) ∧
      ∀ p, s.get? id = some p ↔ p ∈ s.sorted ∧ p.id = id) ∧
    ∀ p, (s.insert p).1 = s.get? p.id ∧
      ∀ id, (s.insert p).2.get? id = if id = p.id then some p else s.get? id := by
  obtain ⟨g, hs⟩ := reached.holds
  refine ⟨hs.keyed, ?_, ?_, fun id => ⟨?_, ?_, fun p => ?_⟩, fun p => ⟨s.insert_fst p, fun id => ?_⟩⟩
  · rw [hs.sorted_eq]
    exact g.increasing.imp Text.encode_lt_iff.mpr
  · rw [hs.sorted_eq, hs.size_eq]
  · rw [contains_eq, Option.isSome_iff_exists]
    exact exists_congr fun p => (and_iff_left_of_imp (keyed_iff.mp hs.keyed id p)).symm
  · rw [hs.sorted_eq, hs.contains_eq, countP_packages]
    split <;> simp_all
  · rw [hs.sorted_eq, hs.get?_eq, Graph.get?_eq_some]
  · rw [get?_insert]
    exact if_congr eq_comm rfl rfl

/-- Two storages made one, with a package given twice in the first and one that both hold. -/
theorem reached_keyed_union :
    let first := Storage.ofList [⟨"b", ["a"]⟩, ⟨"a", ["b", "b"]⟩, ⟨"b", ["c"]⟩]
    let second := Storage.ofList [⟨"c", []⟩, ⟨"b", ["c", "a"]⟩]
    let s := first.union second
    Reached s ∧ s.get? "b" = some ⟨"b", ["c", "a"]⟩ ∧ s.sorted.length = 3 ∧
      s.sorted.countP (·.id == "b") = 1 ∧ (⟨"b", ["c", "a"]⟩ : Package) ∈ s.sorted ∧
      (s.insert ⟨"b", []⟩).1 = some ⟨"b", ["c", "a"]⟩ ∧
      (s.insert ⟨"b", []⟩).2.get? "a" = some ⟨"a", ["b", "b"]⟩ := by
  intro first second s
  have reached : Reached s := .union (.ofList _) (.ofList _)
  obtain ⟨-, -, size, ids, put⟩ := reached_keyed reached
  have found : s.get? "b" = some ⟨"b", ["c", "a"]⟩ := by decide
  obtain ⟨here, once, shown⟩ := ids "b"
  refine ⟨reached, found, size.trans (by decide), once.mp (by decide), ((shown _).mp found).1,
    (put _).1.trans found, ((put _).2 "a").trans (by decide)⟩

end PackageCensus.Storage
