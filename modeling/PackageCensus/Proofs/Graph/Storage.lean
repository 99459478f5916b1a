import Mathlib
import PackageCensus.Graph.Closure
import PackageCensus.Graph.Storage
import PackageCensus.Proofs.Graph.Basic

/-! # What a storage holds

`s.Holds g` says that a storage lists the packages of a graph under their ids, in whatever order.
It does so exactly if look-up gives the same in both (`holds_iff`), and every operation on a
storage keeps step with that on the graph: `Holds.insert`, `Holds.subtract`, `Holds.union`, and for
a walk along imports `Fills.yields` and `fills_of_yields`.  What is shown of a storage is what is
shown of the graph that it holds (`Holds.sorted_eq`, `Holds.edges_eq`).

A storage that is `Keyed`, with every package under its own id, holds a graph (`Keyed.holds`). -/

namespace PackageCensus.Storage

/-! ### Look-up -/

theorem get?_eq_some {s : Storage} {key : String} {p : Package} :
    s.get? key = some p ↔ (key, p) ∈ s.entries := by
  rw [get?, Option.map_eq_some_iff]
  constructor
  · rintro ⟨e, he, rfl⟩
    obtain ⟨hmem, rfl⟩ := (Graph.find?_eq_some_of_nodup s.distinct).mp he
    exact hmem
  · intro h
    exact ⟨_, (Graph.find?_eq_some_of_nodup s.distinct).mpr ⟨h, rfl⟩, rfl⟩

theorem contains_eq (s : Storage) (key : String) : s.contains key = (s.get? key).isSome := by
  rw [Bool.eq_iff_iff]
  simp [contains, get?, List.find?_isSome]

theorem find?_exchange (key : String) (p : Package) (id : String) :
    ∀ entries : List (String × Package),
      ((exchange key p entries).2.find? (·.1 == id)).map (·.2) =
        if key = id then some p else (entries.find? (·.1 == id)).map (·.2)
  | [] => by by_cases h : key = id <;> simp [exchange, h]
  | e :: rest => by
    unfold exchange
    by_cases he : e.1 = key
    · by_cases h : key = id
      · simp [he, h]
      · simp [he, h]
    · rw [if_neg he]
      by_cases hid : e.1 = id
      · have hne : key ≠ id := fun h => he (hid.trans h.symm)
        simp [hid, hne]
      · simpa [hid] using find?_exchange key p id rest

theorem get?_insert (s : Storage) (p : Package) (id : String) :
    (s.insert p).2.get? id = if p.id = id then some p else s.get? id :=
  find?_exchange p.id p id s.entries

/-- Putting a package in tells which one was under its id. -/
theorem insert_fst (s : Storage) (p : Package) : (s.insert p).1 = s.get? p.id := by
  show (exchange p.id p s.entries).1 = (s.entries.find? (·.1 == p.id)).map (·.2)
  induction s.entries with
  | nil => rfl
  | cons e rest ih =>
    unfold exchange
    by_cases he : e.1 = p.id
    · simp [he]
    · simpa [he] using ih

theorem get?_extend (s : Storage) (key : String) (imports : List String) (id : String) :
    (s.extend key imports).get? id =
      (s.get? id).map fun p => (gain key imports (id, p)).2 := by
  have same : ((·.1 == id) ∘ gain key imports : String × Package → Bool) = (·.1 == id) :=
    funext fun e => by rw [Function.comp_apply, gain_fst]
  rw [get?, get?, extend, List.find?_map, same, Option.map_map, Option.map_map]
  cases found : s.entries.find? (·.1 == id) with
  | none => rfl
  | some e =>
    have hid : e.1 = id := by simpa using List.find?_some found
    subst hid
    rfl

theorem get?_merge (s : Storage) (p : Package) (id : String) :
    (s.merge p).get? id =
      if p.id = id then (s.get? id).merge Graph.joined (some p) else s.get? id := by
  unfold merge
  rw [contains_eq]
  by_cases h : p.id = id
  · subst h
    cases hq : s.get? p.id with
    | none => simp [get?_insert]
    | some q => simp [get?_extend, hq, gain, Graph.joined]
  · rw [if_neg h]
    split
    · simp [get?_extend, gain, Ne.symm h]
    · simp [get?_insert, h]

theorem nodup_entries (s : Storage) : s.entries.Nodup := List.Nodup.of_map _ s.distinct

/-- Storages with the same look-up have the same entries. -/
theorem perm_iff {s t : Storage} :
    s.entries.Perm t.entries ↔ ∀ key, s.get? key = t.get? key := by
  rw [List.perm_ext_iff_of_nodup s.nodup_entries t.nodup_entries]
  constructor
  · intro same key
    refine Option.ext fun p => ?_
    rw [get?_eq_some, get?_eq_some, same]
  · rintro same ⟨key, p⟩
    rw [← get?_eq_some, ← get?_eq_some, same]

theorem equal_iff {s t : Storage} : s.equal t = true ↔ s.entries.Perm t.entries := by
  rw [equal, Bool.and_eq_true, beq_iff_eq, List.all_eq_true]
  constructor
  · rintro ⟨hsize, hall⟩
    have sub : s.entries ⊆ t.entries := fun e he =>
      get?_eq_some.mp (beq_iff_eq.mp (hall e he))
    exact (List.subperm_of_subset s.nodup_entries sub).perm_of_length_le hsize.ge
  · intro p
    exact ⟨p.length_eq, fun e he => beq_iff_eq.mpr (get?_eq_some.mpr (p.mem_iff.mp he))⟩

/-! ### Packages in order -/

theorem notAfter_trans (p q r : Package) (hpq : notAfter p q = true) (hqr : notAfter q r = true) :
    notAfter p r = true :=
  decide_eq_true (String.le_trans (of_decide_eq_true hpq) (of_decide_eq_true hqr))

theorem notAfter_total (p q : Package) : (notAfter p q || notAfter q p) = true := by
  rw [Bool.or_eq_true, notAfter, notAfter, decide_eq_true_eq, decide_eq_true_eq]
  exact String.le_total p.id q.id

/-! ### Graphs that are held -/

/-- The storage lists the packages of a graph, each under its id. -/
def Holds (s : Storage) (g : Graph) : Prop :=
  s.entries.Perm (g.packages.map fun p => (p.id, p))

theorem holds_iff {s : Storage} {g : Graph} : s.Holds g ↔ ∀ id, s.get? id = g.get? id := by
  have listed : (g.packages.map fun p => (p.id, p)).Nodup :=
    List.Nodup.of_map Prod.fst (by rw [List.map_map]; exact g.nodup_ids)
  have mem : ∀ (id : String) (p : Package),
      (id, p) ∈ g.packages.map (fun p => (p.id, p)) ↔ g.get? id = some p := by
    intro id p
    rw [Graph.get?_eq_some, List.mem_map]
    constructor
    · rintro ⟨q, hq, he⟩
      cases he
      exact ⟨hq, rfl⟩
    · rintro ⟨hp, rfl⟩
      exact ⟨p, hp, rfl⟩
  rw [Holds, List.perm_ext_iff_of_nodup s.nodup_entries listed]
  constructor
  · intro same id
    refine Option.ext fun p => ?_
    rw [get?_eq_some, same, mem]
  · rintro same ⟨id, p⟩
    rw [← get?_eq_some, same, mem]

theorem holds_empty : empty.Holds .empty := .nil

theorem holds_of_perm {s t : Storage} {g : Graph} (h : s.Holds g) (p : s.entries.Perm t.entries) :
    t.Holds g := p.symm.trans h

namespace Holds

variable {s t : Storage} {g h : Graph}

theorem perm (hs : s.Holds g) (ht : t.Holds g) : s.entries.Perm t.entries := hs.trans ht.symm

theorem equal (hs : s.Holds g) (ht : t.Holds g) : s.equal t = true := equal_iff.mpr (hs.perm ht)

theorem of_equal (ht : t.Holds g) (same : s.equal t = true) : s.Holds g :=
  holds_of_perm ht (equal_iff.mp same).symm

theorem get?_eq (hs : s.Holds g) (id : String) : s.get? id = g.get? id := holds_iff.mp hs id

theorem contains_eq (hs : s.Holds g) (id : String) : s.contains id = g.contains id := by
  rw [Storage.contains_eq, Graph.contains_eq, hs.get?_eq]

theorem contains_funext (hs : s.Holds g) : s.contains = g.contains := funext hs.contains_eq

theorem packages_perm (hs : s.Holds g) : s.packages.Perm g.packages := by
  have p := hs.map Prod.snd
  rwa [List.map_map, show Prod.snd ∘ (fun p : Package => (p.id, p)) = id from rfl, List.map_id] at p

theorem size_eq (hs : s.Holds g) : s.size = g.packages.length := by
  rw [size, hs.length_eq, List.length_map]

/-! ### Operations -/

theorem insert (hs : s.Holds g) (p : Package) : (s.insert p).2.Holds (g.insert p) :=
  holds_iff.mpr fun id => by rw [Storage.get?_insert, Graph.get?_insert, hs.get?_eq]

theorem merge (hs : s.Holds g) (p : Package) : (s.merge p).Holds (g.merge p) :=
  holds_iff.mpr fun id => by rw [Storage.get?_merge, Graph.get?_merge, hs.get?_eq]

/-- Steps that keep to a graph one by one do so one after the other. -/
theorem foldl {step : Storage → Package → Storage} {step' : Graph → Package → Graph}
    (keeps : ∀ {s : Storage} {g : Graph} (p : Package), s.Holds g → (step s p).Holds (step' g p))
    (packages : List Package) (hs : s.Holds g) :
    (packages.foldl step s).Holds (packages.foldl step' g) := by
  induction packages generalizing s g with
  | nil => exact hs
  | cons p packages ih => exact ih (keeps p hs)

theorem ofList (packages : List Package) : (ofList packages).Holds (.ofList packages) :=
  holds_empty.foldl (fun p hs => hs.insert p) packages

theorem subtract (hs : s.Holds g) (ht : t.Holds h) :
    (s.subtract t).Holds (g.subtract h) := by
  have kept : (s.packages.filter fun p => ! t.contains p.id).Perm (g.subtract h).packages := by
    rw [ht.contains_funext]
    exact hs.packages_perm.filter _
  exact Graph.ofList_of_perm kept ▸ ofList _

theorem union (hs : s.Holds g) (ht : t.Holds h) : (s.union t).Holds (g.union h) :=
  Graph.foldl_merge_of_perm ht.packages_perm g ▸ hs.foldl (fun p hs => hs.merge p) t.packages

/-! ### What is shown -/

/-- The packages in order of ids are those of the graph: no two of them have the same place. -/
theorem sorted_eq (hs : s.Holds g) : s.sorted = g.packages := by
  have sorted : s.sorted.Pairwise fun p q => p.id ≤ q.id :=
    (List.pairwise_mergeSort notAfter_trans notAfter_total _).imp of_decide_eq_true
  have perm : s.sorted.Perm g.packages := (List.mergeSort_perm _ _).trans hs.packages_perm
  have increasing : g.packages.Pairwise fun p q => p.id ≤ q.id :=
    g.increasing.imp fun h => String.not_lt.mp (String.lt_asymm h)
  refine List.Perm.eq_of_pairwise (fun p q hp hq hpq hqp => ?_) sorted increasing perm
  exact List.inj_on_of_nodup_map g.nodup_ids (perm.mem_iff.mp hp) hq (String.le_antisymm hpq hqp)

theorem edges_eq (hs : s.Holds g) : s.edges = g.edges := by
  rw [Storage.edges, Graph.edges, hs.sorted_eq, hs.contains_funext]

end Holds

/-! ### Walks -/

/-- A storage that holds a graph, or the same refusal on either side. -/
inductive Agree {ε : Type} : Except ε Storage → Except ε Graph → Prop
  | ok {s : Storage} {g : Graph} : s.Holds g → Agree (.ok s) (.ok g)
  | error (e : ε) : Agree (.error e) (.error e)

/-- A walk that fills a storage is the walk to the graph that the storage holds. -/
theorem Fills.yields {ε : Type} {ask : String → Except ε (List String)} {queue : List String}
    {s : Storage} {result : Except ε Storage} (filled : Fills ask queue s result) :
    ∀ {g : Graph}, s.Holds g →
      ∃ run, Closure.Yields ask queue g run ∧ Agree result run.outcome := by
  induction filled with
  | done s => exact fun {g} hs => ⟨_, .done g, .ok hs⟩
  | held held _ ih =>
    intro g hs
    obtain ⟨run, yields, agree⟩ := ih hs
    exact ⟨_, .held (hs.contains_eq _ ▸ held) yields, agree⟩
  | refused fresh answer =>
    intro g hs
    exact ⟨_, .refused (hs.contains_eq _ ▸ fresh) answer, .error _⟩
  | @resolved id rest imports s result fresh answer _ ih =>
    intro g hs
    obtain ⟨run, yields, agree⟩ := ih (hs.insert ⟨id, imports⟩)
    rw [hs.contains_funext] at yields
    exact ⟨_, .resolved (hs.contains_eq _ ▸ fresh) answer yields, agree⟩

/-- Every walk to a graph fills a storage that holds it. -/
theorem fills_of_yields {ε : Type} {ask : String → Except ε (List String)} {queue : List String}
    {g : Graph} {run : Closure.Run ε} (yields : Closure.Yields ask queue g run) :
    ∀ {s : Storage}, s.Holds g → ∃ result, Fills ask queue s result ∧ Agree result run.outcome := by
  induction yields with
  | done g => exact fun {s} hs => ⟨_, .done s, .ok hs⟩
  | held held _ ih =>
    intro s hs
    obtain ⟨result, filled, agree⟩ := ih hs
    exact ⟨_, .held (hs.contains_eq _ ▸ held) filled, agree⟩
  | refused fresh answer =>
    intro s hs
    exact ⟨_, .refused (hs.contains_eq _ ▸ fresh) answer, .error _⟩
  | @resolved id rest imports g run fresh answer _ ih =>
    intro s hs
    obtain ⟨result, filled, agree⟩ := ih (hs.insert ⟨id, imports⟩)
    rw [← hs.contains_funext] at filled
    exact ⟨_, .resolved (hs.contains_eq _ ▸ fresh) answer filled, agree⟩

/-! ### Packages under their own ids -/

/-- Every package is stored under its own id. -/
def Keyed (s : Storage) : Prop := ∀ e ∈ s.entries, e.2.id = e.1

theorem keyed_iff {s : Storage} : s.Keyed ↔ ∀ key p, s.get? key = some p → p.id = key := by
  constructor
  · exact fun h key p hp => h (key, p) (get?_eq_some.mp hp)
  · exact fun h e he => h e.1 e.2 (get?_eq_some.mpr he)

theorem Keyed.holds {s : Storage} (h : s.Keyed) : s.Holds (.ofList s.packages) := by
  have ids : s.packages.map (·.id) = s.entries.map (·.1) := by
    rw [packages, List.map_map]
    exact List.map_congr_left h
  refine holds_iff.mpr fun id => Option.ext fun p => ?_
  rw [get?_eq_some, Graph.get?_ofList_of_nodup (ids ▸ s.distinct), packages, List.mem_map]
  constructor
  · exact fun hp => ⟨⟨(id, p), hp, rfl⟩, h (id, p) hp⟩
  · rintro ⟨⟨e, he, rfl⟩, rfl⟩
    rw [h e he]
    exact he

theorem Holds.keyed {s : Storage} {g : Graph} (hs : s.Holds g) : s.Keyed :=
  keyed_iff.mpr fun key _ hp => Graph.get?_id (hs.get?_eq key ▸ hp)

end PackageCensus.Storage
