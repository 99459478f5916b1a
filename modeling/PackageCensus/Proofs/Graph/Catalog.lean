import PackageCensus.Dot.Document
import PackageCensus.Proofs.Graph.Listing
import PackageCensus.Proofs.Graph.Strict

/-! # Catalogs of manifests

A manifest gives a catalog unless it lists an id twice, and the first place at which an id is listed
again tells which one is refused (`repeated?_iff_isLeast`).  `enter` finds this place in one pass:
it puts the packages into a storage one by one and looks each id up before.  What is in the storage
are the packages before that place, so that the pass comes to the storage of the catalog, or to its
refusal (`enter_agrees`).

The order in which packages are listed makes no difference to a catalog (`catalog_of_perm`), and so
none to what it tells, to the run of a walk along it, and to the drawing of what the walk comes to
(`catalog_tells`). -/

namespace PackageCensus

namespace Storage

/-- Puts packages in one by one, up to the first whose id is a key already. -/
def enter (s : Storage) : List Package → Except ManifestError Storage
  | [] => .ok s
  | p :: rest =>
    if s.contains p.id then .error (.duplicatePackage p.id) else (s.insert p).2.enter rest

end Storage

namespace Manifest

/-! ### Ids that are listed again -/

/-- The places of a list at which an id stands that stands before it too. -/
def repeats (ids : List String) : Set Nat := {i | ∃ id, ids[i]? = some id ∧ id ∈ ids.take i}

theorem not_mem_repeats {ids : List String} (nodup : ids.Nodup) (i : Nat) : i ∉ repeats ids := by
  rintro ⟨id, hi, earlier⟩
  obtain ⟨lt, hi⟩ := List.getElem?_eq_some_iff.mp hi
  have split : ids.take i ++ id :: ids.drop (i + 1) = ids := by
    rw [← hi, ← List.drop_eq_getElem_cons lt, List.take_append_drop]
  rw [← split] at nodup
  exact (List.nodup_append.mp nodup).2.2 id earlier id (.head _) rfl

variable {m m' : Manifest} {lenient : Bool} {c : Catalog}

theorem isLeast_of_repeated? {id : String} (h : m.repeated? = some id) :
    ∃ i, IsLeast (repeats m.ids) i ∧ m.ids[i]? = some id := by
  obtain ⟨before, after, split, nodup, earlier⟩ := repeated?_eq_some.mp h
  refine ⟨before.length, ⟨⟨id, ?_, ?_⟩, ?_⟩, ?_⟩
  · simp [split]
  · simpa [split] using earlier
  · rintro k ⟨x, hx, again⟩
    by_contra small
    have within : k < before.length := Nat.lt_of_not_le small
    rw [split, List.getElem?_append_left within] at hx
    rw [split, List.take_append_of_le_length within.le] at again
    exact not_mem_repeats nodup k ⟨x, hx, again⟩
  · simp [split]

/-- The id that a manifest is refused with is the one at the first place at which an id stands
again. -/
theorem repeated?_iff_isLeast {id : String} : m.repeated? = some id ↔
    ∃ i, IsLeast (repeats m.ids) i ∧ m.ids[i]? = some id := by
  refine ⟨isLeast_of_repeated?, fun ⟨i, least, hi⟩ => ?_⟩
  cases h : m.repeated? with
  | none => exact absurd least.1 (not_mem_repeats (repeated?_eq_none.mp h) i)
  | some first =>
    obtain ⟨k, least', hk⟩ := isLeast_of_repeated? h
    rw [least'.unique least, hi] at hk
    exact hk.symm

/-- A catalog is refused with the id at the first place at which an id is listed again. -/
theorem catalog_eq_error {e : ManifestError} : m.catalog lenient = .error e ↔
    ∃ i id, IsLeast (repeats m.ids) i ∧ m.ids[i]? = some id ∧ e = .duplicatePackage id := by
  have refused : m.catalog lenient = .error e ↔
      ∃ id, m.repeated? = some id ∧ e = .duplicatePackage id := by
    unfold Manifest.catalog
    cases m.repeated? with
    | none => simp
    | some id => simp [eq_comm]
  rw [refused, exists_comm]
  simp only [repeated?_iff_isLeast]
  exact exists_congr fun id => by simp only [and_assoc, ← exists_and_right]

/-! ### Packages put in one by one -/

/-- While packages are put in, the storage holds those before, and its keys are their ids. -/
theorem enter_eq (packages : List Package) {seen : List String} {s : Storage} {g : Graph}
    (holds : s.Holds g) (keys : ∀ id, g.contains id = true ↔ id ∈ seen) :
    match repeatedAfter seen (packages.map (·.id)) with
    | some id => s.enter packages = .error (.duplicatePackage id)
    | none => ∃ t, s.enter packages = .ok t ∧ t.Holds (packages.foldl Graph.insert g) := by
  induction packages generalizing seen s g with
  | nil => exact ⟨s, rfl, holds⟩
  | cons p packages ih =>
    rw [List.map_cons, repeatedAfter, Storage.enter, holds.contains_eq]
    by_cases held : p.id ∈ seen
    · rw [if_pos held, if_pos ((keys _).mpr held)]
    · rw [if_neg held, if_neg (mt (keys _).mp held)]
      refine ih (holds.insert p) fun id => ?_
      rw [Graph.contains_insert, Bool.or_eq_true, beq_iff_eq, keys, List.mem_cons, eq_comm]

/-- One pass comes to a storage of what the catalog lists, or to the refusal of the catalog. -/
theorem enter_agrees (m : Manifest) (lenient : Bool) :
    match m.catalog lenient with
    | .ok c => ∃ t, Storage.empty.enter m.packages = .ok t ∧ t.Holds c.listing
    | .error e => Storage.empty.enter m.packages = .error e := by
  have keys : ∀ id, Graph.empty.contains id = true ↔ id ∈ ([] : List String) := by
    simp [Graph.contains_iff, Graph.empty]
  have passed := enter_eq m.packages Storage.holds_empty keys
  unfold Manifest.catalog repeated?
  cases h : repeatedAfter [] (m.packages.map (·.id)) with
  | some id => simpa only [h] using passed
  | none => simpa only [h, Graph.ofList] using passed

/-! ### Packages in another order -/

theorem ids_perm (p : m.packages.Perm m'.packages) : m.ids.Perm m'.ids := p.map Package.id

theorem catalog_of_perm (p : m.packages.Perm m'.packages) (h : m.catalog lenient = .ok c) :
    m'.catalog lenient = .ok c := by
  obtain ⟨distinct, rfl⟩ := catalog_eq_ok.mp h
  rw [catalog_of_nodup ((ids_perm p).nodup_iff.mp distinct), Graph.ofList_perm distinct p]

theorem imports_of_mem_packages (h : m.catalog lenient = .ok c) {p : Package}
    (hp : p ∈ m.packages) : c.imports p.id = .ok p.imports := by
  obtain ⟨distinct, rfl⟩ := catalog_eq_ok.mp h
  simp only [Catalog.imports, (Graph.get?_ofList_of_nodup distinct).mpr ⟨hp, rfl⟩]

/-- A manifest gives a catalog exactly if it lists no id twice, and it is refused with the id at
the first place at which an id is listed again; the packages put in one by one come to the same.
The catalog tells of a listed id its imports, and of another that it has none or that it is
unknown.  From the packages in any other order there is the same catalog: a walk from any roots
asks for the same ids in the same order and comes to the same graph or the same refusal, and what
it puts into a storage is drawn as the same document. -/
theorem catalog_tells (m : Manifest) (lenient : Bool) :
    ((∃ c, m.catalog lenient = .ok c) ↔ m.ids.Nodup) ∧
    (∀ e, m.catalog lenient = .error e ↔
      ∃ i id, IsLeast (repeats m.ids) i ∧ m.ids[i]? = some id ∧ e = .duplicatePackage id) ∧
    (∀ e, Storage.empty.enter m.packages = .error e ↔ m.catalog lenient = .error e) ∧
    ∀ c, m.catalog lenient = .ok c →
      (∃ t, Storage.empty.enter m.packages = .ok t ∧ t.Holds c.listing) ∧
      (∀ p ∈ m.packages, c.imports p.id = .ok p.imports) ∧
      (∀ id ∉ m.ids, c.imports id =
        if lenient = true then .ok [] else .error (.unknownPackage id)) ∧
      ∀ m' : Manifest, m.packages.Perm m'.packages →
        ∃ c', m'.catalog lenient = .ok c' ∧ ∀ roots,
          c'.resolver.closure roots = c.resolver.closure roots ∧
          ∀ s t, Storage.Fills c.imports roots .empty (.ok s) →
            Storage.Fills c'.imports roots .empty (.ok t) →
            ∀ label, Dot.renderStored label s = Dot.renderStored label t := by
  have agrees := enter_agrees m lenient
  refine ⟨?_, fun e => catalog_eq_error, fun e => ?_, fun c h => ⟨?_, fun p hp =>
    imports_of_mem_packages h hp, fun id unlisted => ?_, fun m' p => ⟨c, catalog_of_perm p h,
    fun roots => ⟨rfl, fun s t filled filled' label => ?_⟩⟩⟩⟩
  · constructor
    · rintro ⟨c, h⟩
      exact (catalog_eq_ok.mp h).1
    · exact fun distinct => ⟨_, catalog_of_nodup distinct lenient⟩
  · cases h : m.catalog lenient with
    | error e' =>
      simp only [h] at agrees
      rw [agrees]
      simp
    | ok c =>
      simp only [h] at agrees
      obtain ⟨t, passed, -⟩ := agrees
      simp [passed]
  · simpa only [h] using agrees
  · obtain ⟨-, rfl⟩ := catalog_eq_ok.mp h
    exact imports_of_notMem unlisted lenient
  · obtain ⟨run, yields, agree⟩ := filled.yields Storage.holds_empty
    obtain ⟨run', yields', agree'⟩ := filled'.yields Storage.holds_empty
    obtain rfl := yields.unique yields'
    generalize run.outcome = outcome at agree agree'
    cases agree with
    | ok hs =>
      cases agree' with
      | ok ht => rw [hs.renderStored_eq, ht.renderStored_eq]

/-- Of two ids that are listed again the one that comes back first is refused; and two packages,
each of which imports the other, in either order. -/
theorem catalog_tells_backwards :
    Manifest.catalog ⟨[⟨"a", []⟩, ⟨"b", ["x"]⟩, ⟨"b", []⟩, ⟨"a", []⟩]⟩ true =
        .error (.duplicatePackage "b") ∧
    ∃ c c' : Catalog,
      Manifest.catalog ⟨[⟨"a", ["b", "b", "x"]⟩, ⟨"b", ["a"]⟩]⟩ false = .ok c ∧
      Manifest.catalog ⟨[⟨"b", ["a"]⟩, ⟨"a", ["b", "b", "x"]⟩]⟩ false = .ok c' ∧
      c.imports "a" = .ok ["b", "b", "x"] ∧ c.imports "x" = .error (.unknownPackage "x") ∧
      (c'.resolver.closure ["b"]).outcome = (c.resolver.closure ["b"]).outcome := by
  obtain ⟨-, -, passed, -⟩ := catalog_tells ⟨[⟨"a", []⟩, ⟨"b", ["x"]⟩, ⟨"b", []⟩, ⟨"a", []⟩]⟩ true
  obtain ⟨listed, -, -, tells⟩ := catalog_tells ⟨[⟨"a", ["b", "b", "x"]⟩, ⟨"b", ["a"]⟩]⟩ false
  refine ⟨(passed _).mp rfl, ?_⟩
  obtain ⟨c, h⟩ := listed.mpr (by decide)
  obtain ⟨-, known, unknown, relisted⟩ := tells c h
  obtain ⟨c', h', same⟩ := relisted ⟨[⟨"b", ["a"]⟩, ⟨"a", ["b", "b", "x"]⟩]⟩ (.swap ..)
  exact ⟨c, c', h, h', known _ (.head _), unknown "x" (by decide),
    congrArg Closure.Run.outcome (same ["b"]).1⟩

end Manifest
end PackageCensus
