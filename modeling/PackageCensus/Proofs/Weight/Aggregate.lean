import Mathlib
import PackageCensus.Proofs.Quantity
import PackageCensus.Weight.Basic

/-! # What the rows of a listing hold

`Tally symbols rows` says that the rows are those of the symbols: one for each package that owns
one of them, with their number and the sum of their sizes from left to right.  Charging a symbol
keeps it (`Tally.charge`), so that it holds of `aggregate` (`tally_aggregate`), whose rows stand in
a strict order (`aggregate_heavier`).

Where no size is negative, a row has the exact sum of its sizes, and so have the rows of some
packages together, each held to the largest size (`Tally.toInt_size`, `Tally.toInt_total`): the
rows of a scope account for it (`accounts_filter`). -/

namespace PackageCensus.Weight

/-- The symbols of a package. -/
def ownedBy (package : String) (symbols : List Symbol) : List Symbol :=
  symbols.filter fun s => s.package = package

/-- Rows that are those of some symbols. -/
structure Tally (symbols : List Symbol) (rows : List PackageWeight) : Prop where
  nodup : (rows.map (·.package)).Nodup
  mem_iff : ∀ package, package ∈ rows.map (·.package) ↔ ∃ s ∈ symbols, s.package = package
  size : ∀ row ∈ rows, row.size = Quantity.sum ((ownedBy row.package symbols).map (·.size))
  count : ∀ row ∈ rows, row.symbols = (ownedBy row.package symbols).length

/-! ### Charging a symbol -/

theorem ownedBy_append (package : String) (symbols others : List Symbol) :
    ownedBy package (symbols ++ others) = ownedBy package symbols ++ ownedBy package others :=
  List.filter_append _ _

theorem ownedBy_concat (package : String) (symbols : List Symbol) (s : Symbol) :
    ownedBy package (symbols ++ [s]) =
      if s.package = package then ownedBy package symbols ++ [s] else ownedBy package symbols := by
  rw [ownedBy_append]
  by_cases h : s.package = package <;> simp [ownedBy, h]

theorem ownedBy_perm {symbols others : List Symbol} (p : symbols.Perm others) (package : String) :
    (ownedBy package symbols).Perm (ownedBy package others) := p.filter _

theorem ownedBy_eq_nil {package : String} {symbols : List Symbol} :
    ownedBy package symbols = [] ↔ ¬ ∃ s ∈ symbols, s.package = package := by
  simp [ownedBy]

theorem charge_packages (rows : List PackageWeight) (s : Symbol) :
    (charge rows s).map (·.package) =
      if s.package ∈ rows.map (·.package) then rows.map (·.package)
      else rows.map (·.package) ++ [s.package] := by
  induction rows with
  | nil => simp [charge]
  | cons row rest ih =>
    unfold charge
    by_cases h : row.package = s.package
    · simp [h]
    · rw [if_neg h, List.map_cons, ih]
      by_cases hs : s.package ∈ rest.map (·.package)
      · simp [hs]
      · simp [hs, Ne.symm h]

/-- A row after a symbol was charged is an old row of another package, the row of the package with
the symbol added, or the first row of the package. -/
theorem mem_charge {rows : List PackageWeight} {s : Symbol} {row : PackageWeight}
    (nodup : (rows.map (·.package)).Nodup) (h : row ∈ charge rows s) :
    row.package ≠ s.package ∧ row ∈ rows ∨
      row.package = s.package ∧
        ((∃ old ∈ rows, old.package = s.package ∧ row.size = Quantity.add old.size s.size ∧
          row.symbols = old.symbols + 1) ∨
        s.package ∉ rows.map (·.package) ∧ row.size = Quantity.add 0 s.size ∧
          row.symbols = 1) := by
  induction rows with
  | nil =>
    rw [charge, List.mem_singleton] at h
    subst h
    exact .inr ⟨rfl, .inr ⟨by simp, rfl, rfl⟩⟩
  | cons first rest ih =>
    rw [List.map_cons, List.nodup_cons] at nodup
    unfold charge at h
    split at h
    · next hp =>
      rcases List.mem_cons.mp h with rfl | h
      · exact .inr ⟨hp, .inl ⟨first, .head _, hp, rfl, rfl⟩⟩
      · refine .inl ⟨fun he => nodup.1 ?_, .tail _ h⟩
        rw [hp, ← he]
        exact List.mem_map_of_mem h
    · next hp =>
      rcases List.mem_cons.mp h with rfl | h
      · exact .inl ⟨hp, .head _⟩
      · rcases ih nodup.2 h with ⟨hne, hmem⟩ | ⟨he, ⟨old, hold, hrest⟩ | ⟨hnew, hrest⟩⟩
        · exact .inl ⟨hne, .tail _ hmem⟩
        · exact .inr ⟨he, .inl ⟨old, .tail _ hold, hrest⟩⟩
        · refine .inr ⟨he, .inr ⟨?_, hrest⟩⟩
          rw [List.map_cons, List.mem_cons, not_or]
          exact ⟨Ne.symm hp, hnew⟩

namespace Tally

theorem nil : Tally [] [] := ⟨.nil, by simp, by simp, by simp⟩

theorem charge {symbols : List Symbol} {rows : List PackageWeight} (h : Tally symbols rows)
    (s : Symbol) : Tally (symbols ++ [s]) (charge rows s) := by
  have owned : ∀ row ∈ Weight.charge rows s,
      row.size = Quantity.sum ((ownedBy row.package (symbols ++ [s])).map (·.size)) ∧
        row.symbols = (ownedBy row.package (symbols ++ [s])).length := by
    intro row hrow
    rw [ownedBy_concat]
    rcases mem_charge h.nodup hrow with ⟨hne, hmem⟩ | ⟨he, ⟨old, hold, hp, hsize, hcount⟩ | hnew⟩
    · rw [if_neg (Ne.symm hne)]
      exact ⟨h.size row hmem, h.count row hmem⟩
    · rw [if_pos he.symm, he, ← hp, List.map_append, List.length_append, hsize, hcount,
        h.size old hold, h.count old hold]
      exact ⟨(Quantity.sum_append _ _).symm, rfl⟩
    · obtain ⟨hnone, hsize, hcount⟩ := hnew
      have hnil : ownedBy s.package symbols = [] :=
        ownedBy_eq_nil.mpr fun hs => hnone ((h.mem_iff _).mpr hs)
      rw [if_pos he.symm, he, hnil, hsize, hcount]
      exact ⟨rfl, rfl⟩
  refine ⟨?_, ?_, fun row hrow => (owned row hrow).1, fun row hrow => (owned row hrow).2⟩
  · rw [charge_packages]
    split
    · exact h.nodup
    · next hnew => exact List.nodup_append.mpr ⟨h.nodup, by simp, by simpa using hnew⟩
  · intro package
    have owners : (∃ t ∈ symbols ++ [s], t.package = package) ↔
        package ∈ rows.map (·.package) ∨ s.package = package := by
      rw [h.mem_iff]
      simp [or_and_right, exists_or]
    rw [owners, charge_packages]
    split
    · next hold =>
      refine ⟨.inl, ?_⟩
      rintro (hp | rfl)
      · exact hp
      · exact hold
    · rw [List.mem_append, List.mem_singleton, eq_comm (a := package)]

theorem foldl_charge (symbols : List Symbol) : Tally symbols (symbols.foldl Weight.charge []) := by
  induction symbols using List.reverseRecOn with
  | nil => exact nil
  | append_singleton symbols s ih =>
    rw [List.foldl_append]
    exact ih.charge s

theorem perm {symbols : List Symbol} {rows others : List PackageWeight} (h : Tally symbols rows)
    (p : others.Perm rows) : Tally symbols others where
  nodup := (p.map _).nodup_iff.mpr h.nodup
  mem_iff package := (p.map _).mem_iff.trans (h.mem_iff package)
  size row hrow := h.size row (p.mem_iff.mp hrow)
  count row hrow := h.count row (p.mem_iff.mp hrow)

end Tally

theorem tally_aggregate (symbols : List Symbol) : Tally symbols (aggregate symbols) :=
  (Tally.foldl_charge symbols).perm (List.mergeSort_perm _ _)

/-! ### Sizes that are not negative -/

/-- The exact sum of the sizes of symbols. -/
def exactSize (symbols : List Symbol) : Int := Quantity.exactSum (symbols.map (·.size))

theorem exactSize_append (symbols others : List Symbol) :
    exactSize (symbols ++ others) = exactSize symbols + exactSize others := by
  rw [exactSize, List.map_append, Quantity.exactSum_append]
  rfl

theorem exactSize_flatMap {α : Type} (f : α → List Symbol) (l : List α) :
    exactSize (l.flatMap f) = (l.map fun a => exactSize (f a)).sum := by
  induction l with
  | nil => rfl
  | cons a l ih => rw [List.flatMap_cons, exactSize_append, ih, List.map_cons, List.sum_cons]

theorem exactSize_perm {symbols others : List Symbol} (p : symbols.Perm others) :
    exactSize symbols = exactSize others := Quantity.exactSum_perm (p.map _)

theorem ownedBy_append_perm {package : String} {packages : List String}
    (hnew : package ∉ packages) (symbols : List Symbol) :
    (ownedBy package symbols ++ symbols.filter (·.package ∈ packages)).Perm
      (symbols.filter (·.package ∈ package :: packages)) := by
  have here : (symbols.filter (·.package ∈ package :: packages)).filter (·.package = package) =
      ownedBy package symbols := by
    rw [List.filter_filter, ownedBy]
    refine List.filter_congr fun s _ => ?_
    by_cases hs : s.package = package <;> simp [hs]
  have elsewhere : (symbols.filter (·.package ∈ package :: packages)).filter
      (fun s => ! decide (s.package = package)) = symbols.filter (·.package ∈ packages) := by
    rw [List.filter_filter]
    refine List.filter_congr fun s _ => ?_
    by_cases hs : s.package = package
    · simp [hs, hnew]
    · simp [hs]
  rw [← here, ← elsewhere]
  exact List.filter_append_perm _ _

/-- The symbols of different packages are those of all of them, each once. -/
theorem flatMap_ownedBy_perm {packages : List String} (nodup : packages.Nodup)
    (symbols : List Symbol) : (packages.flatMap fun p => ownedBy p symbols).Perm
      (symbols.filter (·.package ∈ packages)) := by
  induction packages with
  | nil => simp
  | cons p packages ih =>
    rw [List.nodup_cons] at nodup
    rw [List.flatMap_cons]
    exact ((ih nodup.2).append_left _).trans (ownedBy_append_perm nodup.1 symbols)

/-- The symbols of different packages come to those of all of them. -/
theorem sum_exactSize_ownedBy {packages : List String} (nodup : packages.Nodup)
    (symbols : List Symbol) :
    (packages.map fun p => exactSize (ownedBy p symbols)).sum =
      exactSize (symbols.filter (·.package ∈ packages)) := by
  rw [← exactSize_flatMap, exactSize_perm (flatMap_ownedBy_perm nodup symbols)]

/-- The packages of the rows that are kept by their packages. -/
theorem packages_filter (rows : List PackageWeight) (keep : String → Bool) :
    (rows.filter fun row => keep row.package).map (·.package) =
      (rows.map (·.package)).filter keep := List.filter_map.symm

section Nonnegative

variable {symbols : List Symbol} (nonneg : ∀ s ∈ symbols, 0 ≤ s.size.toInt)
include nonneg

theorem sizes_nonneg : ∀ n ∈ symbols.map (·.size), 0 ≤ n.toInt := by
  intro n hn
  obtain ⟨s, hs, rfl⟩ := List.mem_map.mp hn
  exact nonneg s hs

theorem ownedBy_nonneg (package : String) : ∀ s ∈ ownedBy package symbols, 0 ≤ s.size.toInt :=
  fun s hs => nonneg s (List.mem_filter.mp hs).1

theorem exactSize_nonneg : 0 ≤ exactSize symbols := Quantity.exactSum_nonneg (sizes_nonneg nonneg)

theorem Tally.toInt_size {rows : List PackageWeight} (h : Tally symbols rows)
    {row : PackageWeight} (hrow : row ∈ rows) :
    row.size.toInt = min Quantity.greatest (exactSize (ownedBy row.package symbols)) := by
  rw [h.size row hrow]
  exact Quantity.toInt_sum (sizes_nonneg (ownedBy_nonneg nonneg row.package))

/-- Holding the weights of packages within the range does not change their sum. -/
theorem Tally.toInt_total {rows : List PackageWeight} (h : Tally symbols rows)
    (keep : String → Bool) :
    (total (rows.filter fun row => keep row.package)).toInt =
      min Quantity.greatest (exactSize (symbols.filter fun s => keep s.package)) := by
  let kept := rows.filter fun row => keep row.package
  have owned : ∀ row ∈ kept, 0 ≤ exactSize (ownedBy row.package symbols) :=
    fun row _ => exactSize_nonneg (ownedBy_nonneg nonneg row.package)
  have size : ∀ row ∈ kept, row.size.toInt =
      min Quantity.greatest (exactSize (ownedBy row.package symbols)) :=
    fun row hrow => h.toInt_size nonneg (List.mem_of_mem_filter hrow)
  have distinct : (kept.map (·.package)).Nodup := packages_filter rows keep ▸ h.nodup.filter keep
  have same : symbols.filter (·.package ∈ kept.map (·.package)) =
      symbols.filter fun s => keep s.package := by
    refine List.filter_congr fun s hs => ?_
    have held := (h.mem_iff s.package).mpr ⟨s, hs, rfl⟩
    rw [Bool.eq_iff_iff, decide_eq_true_iff, packages_filter, List.mem_filter]
    exact and_iff_right held
  calc (Quantity.sum (kept.map (·.size))).toInt
      = min Quantity.greatest (Quantity.exactSum (kept.map (·.size))) := by
        refine Quantity.toInt_sum fun n hn => ?_
        obtain ⟨row, hrow, rfl⟩ := List.mem_map.mp hn
        rw [size row hrow]
        exact le_min (by decide) (owned row hrow)
    _ = min Quantity.greatest (kept.map fun row =>
          min Quantity.greatest (exactSize (ownedBy row.package symbols))).sum := by
        rw [Quantity.exactSum, List.map_map]
        exact congrArg _ (congrArg _ (List.map_congr_left size))
    _ = min Quantity.greatest (kept.map fun row => exactSize (ownedBy row.package symbols)).sum :=
        Quantity.min_sum_map_min owned
    _ = min Quantity.greatest (exactSize (symbols.filter fun s => keep s.package)) := by
        rw [← same, ← sum_exactSize_ownedBy distinct, List.map_map]
        rfl

end Nonnegative

/-! ### The order of rows -/

/-- Whether a row stands before another of a different package. -/
def Heavier (v w : PackageWeight) : Prop :=
  w.size < v.size ∨ v.size = w.size ∧ v.package < w.package

instance : Std.Asymm Heavier where
  asymm v w h h' := by
    rcases h with h | ⟨same, h⟩
    · rcases h' with h' | ⟨same, -⟩
      · exact Int64.lt_asymm h h'
      · exact Int64.ne_of_lt h same
    · rcases h' with h' | ⟨-, h'⟩
      · exact Int64.ne_of_lt h' same
      · exact String.lt_irrefl _ (String.lt_trans h h')

theorem before_iff {v w : PackageWeight} : before v w = true ↔
    w.size.toInt < v.size.toInt ∨ v.size.toInt = w.size.toInt ∧ v.package ≤ w.package := by
  simp [before, Int64.lt_iff_toInt_lt, Int64.toInt_inj]

theorem before_trans (u v w : PackageWeight) (huv : before u v = true) (hvw : before v w = true) :
    before u w = true := by
  rw [before_iff] at *
  rcases huv with huv | ⟨huv, hle⟩
  · exact .inl (by omega)
  · rcases hvw with hvw | ⟨hvw, hle'⟩
    · exact .inl (by omega)
    · exact .inr ⟨huv.trans hvw, String.le_trans hle hle'⟩

theorem before_total (v w : PackageWeight) : (before v w || before w v) = true := by
  rw [Bool.or_eq_true, before_iff, before_iff]
  rcases Int.lt_trichotomy v.size.toInt w.size.toInt with h | h | h
  · exact .inr (.inl h)
  · rcases String.le_total v.package w.package with hle | hle
    · exact .inl (.inr ⟨h, hle⟩)
    · exact .inr (.inr ⟨h.symm, hle⟩)
  · exact .inl (.inl h)

/-- Rows of different packages are ranked in a strict order. -/
theorem rank_heavier {rows : List PackageWeight} (nodup : (rows.map (·.package)).Nodup) :
    (rank rows).Pairwise Heavier := by
  have ranked : ((rank rows).map (·.package)).Nodup :=
    ((List.mergeSort_perm rows before).map _).nodup_iff.mpr nodup
  have distinct : (rank rows).Pairwise fun v w => v.package ≠ w.package :=
    List.pairwise_map.mp ranked
  have sorted : (rank rows).Pairwise fun v w => before v w = true :=
    List.pairwise_mergeSort before_trans before_total _
  refine (sorted.and distinct).imp ?_
  rintro v w ⟨hbefore, hne⟩
  rcases before_iff.mp hbefore with h | ⟨h, hle⟩
  · exact .inl (Int64.lt_iff_toInt_lt.mpr h)
  · exact .inr ⟨Int64.toInt_inj.mp h, Std.lt_of_le_of_ne hle hne⟩

theorem aggregate_heavier (symbols : List Symbol) : (aggregate symbols).Pairwise Heavier :=
  rank_heavier (Tally.foldl_charge symbols).nodup

/-! ### The rows of a scope -/

open Classical in
/-- The symbols whose package is in a scope. -/
noncomputable def within (scope : String → Prop) (symbols : List Symbol) : List Symbol :=
  symbols.filter fun s => scope s.package

theorem within_eq {scope : String → Prop} {keep : String → Bool}
    (h : ∀ id, keep id = true ↔ scope id) {symbols : List Symbol} :
    within scope symbols = symbols.filter fun s => keep s.package := by
  simp [within, ← h]

/-- Rows, and their sum, that account for the symbols in a scope. -/
structure Accounts (symbols : List Symbol) (scope : String → Prop) (rows : List PackageWeight)
    (sum : Int64) : Prop where
  sum_eq : sum.toInt = min Quantity.greatest (exactSize (within scope symbols))
  nodup : (rows.map (·.package)).Nodup
  mem_iff : ∀ package, package ∈ rows.map (·.package) ↔
    scope package ∧ ∃ s ∈ symbols, s.package = package
  size_eq : ∀ row ∈ rows,
    row.size.toInt = min Quantity.greatest (exactSize (ownedBy row.package symbols))
  count_eq : ∀ row ∈ rows, row.symbols = (ownedBy row.package symbols).length
  heavier : rows.Pairwise Heavier

theorem Accounts.mem {symbols : List Symbol} {scope : String → Prop}
    {rows rows' : List PackageWeight} {sum sum' : Int64} (h : Accounts symbols scope rows sum)
    (h' : Accounts symbols scope rows' sum') {row : PackageWeight} (hrow : row ∈ rows) :
    row ∈ rows' := by
  have owned := (h.mem_iff row.package).mp (List.mem_map_of_mem hrow)
  obtain ⟨row', hrow', package⟩ := List.mem_map.mp ((h'.mem_iff row.package).mpr owned)
  have size : row'.size = row.size := by
    rw [← Int64.toInt_inj, h'.size_eq row' hrow', h.size_eq row hrow, package]
  have count : row'.symbols = row.symbols := by
    rw [h'.count_eq row' hrow', h.count_eq row hrow, package]
  have same : row' = row := by
    cases row
    cases row'
    cases package
    cases size
    cases count
    rfl
  exact same ▸ hrow'

/-- Only one list of rows accounts for a scope, and only one sum. -/
theorem Accounts.unique {symbols : List Symbol} {scope : String → Prop}
    {rows rows' : List PackageWeight} {sum sum' : Int64} (h : Accounts symbols scope rows sum)
    (h' : Accounts symbols scope rows' sum') : rows = rows' ∧ sum = sum' :=
  ⟨h.heavier.eq_of_mem_iff h'.heavier fun _ => ⟨h.mem h', h'.mem h⟩,
    Int64.toInt_inj.mp (h.sum_eq.trans h'.sum_eq.symm)⟩

/-- The rows of the packages of a scope account for it. -/
theorem accounts_filter {symbols : List Symbol} (nonneg : ∀ s ∈ symbols, 0 ≤ s.size.toInt)
    {scope : String → Prop} {keep : String → Bool} (h : ∀ id, keep id = true ↔ scope id) :
    Accounts symbols scope ((aggregate symbols).filter fun row => keep row.package)
      (total ((aggregate symbols).filter fun row => keep row.package)) where
  sum_eq := by
    rw [within_eq h]
    exact (tally_aggregate symbols).toInt_total nonneg keep
  nodup := by
    rw [packages_filter]
    exact (tally_aggregate symbols).nodup.filter keep
  mem_iff package := by
    rw [packages_filter, List.mem_filter, (tally_aggregate symbols).mem_iff, h, and_comm]
  size_eq row hrow :=
    (tally_aggregate symbols).toInt_size nonneg (List.mem_filter.mp hrow).1
  count_eq row hrow := (tally_aggregate symbols).count row (List.mem_filter.mp hrow).1
  heavier := (aggregate_heavier symbols).filter _

end PackageCensus.Weight
