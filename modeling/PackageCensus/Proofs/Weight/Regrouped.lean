import Mathlib
import PackageCensus.Proofs.Weight.Aggregate

/-! # Listings of symbols that are regrouped

A listing holds for each package that owns a symbol the row `weigh` gives, and no other row
(`mem_aggregate`).  Where no size is negative this row does not depend on the order of the symbols
(`weigh_perm`), and that of two lists is the rows of both made one (`weigh_append`).  Rows stand in
a strict order, so that they and not the way to them determine the listing. -/

namespace PackageCensus.Weight

/-- The row that the symbols of a package come to. -/
def weigh (package : String) (symbols : List Symbol) : PackageWeight :=
  ⟨package, Quantity.sum ((ownedBy package symbols).map (·.size)), (ownedBy package symbols).length⟩

/-- The row of a package, if there is one. -/
def row? (rows : List PackageWeight) (package : String) : Option PackageWeight :=
  rows.find? (·.package = package)

/-- Two rows of one package made one. -/
def combine (v w : PackageWeight) : PackageWeight :=
  ⟨v.package, Quantity.add v.size w.size, v.symbols + w.symbols⟩

/-! ### The rows of a listing -/

theorem Tally.eq_weigh {symbols : List Symbol} {rows : List PackageWeight}
    (h : Tally symbols rows) {row : PackageWeight} (hrow : row ∈ rows) :
    row = weigh row.package symbols := by
  have hsize := h.size row hrow
  have hcount := h.count row hrow
  obtain ⟨package, size, count⟩ := row
  simp only at hsize hcount
  rw [weigh, ← hsize, ← hcount]

/-- The rows of the symbols are those of the packages that own one of them. -/
theorem Tally.mem_iff_weigh {symbols : List Symbol} {rows : List PackageWeight}
    (h : Tally symbols rows) {row : PackageWeight} :
    row ∈ rows ↔ ownedBy row.package symbols ≠ [] ∧ row = weigh row.package symbols := by
  constructor
  · intro hrow
    have owner := (h.mem_iff row.package).mp (List.mem_map_of_mem hrow)
    exact ⟨fun none => ownedBy_eq_nil.mp none owner, h.eq_weigh hrow⟩
  · rintro ⟨owned, hrow⟩
    have owner : ∃ s ∈ symbols, s.package = row.package := by
      by_contra none
      exact owned (ownedBy_eq_nil.mpr none)
    obtain ⟨other, hmem, hp⟩ := List.mem_map.mp ((h.mem_iff _).mpr owner)
    have same := h.eq_weigh hmem
    rw [hp, ← hrow] at same
    exact same ▸ hmem

theorem mem_aggregate {symbols : List Symbol} {row : PackageWeight} :
    row ∈ aggregate symbols ↔
      ownedBy row.package symbols ≠ [] ∧ row = weigh row.package symbols :=
  (tally_aggregate symbols).mem_iff_weigh

theorem row?_aggregate (symbols : List Symbol) (package : String) :
    row? (aggregate symbols) package =
      if ownedBy package symbols = [] then none else some (weigh package symbols) := by
  cases found : row? (aggregate symbols) package with
  | none =>
    have absent : ∀ row ∈ aggregate symbols, row.package ≠ package := by
      simpa [row?] using found
    have unowned : ownedBy package symbols = [] := by
      by_contra owned
      exact absent (weigh package symbols) (mem_aggregate.mpr ⟨owned, rfl⟩) rfl
    rw [if_pos unowned]
  | some row =>
    have hp : row.package = package := by simpa using List.find?_some found
    obtain ⟨owned, hrow⟩ := mem_aggregate.mp (List.mem_of_find?_eq_some found)
    rw [hp] at owned hrow
    rw [if_neg owned, ← hrow]

/-- The numbers of the rows come to the number of the symbols. -/
theorem sum_symbols_aggregate (symbols : List Symbol) :
    ((aggregate symbols).map (·.symbols)).sum = symbols.length := by
  have tally := tally_aggregate symbols
  have everywhere : symbols.filter (·.package ∈ (aggregate symbols).map (·.package)) = symbols := by
    refine List.filter_eq_self.mpr fun s hs => decide_eq_true ?_
    exact (tally.mem_iff s.package).mpr ⟨s, hs, rfl⟩
  have all := (flatMap_ownedBy_perm tally.nodup symbols).length_eq
  rw [everywhere, List.length_flatMap, List.map_map] at all
  rw [← all]
  exact congrArg List.sum (List.map_congr_left tally.count)

theorem toInt_total_aggregate {symbols : List Symbol} (nonneg : ∀ s ∈ symbols, 0 ≤ s.size.toInt) :
    (total (aggregate symbols)).toInt = min Quantity.greatest (exactSize symbols) := by
  simpa using (tally_aggregate symbols).toInt_total nonneg fun _ => true

/-! ### Symbols in another order -/

theorem weigh_perm {symbols others : List Symbol} (nonneg : ∀ s ∈ symbols, 0 ≤ s.size.toInt)
    (p : symbols.Perm others) (package : String) :
    weigh package symbols = weigh package others := by
  have owned := ownedBy_perm p package
  have sizes := sizes_nonneg (ownedBy_nonneg nonneg package)
  rw [weigh, weigh, Quantity.sum_perm sizes (owned.map _), owned.length_eq]

/-- The order in which rows come to be ranked makes no difference. -/
theorem rank_of_perm {rows others : List PackageWeight} (nodup : (rows.map (·.package)).Nodup)
    (p : rows.Perm others) : rank rows = rank others := by
  have nodup' := (p.map (·.package)).nodup_iff.mp nodup
  refine (rank_heavier nodup).eq_of_mem_iff (rank_heavier nodup') fun row => ?_
  exact (((List.mergeSort_perm rows before).trans p).trans
    (List.mergeSort_perm others before).symm).mem_iff

theorem aggregate_perm {symbols others : List Symbol} (nonneg : ∀ s ∈ symbols, 0 ≤ s.size.toInt)
    (p : symbols.Perm others) : aggregate symbols = aggregate others := by
  refine (aggregate_heavier symbols).eq_of_mem_iff (aggregate_heavier others) fun row => ?_
  have owned := ownedBy_perm p row.package
  have none : ownedBy row.package symbols = [] ↔ ownedBy row.package others = [] := by
    rw [← List.length_eq_zero_iff, owned.length_eq, List.length_eq_zero_iff]
  rw [mem_aggregate, mem_aggregate, weigh_perm nonneg p, ne_eq, ne_eq, none]

/-! ### Symbols of two lists -/

theorem weigh_append {symbols others : List Symbol} (nonneg : ∀ s ∈ symbols, 0 ≤ s.size.toInt)
    (nonneg' : ∀ s ∈ others, 0 ≤ s.size.toInt) (package : String) :
    weigh package (symbols ++ others) =
      combine (weigh package symbols) (weigh package others) := by
  have sizes := sizes_nonneg (ownedBy_nonneg nonneg package)
  have sizes' := sizes_nonneg (ownedBy_nonneg nonneg' package)
  rw [weigh, ownedBy_append, List.map_append, Quantity.sum_append_of_nonneg sizes sizes',
    List.length_append]
  rfl

theorem row?_aggregate_append {symbols others : List Symbol}
    (nonneg : ∀ s ∈ symbols, 0 ≤ s.size.toInt) (nonneg' : ∀ s ∈ others, 0 ≤ s.size.toInt)
    (package : String) : row? (aggregate (symbols ++ others)) package =
      (row? (aggregate symbols) package).merge combine (row? (aggregate others) package) := by
  simp only [row?_aggregate, ownedBy_append, List.append_eq_nil_iff]
  by_cases h : ownedBy package symbols = []
  · have same : weigh package (symbols ++ others) = weigh package others := by
      rw [weigh, ownedBy_append, h]
      rfl
    simp [h, same]
  · by_cases h' : ownedBy package others = []
    · have same : weigh package (symbols ++ others) = weigh package symbols := by
        rw [weigh, ownedBy_append, h', List.append_nil]
        rfl
      simp [h, h', same]
    · simp [h, h', weigh_append nonneg nonneg']

/-- Where no size is negative, no size and no symbol is lost in a listing or counted twice.  There
is one row for each package that owns a symbol, with the exact sum of its sizes and their number;
the rows together come to all sizes and all symbols.  A sum past the largest size stops there,
which makes the listing no different for another order of the symbols, nor for the rows of two
lists made one. -/
theorem aggregate_conserves {symbols : List Symbol} (nonneg : ∀ s ∈ symbols, 0 ≤ s.size.toInt) :
    ((aggregate symbols).map (·.package)).Nodup ∧
    (∀ package, package ∈ (aggregate symbols).map (·.package) ↔
      ∃ s ∈ symbols, s.package = package) ∧
    (∀ row ∈ aggregate symbols,
      row.size.toInt = min Quantity.greatest (exactSize (ownedBy row.package symbols)) ∧
      row.symbols = (ownedBy row.package symbols).length) ∧
    (total (aggregate symbols)).toInt = min Quantity.greatest (exactSize symbols) ∧
    ((aggregate symbols).map (·.symbols)).sum = symbols.length ∧
    (∀ others : List Symbol, others.Perm symbols → aggregate others = aggregate symbols) ∧
    ∀ first second, first ++ second = symbols → ∀ package,
      row? (aggregate symbols) package =
        (row? (aggregate first) package).merge combine (row? (aggregate second) package) := by
  have tally := tally_aggregate symbols
  refine ⟨tally.nodup, tally.mem_iff, fun row hrow => ⟨tally.toInt_size nonneg hrow,
    tally.count row hrow⟩, toInt_total_aggregate nonneg, sum_symbols_aggregate symbols,
    fun others p => (aggregate_perm nonneg p.symm).symm, ?_⟩
  rintro first second rfl package
  refine row?_aggregate_append (fun s hs => ?_) (fun s hs => ?_) package
  · exact nonneg s (List.mem_append_left _ hs)
  · exact nonneg s (List.mem_append_right _ hs)

/-- Two symbols that come to more than the largest size, and one of no package. -/
theorem aggregate_conserves_past_greatest :
    let a : Symbol := ⟨0, 9223372036854775807, 'T', "p.a", "", ["p"], "a"⟩
    let b : Symbol := ⟨0, 7, 'T', "b", "", [], "b"⟩
    (∀ s ∈ [a, b, a], 0 ≤ s.size.toInt) ∧ aggregate [a, a, b] = aggregate [a, b, a] ∧
      (total (aggregate [a, b, a])).toInt = 9223372036854775807 ∧
      ((aggregate [a, b, a]).map (·.symbols)).sum = 3 ∧
      ∃ row, row? (aggregate [a, b, a]) "p" = some row ∧ row.symbols = 2 := by
  intro a b
  have nonneg : ∀ s ∈ [a, b, a], 0 ≤ s.size.toInt := by decide
  obtain ⟨-, -, -, total, count, order, parts⟩ := aggregate_conserves nonneg
  refine ⟨nonneg, order _ (.cons _ (.swap _ _ _)), total.trans (by decide), count, ?_⟩
  have first : row? (aggregate [a]) "p" = some ⟨"p", 9223372036854775807, 1⟩ := by
    rw [row?_aggregate]
    rfl
  have second : row? (aggregate [b, a]) "p" = some ⟨"p", 9223372036854775807, 1⟩ := by
    rw [row?_aggregate]
    rfl
  have both : row? (aggregate [a, b, a]) "p" = some ⟨"p", 9223372036854775807, 2⟩ := by
    rw [parts [a] [b, a] rfl, first, second]
    rfl
  exact ⟨_, both, rfl⟩

end PackageCensus.Weight
