import Mathlib
import PackageCensus.Proofs.Graph.Basic
import PackageCensus.Proofs.Weight.Regrouped

/-! # The one listing of some symbols

`Listing symbols rows` says all that is promised of a listing: which packages have a row, what stands
in it, and in what order the rows stand.  Only one list of rows is as it says, and it is the one that
`aggregate` makes (`eq_aggregate_iff`).  So the rows of the packages that satisfy a test are the
listing of their symbols (`aggregate_filter`), which is how a listing is restricted to a graph. -/

namespace PackageCensus.Weight

/-- Rows that list some symbols: one for each package that owns one of them, with their number and
the sum of their sizes from left to right, which are held within the range of sizes at every step,
the heaviest row first and rows of one weight by name. -/
structure Listing (symbols : List Symbol) (rows : List PackageWeight) : Prop where
  nodup : (rows.map (·.package)).Nodup
  mem_iff : ∀ package, package ∈ rows.map (·.package) ↔ ∃ s ∈ symbols, s.package = package
  count : ∀ row ∈ rows, row.symbols = (ownedBy row.package symbols).length
  size : ∀ row ∈ rows,
    row.size.toInt = Quantity.heldSum ((ownedBy row.package symbols).map (·.size.toInt))
  total_count : (rows.map (·.symbols)).sum = symbols.length
  heavier : rows.Pairwise Heavier

theorem toInt_sum_sizes (symbols : List Symbol) :
    (Quantity.sum (symbols.map (·.size))).toInt =
      Quantity.heldSum (symbols.map (·.size.toInt)) := by
  rw [Quantity.toInt_sum_eq_heldSum, List.map_map]
  rfl

theorem Listing.tally {symbols : List Symbol} {rows : List PackageWeight}
    (h : Listing symbols rows) : Tally symbols rows where
  nodup := h.nodup
  mem_iff := h.mem_iff
  size row hrow := Int64.toInt_inj.mp ((h.size row hrow).trans (toInt_sum_sizes _).symm)
  count := h.count

theorem listing_aggregate (symbols : List Symbol) : Listing symbols (aggregate symbols) where
  nodup := (tally_aggregate symbols).nodup
  mem_iff := (tally_aggregate symbols).mem_iff
  count := (tally_aggregate symbols).count
  size row hrow := by rw [(tally_aggregate symbols).size row hrow, toInt_sum_sizes]
  total_count := sum_symbols_aggregate symbols
  heavier := aggregate_heavier symbols

/-- The listing that `aggregate` makes is the only one of its symbols. -/
theorem eq_aggregate_iff {symbols : List Symbol} {rows : List PackageWeight} :
    rows = aggregate symbols ↔ Listing symbols rows := by
  constructor
  · rintro rfl
    exact listing_aggregate symbols
  · intro h
    refine h.heavier.eq_of_mem_iff (aggregate_heavier symbols) fun row => ?_
    rw [h.tally.mem_iff_weigh, mem_aggregate]

/-- Sums are held within the range from left to right, and paths of one text share a row. -/
example :
    aggregate [⟨0, 9223372036854775807, 'T', "a/b.f", "", ["a", "b"], "f"⟩,
      ⟨0, 5, 'T', "c", "", [], "c"⟩, ⟨0, 1, 'T', "a/b.g", "", ["a/b"], "g"⟩,
      ⟨0, -2, 'T', "a/b.h", "", ["a", "b"], "h"⟩] =
    [⟨"a/b", 9223372036854775805, 3⟩, ⟨"", 5, 1⟩] := by cbv

/-! ### Restricted listings -/

theorem ownedBy_filter (keep : String → Bool) (package : String) (symbols : List Symbol) :
    ownedBy package (symbols.filter fun s => keep s.package) =
      if keep package then ownedBy package symbols else [] := by
  unfold ownedBy
  rw [List.filter_filter]
  split
  · next hkeep =>
    refine List.filter_congr fun s _ => ?_
    by_cases h : s.package = package <;> simp [h, hkeep]
  · next hkeep =>
    refine List.filter_eq_nil_iff.mpr fun s _ => ?_
    by_cases h : s.package = package <;> simp [h, hkeep]

/-- The rows of the packages that satisfy a test are the listing of their symbols. -/
theorem aggregate_filter (keep : String → Bool) (symbols : List Symbol) :
    aggregate (symbols.filter fun s => keep s.package) =
      (aggregate symbols).filter fun row => keep row.package := by
  refine (aggregate_heavier _).eq_of_mem_iff ((aggregate_heavier symbols).filter _) fun row => ?_
  rw [List.mem_filter, mem_aggregate, mem_aggregate, weigh, ownedBy_filter]
  by_cases hkeep : keep row.package = true
  · simp [hkeep, weigh]
  · simp [hkeep]

theorem mem_restrictTo {rows : List PackageWeight} {g : Graph} {row : PackageWeight} :
    row ∈ restrictTo rows g ↔ row ∈ rows ∧ g.contains row.package = true := List.mem_filter

/-- Restricting a listing to a graph is listing the symbols of its packages alone.  Of any rows, the
union of two graphs keeps those that one of them keeps, and their difference those that the first
keeps and the second does not, in the order in which they stood. -/
theorem restrictTo_commutes :
    (∀ (symbols : List Symbol) (g : Graph), restrictTo (aggregate symbols) g =
      aggregate (symbols.filter fun s => g.contains s.package)) ∧
    ∀ (rows : List PackageWeight) (g h : Graph),
      restrictTo rows (g.union h) =
        rows.filter (fun row => row ∈ restrictTo rows g ∨ row ∈ restrictTo rows h) ∧
      restrictTo rows (g.subtract h) =
        rows.filter fun row => row ∈ restrictTo rows g ∧ row ∉ restrictTo rows h := by
  refine ⟨fun symbols g => (aggregate_filter g.contains symbols).symm, fun rows g h => ⟨?_, ?_⟩⟩
  · refine List.filter_congr fun row hrow => ?_
    rw [Graph.contains_union, Bool.eq_iff_iff]
    simp [mem_restrictTo, hrow]
  · refine List.filter_congr fun row hrow => ?_
    rw [Bool.eq_iff_iff, Graph.contains_subtract]
    simp [mem_restrictTo, hrow]

end PackageCensus.Weight
