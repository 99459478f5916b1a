import Mathlib
import PackageCensus.Quantity

/-! # Sums of sizes

`heldSum` is the sum of whole numbers that is held within the range of sizes at every step, which is
what sizes are summed to (`toInt_sum_eq_heldSum`).

`exactSum` is the sum of sizes as whole numbers.  Of sizes that are not negative the sum held within
the range is the exact sum, or the largest size if that is less (`toInt_sum`).  It does not matter
then in what order they are summed (`sum_perm`), nor whether parts were held within the range
before (`sum_append_of_nonneg`, `min_sum_map_min`). -/

namespace PackageCensus.Quantity

/-! ### Sums from left to right -/

/-- The sum of whole numbers from left to right, held within the range of sizes at every step. -/
def heldSum (numbers : List Int) : Int := numbers.foldl (fun sum n => clamp (sum + n)) 0

theorem toInt_foldl_add_eq (sizes : List Int64) (a : Int64) : (sizes.foldl add a).toInt =
    (sizes.map Int64.toInt).foldl (fun sum n => clamp (sum + n)) a.toInt := by
  induction sizes generalizing a with
  | nil => rfl
  | cons n sizes ih => rw [List.foldl_cons, ih, toInt_add, List.map_cons, List.foldl_cons]

theorem toInt_sum_eq_heldSum (sizes : List Int64) :
    (sum sizes).toInt = heldSum (sizes.map Int64.toInt) := toInt_foldl_add_eq sizes 0

/-- A sum is the one before it and the last size. -/
theorem sum_append (sizes : List Int64) (n : Int64) : sum (sizes ++ [n]) = add (sum sizes) n := by
  simp [sum]

/-! ### Sums of sizes that are not negative -/

/-- The exact sum of sizes. -/
def exactSum (sizes : List Int64) : Int := (sizes.map Int64.toInt).sum

theorem exactSum_nil : exactSum [] = 0 := rfl

theorem exactSum_cons (n : Int64) (sizes : List Int64) :
    exactSum (n :: sizes) = n.toInt + exactSum sizes := by
  simp [exactSum]

theorem exactSum_append (sizes others : List Int64) :
    exactSum (sizes ++ others) = exactSum sizes + exactSum others := by
  simp [exactSum]

theorem exactSum_perm {sizes others : List Int64} (p : sizes.Perm others) :
    exactSum sizes = exactSum others := (p.map _).sum_eq

theorem exactSum_nonneg {sizes : List Int64} (h : ∀ n ∈ sizes, 0 ≤ n.toInt) :
    0 ≤ exactSum sizes := by
  refine List.sum_nonneg fun n hn => ?_
  obtain ⟨size, hsize, rfl⟩ := List.mem_map.mp hn
  exact h size hsize

theorem toInt_le_greatest (n : Int64) : n.toInt ≤ greatest := Int64.toInt_le n

theorem toInt_foldl_add {sizes : List Int64} (h : ∀ n ∈ sizes, 0 ≤ n.toInt) {a : Int64}
    (ha : 0 ≤ a.toInt) : (sizes.foldl add a).toInt = min greatest (a.toInt + exactSum sizes) := by
  induction sizes generalizing a with
  | nil =>
    have := toInt_le_greatest a
    rw [List.foldl_nil, exactSum_nil]
    omega
  | cons n sizes ih =>
    have hn : 0 ≤ n.toInt := h n (.head _)
    have hrest : ∀ m ∈ sizes, 0 ≤ m.toInt := fun m hm => h m (.tail _ hm)
    have hexact := exactSum_nonneg hrest
    have hstep : (add a n).toInt = min greatest (a.toInt + n.toInt) := by
      rw [toInt_add, clamp_of_nonneg (by omega)]
    rw [List.foldl_cons, ih hrest (by rw [hstep]; unfold greatest; omega), hstep, exactSum_cons]
    omega

/-- The sum of sizes that are not negative. -/
theorem toInt_sum {sizes : List Int64} (h : ∀ n ∈ sizes, 0 ≤ n.toInt) :
    (sum sizes).toInt = min greatest (exactSum sizes) := by
  have := toInt_foldl_add h (a := 0) (by decide)
  simpa [sum] using this

/-- The sum of sizes that are not negative does not depend on their order. -/
theorem sum_perm {sizes others : List Int64} (h : ∀ n ∈ sizes, 0 ≤ n.toInt)
    (p : sizes.Perm others) : sum sizes = sum others := by
  have h' : ∀ n ∈ others, 0 ≤ n.toInt := fun n hn => h n (p.mem_iff.mpr hn)
  apply Int64.toInt_inj.mp
  rw [toInt_sum h, toInt_sum h', exactSum_perm p]

/-- Sizes that are not negative may be summed in two parts. -/
theorem sum_append_of_nonneg {sizes others : List Int64} (h : ∀ n ∈ sizes, 0 ≤ n.toInt)
    (h' : ∀ n ∈ others, 0 ≤ n.toInt) : sum (sizes ++ others) = add (sum sizes) (sum others) := by
  have both : ∀ n ∈ sizes ++ others, 0 ≤ n.toInt := by
    intro n hn
    rcases List.mem_append.mp hn with hn | hn
    · exact h n hn
    · exact h' n hn
  have hs := exactSum_nonneg h
  have ho := exactSum_nonneg h'
  apply Int64.toInt_inj.mp
  have hpositive : 0 ≤ greatest := by decide
  rw [toInt_add, toInt_sum both, toInt_sum h, toInt_sum h', exactSum_append,
    clamp_of_nonneg (by omega)]
  omega

/-- Holding the parts of a sum within the range does not change the sum held within it. -/
theorem min_sum_map_min {α : Type} {f : α → Int} {l : List α} (h : ∀ a ∈ l, 0 ≤ f a) :
    min greatest (l.map fun a => min greatest (f a)).sum = min greatest (l.map f).sum := by
  induction l with
  | nil => rfl
  | cons a l ih =>
    have ha : 0 ≤ f a := h a (.head _)
    have hl : ∀ b ∈ l, 0 ≤ f b := fun b hb => h b (.tail _ hb)
    have hsum : 0 ≤ (l.map f).sum := List.sum_nonneg (by simpa using hl)
    have hmin : 0 ≤ (l.map fun a => min greatest (f a)).sum := by
      refine List.sum_nonneg ?_
      simp only [List.mem_map, forall_exists_index, and_imp, forall_apply_eq_imp_iff₂]
      intro b hb
      exact le_min (by decide) (hl b hb)
    have := ih hl
    simp only [List.map_cons, List.sum_cons]
    omega

end PackageCensus.Quantity
