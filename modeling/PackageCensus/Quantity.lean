/-! # Sizes and their sums

Sizes are signed numbers of sixty-four bits, and a sum that leaves the range stops at the end it
passed.  `toInt_add` gives the sum as a whole number: the exact sum, held within the range. -/

namespace PackageCensus.Quantity

/-- The smallest size. -/
def least : Int := -9223372036854775808

/-- The largest size. -/
def greatest : Int := 9223372036854775807

/-- The nearest number within the range. -/
def clamp (n : Int) : Int := max least (min n greatest)

/-- The sum of two sizes, held within the range. -/
def add (a b : Int64) : Int64 := Int64.ofInt (clamp (a.toInt + b.toInt))

/-- The sum of sizes from left to right, held within the range at every step. -/
def sum (sizes : List Int64) : Int64 := sizes.foldl add 0

theorem clamp_of_nonneg {n : Int} (h : 0 ≤ n) : clamp n = min greatest n := by
  unfold clamp least greatest; omega

theorem least_le_clamp (n : Int) : least ≤ clamp n := by
  unfold clamp; omega

theorem clamp_le_greatest (n : Int) : clamp n ≤ greatest := by
  unfold clamp least greatest; omega

@[simp] theorem toInt_add (a b : Int64) : (add a b).toInt = clamp (a.toInt + b.toInt) := by
  have hl := least_le_clamp (a.toInt + b.toInt)
  have hu := clamp_le_greatest (a.toInt + b.toInt)
  unfold least at hl
  unfold greatest at hu
  exact Int64.toInt_ofInt_of_le hl (by omega)

end PackageCensus.Quantity
