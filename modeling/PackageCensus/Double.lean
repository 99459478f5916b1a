/-! # Numbers of double precision

A `Double` is a finite number m · 2^q of the double format, held as the two whole numbers, so that
rounding and printing are exact arithmetic.  `round?` gives the nearest such number of a quotient,
a half going to the even neighbour.  `shortest` finds the fewest decimal digits that round back to
the number, and of those the nearest; `text` writes them with a point, or with an exponent when
the number is very large or very small. -/

namespace PackageCensus

/-- A finite number of the double format: `mantissa * 2 ^ exponent`, with its sign. -/
structure Double where
  negative : Bool
  mantissa : Nat
  exponent : Int
deriving DecidableEq, Repr

namespace Double

/-! ### Rounding -/

/-- The least exponent, that of the numbers nearest to zero. -/
def leastExponent : Int := -1074

/-- The greatest exponent. -/
def greatestExponent : Int := 971

/-- A quotient rounded to a whole number, a half to the even neighbour. -/
def nearest (num den : Nat) : Nat :=
  let q := num / den
  let twice := 2 * (num % den)
  if twice < den then q
  else if twice = den then q + q % 2
  else q + 1

/-- The place of the first binary digit of a mantissa, but for the numbers nearest to zero. -/
def firstPlace : Nat := 0x10000000000000

/-- A power of ten. -/
def tenTo (k : Nat) : Nat := Nat.pow 10 k

/-- A quotient divided by a power of two. -/
def scaledDown (num den : Nat) (e : Int) : Nat × Nat :=
  if 0 ≤ e then (num, den <<< e.toNat) else (num <<< (-e).toNat, den)

/-- The number nearest to a quotient, unless it is out of range. -/
def round? (negative : Bool) (num den : Nat) : Option Double :=
  if num = 0 then some ⟨negative, 0, leastExponent⟩
  else
    let guess : Int := (Nat.log2 num : Int) - Nat.log2 den - 52
    let (n, d) := scaledDown num den guess
    let e := max (if n / d < firstPlace then guess - 1 else guess) leastExponent
    let (n, d) := scaledDown num den e
    let m := nearest n d
    let (m, e) := if m = 2 * firstPlace then (firstPlace, e + 1) else (m, e)
    if greatestExponent < e then none else some ⟨negative, m, e⟩

/-- The number zero. -/
def zero (negative : Bool) : Double := ⟨negative, 0, leastExponent⟩

/-- A number without its sign as a quotient. -/
def quotient (x : Double) : Nat × Nat :=
  if 0 ≤ x.exponent then (x.mantissa <<< x.exponent.toNat, 1)
  else (x.mantissa, 1 <<< (-x.exponent).toNat)

/-- The product of a number with a power of ten that is itself rounded. -/
def timesTen? (x : Double) (k : Nat) : Option Double := do
  let p ← round? false (tenTo k) 1
  let (n, d) := x.quotient
  let (n', d') := p.quotient
  round? x.negative (n * n') (d * d')

/-- A number divided by a power of ten that is itself rounded. -/
def overTen? (x : Double) (k : Nat) : Option Double := do
  let p ← round? false (tenTo k) 1
  let (n, d) := x.quotient
  let (n', d') := p.quotient
  round? x.negative (n * d') (d * n')

/-- A number with its decimal point moved, unless it leaves the range.  Past the largest power of
ten of the format the number is moved in steps, each of which rounds. -/
def shift? (x : Double) (e : Int) : Option Double :=
  if e.natAbs ≤ 308 then (if 0 ≤ e then x.timesTen? e.natAbs else x.overTen? e.natAbs)
  else if x.mantissa = 0 then some x
  else if 0 ≤ e then none
  else (x.overTen? 308).bind fun y => shift? y (e + 308)
termination_by (-e).toNat
decreasing_by omega

/-! ### Shortest decimal digits -/

/-- The number of digits before the decimal point of a positive quotient; zero and less when its
first digits after the point are zeros. -/
def pointPosition (num den : Nat) : Int :=
  if den ≤ num then ((Nat.toDigits 10 (num / den)).length : Int)
  else
    let zeros := (Nat.toDigits 10 (den / num)).length - 1
    if den ≤ num * tenTo zeros then 1 - (zeros : Int) else -(zeros : Int)

/-- The quotients between which everything rounds to a number, in quarters of its last place, and
whether the bounds belong to them. -/
def interval (x : Double) : Nat × Nat × Bool :=
  let lower :=
    if x.mantissa = firstPlace ∧ leastExponent < x.exponent then 4 * x.mantissa - 1
    else 4 * x.mantissa - 2
  (lower, 4 * x.mantissa + 2, x.mantissa % 2 = 0)

/-- A quotient of quarters of the last place of a number. -/
def quarters (x : Double) (n : Nat) : Nat × Nat :=
  let (num, den) := ({ x with mantissa := n } : Double).quotient
  (num, den * 4)

/-- Whether a decimal `digits * 10 ^ power` rounds to a number. -/
def readsBack (x : Double) (digits : Nat) (power : Int) : Bool :=
  let (lower, upper, closed) := x.interval
  let (num, den) :=
    if 0 ≤ power then (digits * tenTo power.toNat, 1) else (digits, tenTo (-power).toNat)
  let (ln, ld) := x.quarters lower
  let (un, ud) := x.quarters upper
  if closed then ln * den ≤ num * ld && num * ud ≤ un * den
  else ln * den < num * ld && num * ud < un * den

/-- The digits of a number to a given count, if they read back: the nearest neighbour of the
number on that grid, of two at the same distance the even one, or else the other neighbour. -/
def digitsOn (x : Double) (point : Int) (count : Nat) : Option (Nat × Int) :=
  let power := point - count
  let (num, den) := x.quotient
  let (num, den) :=
    if 0 ≤ power then (num, den * tenTo power.toNat) else (num * tenTo (-power).toNat, den)
  let below := num / den
  let near := nearest num den
  let far := if near = below then below + 1 else below
  if x.readsBack near power then some (near, power)
  else if x.readsBack far power then some (far, power)
  else none

/-- The fewest digits that read back, as a whole number and a power of ten. -/
def shortest (x : Double) : Nat × Int :=
  let (num, den) := x.quotient
  let point := pointPosition num den
  ((List.range 17).findSome? fun n => x.digitsOn point (n + 1)).getD (0, 0)

/-- Digits without the zeros at their end, and the power of ten that makes up for them. -/
def dropZeros (digits : List Char) (power : Int) : List Char × Int :=
  let kept := (digits.reverse.dropWhile (· == '0')).reverse
  (kept, power + (digits.length - kept.length : Nat))

/-- The largest number of digits before the point in positional notation. -/
def mostBefore : Int := 16

/-- The largest number of zeros between the point and the first other digit in positional
notation. -/
def mostZeros : Int := 4

/-- The exponent mark, with the sign always written. -/
def exponentText (e : Int) : String := (if e < 0 then "e-" else "e+") ++ toString e.natAbs

/-- The text of a number: its shortest digits, at least one of them after a point, or with an
exponent where positional notation ends. -/
def text (x : Double) : String :=
  let sign := if x.negative then "-" else ""
  if x.mantissa = 0 then sign ++ "0.0"
  else
    let (value, power) := x.shortest
    let (digits, power) := dropZeros (Nat.toDigits 10 value) power
    let point := (digits.length : Int) + power
    let body :=
      if 0 ≤ power ∧ point ≤ mostBefore then
        digits ++ List.replicate power.toNat '0' ++ ['.', '0']
      else if 0 < point ∧ point ≤ mostBefore then
        digits.take point.toNat ++ '.' :: digits.drop point.toNat
      else if -mostZeros ≤ point ∧ point ≤ 0 then
        '0' :: '.' :: List.replicate (-point).toNat '0' ++ digits
      else
        let tail := if digits.length ≤ 1 then [] else '.' :: digits.drop 1
        digits.take 1 ++ tail ++ (exponentText (point - 1)).toList
    sign ++ String.ofList body

end Double
end PackageCensus
