/-! # Numerals

Reading whole numbers of a bounded range in a given base.  The characters are taken from left to
right and the first that spoils the number decides the answer: a character that is no digit, or
a digit that takes the value out of range.  So of two faults the one further left wins.

`readDigits_eq_ok_iff` says what is read: digits throughout, of a value within the limit. -/

namespace PackageCensus.Numeral

/-- Why a text is not a whole number of the range asked for. -/
inductive Fault where
  | empty
  | invalidDigit
  | tooLarge
  | tooSmall
deriving DecidableEq, Repr

/-- The wording of a fault. -/
def Fault.message : Fault → String
  | empty => "cannot parse integer from empty string"
  | invalidDigit => "invalid digit found in string"
  | tooLarge => "number too large to fit in target type"
  | tooSmall => "number too small to fit in target type"

/-- The value of a digit in a base up to thirty-six; letters of either case follow the nine. -/
def digit? (base : Nat) (c : Char) : Option Nat :=
  let value :=
    if '0' ≤ c ∧ c ≤ '9' then c.toNat - 48
    else if 'a' ≤ c ∧ c ≤ 'z' then c.toNat - 87
    else if 'A' ≤ c ∧ c ≤ 'Z' then c.toNat - 55
    else base
  if value < base then some value else none

/-- The number that the digits continue, `past` being the fault of going over the limit. -/
def readDigits (base limit : Nat) (past : Fault) (value : Nat) : List Char → Except Fault Nat
  | [] => .ok value
  | c :: cs =>
    match digit? base c with
    | none => .error .invalidDigit
    | some d =>
      let next := value * base + d
      if limit < next then .error past else readDigits base limit past next cs

/-- A number from its digits, at least one. -/
def readMagnitude (base limit : Nat) (past : Fault) : List Char → Except Fault Nat
  | [] => .error .invalidDigit
  | cs => readDigits base limit past 0 cs

/-- The largest number of sixty-four bits. -/
def maxUnsigned : Nat := 18446744073709551615

/-- The largest number of sixty-four bits with a sign. -/
def maxSigned : Nat := 9223372036854775807

/-- An unsigned number of sixty-four bits; a plus sign may stand before it. -/
def readUnsigned (base : Nat) : List Char → Except Fault Nat
  | [] => .error .empty
  | '+' :: cs => readMagnitude base maxUnsigned .tooLarge cs
  | cs => readMagnitude base maxUnsigned .tooLarge cs

/-- A signed number of sixty-four bits; either sign may stand before it. -/
def readSigned (base : Nat) : List Char → Except Fault Int
  | [] => .error .empty
  | '+' :: cs => (readMagnitude base maxSigned .tooLarge cs).map fun n : Nat => (n : Int)
  | '-' :: cs => (readMagnitude base (maxSigned + 1) .tooSmall cs).map fun n : Nat => -(n : Int)
  | cs => (readMagnitude base maxSigned .tooLarge cs).map fun n : Nat => (n : Int)

/-! ### What is read -/

/-- The value of a run of digits that continues a number. -/
def valueFrom? (base : Nat) (value : Nat) : List Char → Option Nat
  | [] => some value
  | c :: cs => (digit? base c).bind fun d => valueFrom? base (value * base + d) cs

theorem le_of_valueFrom? {base : Nat} (hb : 1 ≤ base) :
    ∀ {cs : List Char} {value n : Nat}, valueFrom? base value cs = some n → value ≤ n
  | [], _, _, h => by simp [valueFrom?] at h; omega
  | c :: cs, value, n, h => by
    simp only [valueFrom?, Option.bind_eq_some_iff] at h
    obtain ⟨d, -, h⟩ := h
    have := le_of_valueFrom? hb h
    have : value ≤ value * base := Nat.le_mul_of_pos_right value hb
    omega

theorem readDigits_eq_ok_iff {base limit : Nat} {past : Fault} (hb : 1 ≤ base) :
    ∀ {cs : List Char} {value n : Nat}, value ≤ limit →
      (readDigits base limit past value cs = .ok n ↔
        valueFrom? base value cs = some n ∧ n ≤ limit)
  | [], value, n, hv => by
    simp only [readDigits, valueFrom?, Except.ok.injEq, Option.some.injEq]
    constructor
    · rintro rfl; exact ⟨rfl, hv⟩
    · exact fun h => h.1
  | c :: cs, value, n, hv => by
    simp only [readDigits, valueFrom?]
    cases hd : digit? base c with
    | none => simp
    | some d =>
      simp only [Option.bind_some]
      split
      · next hlt =>
        simp only [reduceCtorEq, false_iff, not_and]
        intro h
        have := le_of_valueFrom? hb h
        omega
      · exact readDigits_eq_ok_iff hb (by omega)

end PackageCensus.Numeral
