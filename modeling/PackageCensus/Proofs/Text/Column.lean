import Mathlib
import PackageCensus.Proofs.Numeral
import PackageCensus.Text.Column

/-! # Reading columns back

What stands in a column is read up to the blank after it, past the blanks before it
(`nextColumn_padLeft`).  A number is read from its digits (`number?_toDigits`), and one that is wider than
its column has them all (`toList_column`, `nextColumn_number`): columns are parted by blanks, not by
their widths. -/

namespace PackageCensus.Text

/-! ### Up to a blank -/

section Solid

variable {column : List Char} (solid : ' ' ∉ column) (rest : List Char)
include solid

theorem bne_of_solid : ∀ c ∈ column, (c != ' ') = true := by
  intro c hc
  rw [bne_iff_ne]
  rintro rfl
  exact solid hc

theorem takeWhile_solid : (column ++ ' ' :: rest).takeWhile (· != ' ') = column := by
  rw [List.takeWhile_append_of_pos (bne_of_solid solid)]
  simp

theorem dropWhile_solid : (column ++ ' ' :: rest).dropWhile (· != ' ') = ' ' :: rest := by
  rw [List.dropWhile_append_of_pos (bne_of_solid solid)]
  simp

end Solid

/-- What stands in the next column, and the line from the blank after it. -/
def nextColumn (line : List Char) : List Char × List Char :=
  let rest := line.dropWhile (· == ' ')
  (rest.takeWhile (· != ' '), rest.dropWhile (· != ' '))

section Column

variable {gap column : List Char} (blanks : ∀ c ∈ gap, c = ' ') (nonempty : column ≠ [])
  (solid : ' ' ∉ column)
include blanks nonempty solid

theorem nextColumn_spaced (rest : List Char) :
    nextColumn (gap ++ (column ++ ' ' :: rest)) = (column, ' ' :: rest) := by
  have start : (gap ++ (column ++ ' ' :: rest)).dropWhile (· == ' ') = column ++ ' ' :: rest := by
    rw [List.dropWhile_append_of_pos fun c hc => beq_iff_eq.mpr (blanks c hc)]
    cases column with
    | nil => exact absurd rfl nonempty
    | cons c column =>
      have first : c ≠ ' ' := by simpa using bne_of_solid solid c (.head _)
      exact List.dropWhile_cons_of_neg (by simpa using first)
  rw [nextColumn, start, takeWhile_solid solid, dropWhile_solid solid]

/-- A column with blanks before it up to its width, and more before these. -/
theorem nextColumn_padLeft (width : Nat) (rest : List Char) :
    nextColumn (gap ++ (padLeft ' ' width column ++ ' ' :: rest)) = (column, ' ' :: rest) := by
  have padding : ∀ c ∈ gap ++ List.replicate (width - column.length) ' ', c = ' ' :=
    List.forall_mem_append.mpr ⟨blanks, fun c hc => (List.mem_replicate.mp hc).2⟩
  have spaced := nextColumn_spaced padding nonempty solid rest
  rwa [List.append_assoc, ← List.append_assoc (List.replicate _ _)] at spaced

end Column

/-! ### Numbers -/

/-- The number that digits spell, if there are any. -/
def number? (base : Nat) (digits : List Char) : Option Nat :=
  if digits = [] then none else Numeral.valueFrom? base 0 digits

theorem not_mem_of_solid {cs : List Char} (solid : ∀ c ∈ cs, isBlank c = false) {b : Char}
    (blank : isBlank b = true) : b ∉ cs := by
  intro hb
  cases (solid b hb).symm.trans blank

section Digits

variable {base : Nat} (h2 : 2 ≤ base) (h16 : base ≤ 16) (n : Nat)
include h2 h16

theorem number?_toDigits : number? base (Nat.toDigits base n) = some n := by
  rw [number?, if_neg Nat.toDigits_ne_nil, Numeral.valueFrom?_toDigits h2 h16]

/-- Zeros before the digits of a number change nothing. -/
theorem number?_padLeft (width : Nat) :
    number? base (padLeft '0' width (Nat.toDigits base n)) = some n := by
  have nonempty : padLeft '0' width (Nat.toDigits base n) ≠ [] :=
    List.append_ne_nil_of_right_ne_nil _ Nat.toDigits_ne_nil
  rw [number?, if_neg nonempty, padLeft, Numeral.valueFrom?_zeros (by omega),
    Numeral.valueFrom?_toDigits h2 h16]

/-- No blank stands among the digits of a number, nor before them but what fills its column. -/
theorem not_mem_padLeft {fill b : Char} (blank : isBlank b = true) (other : b ≠ fill) (width : Nat) :
    b ∉ padLeft fill width (Nat.toDigits base n) := by
  have digits := not_mem_of_solid (Numeral.spelled_toDigits h2 h16 n).isWord.2 blank
  simp [padLeft, List.mem_replicate, digits, other]

/-- A number in a column of blanks. -/
theorem nextColumn_number {gap : List Char} (blanks : ∀ c ∈ gap, c = ' ') (width : Nat)
    (rest : List Char) :
    nextColumn (gap ++ (padLeft ' ' width (Nat.toDigits base n) ++ ' ' :: rest)) =
      (Nat.toDigits base n, ' ' :: rest) :=
  nextColumn_padLeft blanks Nat.toDigits_ne_nil
    (not_mem_of_solid (Numeral.spelled_toDigits h2 h16 n).isWord.2 rfl) width rest

/-- A number with zeros up to the width of its column. -/
theorem nextColumn_zeros (width : Nat) (rest : List Char) :
    nextColumn (padLeft '0' width (Nat.toDigits base n) ++ ' ' :: rest) =
      (padLeft '0' width (Nat.toDigits base n), ' ' :: rest) :=
  nextColumn_spaced (List.forall_mem_nil (· = ' '))
    (List.append_ne_nil_of_right_ne_nil _ Nat.toDigits_ne_nil)
    (not_mem_padLeft h2 h16 n rfl (by decide) width) rest

end Digits

/-- A number that is not negative is written in its digits, whatever the width. -/
theorem toList_column {n : Int} (nonneg : 0 ≤ n) (width : Nat) :
    (column width n).toList = padLeft ' ' width (Nat.toDigits 10 n.toNat) := by
  obtain ⟨m, rfl⟩ := Int.eq_ofNat_of_zero_le nonneg
  have digits : (toString (m : Int)).toList = Nat.toDigits 10 m := by
    show (Nat.repr m).toList = _
    simp
  rw [column, String.toList_ofList, digits, Int.toNat_natCast]

end PackageCensus.Text
