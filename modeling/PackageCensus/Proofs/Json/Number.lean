import Mathlib
import PackageCensus.Json.Number

/-! # Numbers as they are written

A number is written with an optional sign, digits that do not begin with a zero unless it stands
alone, and perhaps a point or an exponent mark with digits of their own (`Written`).  `scan` reads
back what is written, whatever follows that does not go on with a number (`scan_written`).

The digits of a whole number of sixty-four bits have it as their value (`value_ofInt`). -/

namespace PackageCensus.Json

/-- Whether a character goes on with a number. -/
def continues (c : Char) : Bool := c.isDigit || c = '.' || c = 'e' || c = 'E'

/-- A text that does not go on with a number before it. -/
def Parted (cs : List Char) : Prop := ∀ c rest, cs = c :: rest → continues c = false

theorem parted_nil : Parted [] := by
  intro c rest h
  cases h

theorem parted_cons {c : Char} {rest : List Char} (h : continues c = false) :
    Parted (c :: rest) := by
  intro d more he
  cases he
  exact h

/-- A whole number. -/
def Number.ofInt : Int → Number
  | .ofNat n => .natural n
  | .negSucc n => .negative (.negSucc n)

namespace NumberForm

/-! ### Texts of numbers -/

/-- Digits, at least one. -/
def Digits (ds : List Char) : Prop := ds ≠ [] ∧ ∀ c ∈ ds, c.isDigit = true

/-- The digits before the point: a zero alone, or digits of which the first is not zero. -/
def Whole (ds : List Char) : Prop := ds = ['0'] ∨ Digits ds ∧ ds.head? ≠ some '0'

/-- The point and the digits after it, or nothing. -/
inductive WrittenFraction : Option (List Char) → List Char → Prop
  | absent : WrittenFraction none []
  | present {ds : List Char} : Digits ds → WrittenFraction (some ds) ('.' :: ds)

/-- The sign of an exponent, which may be left out if it is positive. -/
inductive WrittenSign : Bool → List Char → Prop
  | absent : WrittenSign false []
  | plus : WrittenSign false ['+']
  | minus : WrittenSign true ['-']

/-- The exponent mark, a sign and the digits after it, or nothing. -/
inductive WrittenExponent : Option (Bool × List Char) → List Char → Prop
  | absent : WrittenExponent none []
  | present {mark : Char} {negative : Bool} {sign ds : List Char} :
    mark = 'e' ∨ mark = 'E' → WrittenSign negative sign → Digits ds →
    WrittenExponent (some (negative, ds)) (mark :: (sign ++ ds))

/-- The texts of a number behind its sign. -/
inductive WrittenUnsigned (f : NumberForm) : List Char → Prop
  | mk {fraction exponent : List Char} :
    Whole f.whole → WrittenFraction f.fraction fraction → WrittenExponent f.exponent exponent →
    WrittenUnsigned f (f.whole ++ (fraction ++ exponent))

/-- The texts of a number. -/
inductive Written (f : NumberForm) : List Char → Prop
  | negative {cs : List Char} : f.negative = true → WrittenUnsigned f cs → Written f ('-' :: cs)
  | positive {cs : List Char} : f.negative = false → WrittenUnsigned f cs → Written f cs

/-! ### Reading what is written -/

variable {rest ds cs : List Char}

/-- Whether digits before a text end there. -/
def Ends (rest : List Char) : Prop := rest.takeWhile Char.isDigit = []

theorem ends_nil : Ends [] := rfl

theorem ends_cons {c : Char} (h : c.isDigit = false) : Ends (c :: rest) := by
  simp [Ends, h]

theorem ends_of_parted (parted : Parted rest) : Ends rest := by
  cases rest with
  | nil => exact ends_nil
  | cons c rest =>
    have stop := parted c rest rfl
    simp only [continues, Bool.or_eq_false_iff] at stop
    exact ends_cons stop.1.1.1

theorem scanDigits_append (digits : Digits ds) (ends : Ends rest) :
    scanDigits (ds ++ rest) = .ok (ds, rest) := by
  have taken : (ds ++ rest).takeWhile Char.isDigit = ds := by
    rw [List.takeWhile_append_of_pos digits.2, ends, List.append_nil]
  have left : (ds ++ rest).dropWhile Char.isDigit = rest := by
    have split := List.takeWhile_append_dropWhile (p := Char.isDigit) (l := ds ++ rest)
    rw [taken] at split
    exact List.append_cancel_left split
  unfold scanDigits
  rw [taken, left]
  cases ds with
  | nil => exact absurd rfl digits.1
  | cons c ds => rfl

theorem scanWhole_append (whole : Whole ds) (ends : Ends rest) :
    scanWhole (ds ++ rest) = .ok (ds, rest) := by
  rcases whole with rfl | ⟨digits, first⟩
  · cases rest with
    | nil => rfl
    | cons c rest =>
      have stop : c.isDigit = false := by
        by_contra digit
        simp [Ends, digit] at ends
      show scanWhole ('0' :: c :: rest) = _
      simp only [scanWhole, stop]
      rfl
  · have scanned := scanDigits_append digits ends
    cases ds with
    | nil => exact absurd rfl digits.1
    | cons c ds =>
      rw [List.cons_append] at scanned ⊢
      unfold scanWhole
      split
      · next he => exact absurd (by rw [(List.cons.inj he).1]; rfl) first
      · exact scanned

theorem scanFraction_written {fraction : Option (List Char)} (written : WrittenFraction fraction cs)
    (ends : Ends rest) (point : rest.head? ≠ some '.') :
    scanFraction (cs ++ rest) = .ok (fraction, rest) := by
  cases written with
  | absent =>
    rw [List.nil_append]
    unfold scanFraction
    split
    · exact absurd rfl point
    · rfl
  | present digits =>
    rw [List.cons_append, scanFraction, scanDigits_append digits ends]
    rfl

theorem scanSign_written {negative : Bool} {sign : List Char} (written : WrittenSign negative sign)
    (digits : Digits ds) : scanSign (sign ++ (ds ++ rest)) = (negative, ds ++ rest) := by
  cases written with
  | absent =>
    cases ds with
    | nil => exact absurd rfl digits.1
    | cons c ds =>
      have digit := digits.2 c (.head _)
      rw [List.nil_append, List.cons_append]
      unfold scanSign
      split
      · next he =>
        rw [(List.cons.inj he).1] at digit
        cases digit
      · next he =>
        rw [(List.cons.inj he).1] at digit
        cases digit
      · rfl
  | plus => rfl
  | minus => rfl

theorem scanExponent_written {exponent : Option (Bool × List Char)}
    (written : WrittenExponent exponent cs) (parted : Parted rest) :
    scanExponent (cs ++ rest) = .ok (exponent, rest) := by
  cases written with
  | absent =>
    cases rest with
    | nil => rfl
    | cons c rest =>
      have stop := parted c rest rfl
      simp only [continues, Bool.or_eq_false_iff, decide_eq_false_iff_not] at stop
      have other : ¬ (c = 'e' ∨ c = 'E') := not_or.mpr ⟨stop.1.2, stop.2⟩
      simp only [List.nil_append, scanExponent, if_neg other]
  | present mark sign digits =>
    rw [List.cons_append, List.append_assoc, scanExponent, if_pos mark,
      scanSign_written sign digits]
    simp only [scanDigits_append digits (ends_of_parted parted)]
    rfl

/-- What is written of an exponent goes on neither with digits nor with a point. -/
theorem ends_exponent {exponent : Option (Bool × List Char)} (written : WrittenExponent exponent cs)
    (parted : Parted rest) : Ends (cs ++ rest) ∧ (cs ++ rest).head? ≠ some '.' := by
  cases written with
  | absent =>
    refine ⟨ends_of_parted parted, fun point => ?_⟩
    cases rest with
    | nil => cases point
    | cons c rest =>
      cases point
      exact absurd (parted _ _ rfl) (by decide)
  | present mark =>
    rcases mark with rfl | rfl
    · exact ⟨ends_cons rfl, by simp⟩
    · exact ⟨ends_cons rfl, by simp⟩

theorem ends_fraction {fraction : Option (List Char)} (written : WrittenFraction fraction cs)
    (ends : Ends rest) : Ends (cs ++ rest) := by
  cases written with
  | absent => exact ends
  | present => exact ends_cons rfl

/-- What is written of a number behind its sign begins with a digit. -/
theorem WrittenUnsigned.head {f : NumberForm} (written : WrittenUnsigned f cs) :
    ∃ c tail, cs = c :: tail ∧ c.isDigit = true := by
  cases written with
  | mk whole =>
    rcases whole with zero | ⟨⟨some, digits⟩, -⟩
    · exact ⟨'0', _, by rw [zero]; rfl, rfl⟩
    · obtain ⟨c, ds, hds⟩ := List.exists_cons_of_ne_nil some
      exact ⟨c, _, by rw [hds]; rfl, digits c (hds ▸ .head _)⟩

/-- A number behind its sign is read back from each of its texts. -/
theorem scan_written {f : NumberForm} (written : WrittenUnsigned f cs) (parted : Parted rest) :
    scan f.negative (cs ++ rest) = .ok (f, rest) := by
  cases written with
  | mk whole fraction exponent =>
    obtain ⟨ends, point⟩ := ends_exponent exponent parted
    simp only [scan, List.append_assoc, scanWhole_append whole (ends_fraction fraction ends),
      scanFraction_written fraction ends point, scanExponent_written exponent parted, bind,
      Except.bind, pure, Except.pure]

/-! ### Whole numbers -/

theorem digitValue_digitChar {d : Nat} (hd : d < 10) : digitValue d.digitChar = d := by
  interval_cases d <;> rfl

theorem gather_append {us vs : List Char} {value n : Nat} (h : gather value us = (n, [])) :
    gather value (us ++ vs) = gather n vs := by
  induction us generalizing value with
  | nil =>
    cases h
    rfl
  | cons c us ih =>
    rw [List.cons_append]
    rw [gather] at h ⊢
    by_cases large : most < value * 10 + digitValue c
    · simp [large] at h
    · simp only [if_neg large] at h ⊢
      exact ih h

theorem gather_digit {value d : Nat} (hd : d < 10) (h : value * 10 + d ≤ most) :
    gather value [d.digitChar] = (value * 10 + d, []) := by
  have small : ¬ most < value * 10 + d := Nat.not_lt.mpr h
  unfold gather
  rw [digitValue_digitChar hd, if_neg small]
  rfl

/-- The digits of a number within range are gathered to the number. -/
theorem gather_toDigits (n : Nat) (h : n ≤ most) : gather 0 (Nat.toDigits 10 n) = (n, []) := by
  induction n using Nat.strongRecOn with
  | ind n ih =>
    by_cases hn : n < 10
    · rw [Nat.toDigits_of_lt_base hn]
      simpa using gather_digit hn (show 0 * 10 + n ≤ most by omega)
    · have front := ih (n / 10) (by omega) (by omega)
      have last : n / 10 * 10 + n % 10 = n := Nat.div_add_mod' n 10
      rw [Nat.toDigits_of_base_le (by omega) (by omega), gather_append front,
        gather_digit (by omega) (by omega), last]

/-- No number but zero begins with a zero. -/
theorem toDigits_head (n : Nat) : ∃ c ds, Nat.toDigits 10 n = c :: ds ∧ (c = '0' → n = 0) := by
  induction n using Nat.strongRecOn with
  | ind n ih =>
    by_cases hn : n < 10
    · refine ⟨n.digitChar, [], Nat.toDigits_of_lt_base hn, fun zero => ?_⟩
      have same := digitValue_digitChar hn
      rw [zero] at same
      exact same.symm
    · obtain ⟨c, ds, front, zero⟩ := ih (n / 10) (by omega)
      refine ⟨c, ds ++ [(n % 10).digitChar], ?_, fun h => ?_⟩
      · rw [Nat.toDigits_of_base_le (by omega) (by omega), front, List.cons_append]
      · have := zero h
        omega

theorem whole_toDigits (n : Nat) : Whole (Nat.toDigits 10 n) := by
  obtain ⟨c, ds, hds, zero⟩ := toDigits_head n
  by_cases hn : n = 0
  · exact .inl (by rw [hn]; rfl)
  · refine .inr ⟨⟨Nat.toDigits_ne_nil, fun d hd =>
      Nat.isDigit_of_mem_toDigits (by omega) (by omega) hd⟩, fun first => hn (zero ?_)⟩
    rw [hds] at first
    exact Option.some.inj first

/-- The form of a whole number. -/
def ofInt (n : Int) : NumberForm := ⟨decide (n < 0), Nat.toDigits 10 n.natAbs, none, none⟩

theorem writtenUnsigned_ofInt (n : Int) : WrittenUnsigned (ofInt n) (Nat.toDigits 10 n.natAbs) := by
  have written : WrittenUnsigned (ofInt n) (Nat.toDigits 10 n.natAbs ++ ([] ++ [])) :=
    .mk (whole_toDigits _) .absent .absent
  rwa [List.append_nil, List.append_nil] at written

/-- The digits of a whole number of sixty-four bits have it as their value. -/
theorem value_ofInt {n : Int} (least : -9223372036854775808 ≤ n) (greatest : n ≤ most) :
    value (ofInt n) = .ok (.ofInt n) := by
  have range : n.natAbs ≤ most := by
    unfold most at greatest ⊢
    omega
  unfold value ofInt
  rw [gather_toDigits _ range]
  cases n with
  | ofNat n => rfl
  | negSucc n =>
    have small : 1 ≤ (Int.negSucc n).natAbs ∧ (Int.negSucc n).natAbs ≤ 9223372036854775808 := by
      omega
    simp only [wholeNumber, decide_eq_true (Int.negSucc_lt_zero n), if_true, if_pos small]
    rfl

end NumberForm
end PackageCensus.Json
