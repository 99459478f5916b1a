import Mathlib
import PackageCensus.Numeral
import PackageCensus.Proofs.Except
import PackageCensus.Proofs.Text.Blank

/-! # Numerals that spell a number

`Spelled base n cs` says that the digits of `cs` have the value `n`, which is their positional
value (`spelled_iff_positional`).  Such a numeral is read within the limits (`Spelled.readUnsigned`,
`Spelled.readSigned`) and is one word (`Spelled.isWord`), and nothing else is read but a sign before
it (`readUnsigned_eq_ok`, `readSigned_eq_ok`).  The usual digits of a number spell it
(`spelled_toDigits`). -/

namespace PackageCensus.Numeral

/-! ### Digits -/

/-- Whether a character is the digit of a value; letters may be of either case. -/
def IsDigit (base : Nat) (c : Char) (d : Nat) : Prop :=
  d < base ∧ (c = d.digitChar ∨ c = d.digitChar.toUpper)

theorem toNat_digitChar : ∀ d < 16, d.digitChar.toNat = (if d < 10 then d + 48 else d + 87) ∧
    d.digitChar.toUpper.toNat = if d < 10 then d + 48 else d + 55 := by decide

theorem le_iff_toNat_le (c d : Char) : c ≤ d ↔ c.toNat ≤ d.toNat := by
  rw [Char.le_def, UInt32.le_iff_toNat_le]
  rfl

theorem digit?_eq_some_iff {base d : Nat} {c : Char} (h16 : base ≤ 16) :
    digit? base c = some d ↔ IsDigit base c d := by
  unfold digit? IsDigit
  simp only [le_iff_toNat_le, Char.reduceToNat, Option.ite_none_right_eq_some, Option.some.injEq]
  by_cases hd : d < 16
  · obtain ⟨hlower, hupper⟩ := toNat_digitChar d hd
    rw [← Char.toNat_inj, ← Char.toNat_inj, hlower, hupper]
    split_ifs <;> omega
  · split_ifs <;> omega

/-! ### Spelling -/

/-- Digits, at least one, of a given value. -/
def Spelled (base n : Nat) (cs : List Char) : Prop := cs ≠ [] ∧ valueFrom? base 0 cs = some n

instance (base n : Nat) (cs : List Char) : Decidable (Spelled base n cs) :=
  inferInstanceAs (Decidable (cs ≠ [] ∧ valueFrom? base 0 cs = some n))

/-- Where the digits of a base stand among the characters. -/
theorem toNat_of_digit? {base d : Nat} {c : Char} (h : digit? base c = some d) :
    48 ≤ c.toNat ∧ c.toNat ≤ 57 ∨
      10 < base ∧ (97 ≤ c.toNat ∧ c.toNat ≤ 122 ∨ 65 ≤ c.toNat ∧ c.toNat ≤ 90) := by
  unfold digit? at h
  simp only [le_iff_toNat_le, Char.reduceToNat] at h
  split_ifs at h <;> omega

theorem isBlank_of_digit? {base d : Nat} {c : Char} (h : digit? base c = some d) :
    Text.isBlank c = false := by
  have hc := toNat_of_digit? h
  exact Text.isBlank_of_ascii (by omega) (by omega)

theorem valueFrom?_append {base : Nat} (us vs : List Char) : ∀ value : Nat,
    valueFrom? base value (us ++ vs) =
      (valueFrom? base value us).bind fun n => valueFrom? base n vs := by
  induction us with
  | nil => exact fun value => rfl
  | cons c us ih =>
    intro value
    simp only [List.cons_append, valueFrom?, Option.bind_assoc]
    exact Option.bind_congr fun d _ => ih _

/-- Zeros before the digits of a number change nothing. -/
theorem valueFrom?_zeros {base : Nat} (hbase : 1 ≤ base) (k : Nat) (cs : List Char) :
    valueFrom? base 0 (List.replicate k '0' ++ cs) = valueFrom? base 0 cs := by
  have zero : digit? base '0' = some 0 := if_pos hbase
  induction k with
  | zero => rfl
  | succ k ih =>
    rw [List.replicate_succ, List.cons_append, valueFrom?, zero, Option.bind_some, Nat.zero_mul]
    exact ih

theorem digit?_digitChar {base d : Nat} (hd : d < base) (hbase : base ≤ 16) :
    digit? base d.digitChar = some d := (digit?_eq_some_iff hbase).mpr ⟨hd, .inl rfl⟩

theorem valueFrom?_toDigits {base : Nat} (h2 : 2 ≤ base) (h16 : base ≤ 16) (n : Nat) :
    valueFrom? base 0 (Nat.toDigits base n) = some n := by
  induction n using Nat.strongRecOn with
  | ind n ih =>
    by_cases hn : n < base
    · rw [Nat.toDigits_of_lt_base hn, valueFrom?, digit?_digitChar hn h16]
      simp [valueFrom?]
    · have hlast : n % base < base := Nat.mod_lt _ (by omega)
      rw [Nat.toDigits_of_base_le (by omega) (by omega), valueFrom?_append,
        ih (n / base) (Nat.div_lt_self (by omega) (by omega)), Option.bind_some, valueFrom?,
        digit?_digitChar hlast h16, Option.bind_some, valueFrom?, Nat.div_add_mod']

/-- The usual digits of a number spell it. -/
theorem spelled_toDigits {base : Nat} (h2 : 2 ≤ base) (h16 : base ≤ 16) (n : Nat) :
    Spelled base n (Nat.toDigits base n) :=
  ⟨Nat.toDigits_ne_nil, valueFrom?_toDigits h2 h16 n⟩

namespace Spelled

variable {base n : Nat} {cs : List Char}

theorem digit_of_mem (h : Spelled base n cs) {c : Char} (hc : c ∈ cs) :
    ∃ d, digit? base c = some d := by
  obtain ⟨us, vs, rfl⟩ := List.append_of_mem hc
  have hvalue := h.2
  rw [valueFrom?_append, Option.bind_eq_some_iff] at hvalue
  obtain ⟨m, -, hvalue⟩ := hvalue
  rw [valueFrom?, Option.bind_eq_some_iff] at hvalue
  obtain ⟨d, hd, -⟩ := hvalue
  exact ⟨d, hd⟩

/-- A numeral is one word. -/
theorem isWord (h : Spelled base n cs) : Text.IsWord cs := by
  refine ⟨h.1, fun c hc => ?_⟩
  obtain ⟨d, hd⟩ := h.digit_of_mem hc
  exact isBlank_of_digit? hd

theorem readMagnitude {limit : Nat} (h : Spelled base n cs) (hbase : 1 ≤ base) (hn : n ≤ limit)
    (past : Fault) : readMagnitude base limit past cs = .ok n := by
  obtain ⟨hne, hvalue⟩ := h
  cases cs with
  | nil => exact absurd rfl hne
  | cons c cs => exact (readDigits_eq_ok_iff hbase (Nat.zero_le limit)).mpr ⟨hvalue, hn⟩

/-- A numeral does not begin with a sign. -/
theorem head_ne (h : Spelled base n cs) {c : Char} {rest : List Char} (hcs : cs = c :: rest) :
    c ≠ '+' ∧ c ≠ '-' := by
  obtain ⟨d, hd⟩ := h.digit_of_mem (hcs ▸ List.mem_cons_self)
  have hc := toNat_of_digit? hd
  constructor
  · rintro rfl
    simp at hc
  · rintro rfl
    simp at hc

theorem readUnsigned (h : Spelled base n cs) (hbase : 1 ≤ base) (hn : n ≤ maxUnsigned) :
    readUnsigned base cs = .ok n := by
  unfold Numeral.readUnsigned
  split
  · exact absurd rfl h.1
  · exact absurd rfl (h.head_ne rfl).1
  · exact h.readMagnitude hbase hn .tooLarge

theorem readSigned (h : Spelled base n cs) (hbase : 1 ≤ base) (hn : n ≤ maxSigned) :
    readSigned base cs = .ok (n : Int) := by
  unfold Numeral.readSigned
  split
  · exact absurd rfl h.1
  · exact absurd rfl (h.head_ne rfl).1
  · exact absurd rfl (h.head_ne rfl).2
  · rw [h.readMagnitude hbase hn .tooLarge]
    rfl

end Spelled

/-! ### Positional values -/

/-- Digits, at least one, of a positional value. -/
def Positional (base n : Nat) (cs : List Char) : Prop :=
  cs ≠ [] ∧ ∃ digits, List.Forall₂ (IsDigit base) cs digits ∧ n = Nat.ofDigits base digits.reverse

theorem valueFrom?_eq_some_iff {base : Nat} (h16 : base ≤ 16) {n : Nat} :
    ∀ {cs : List Char} {value : Nat}, valueFrom? base value cs = some n ↔
      ∃ digits, List.Forall₂ (IsDigit base) cs digits ∧
        n = Nat.ofDigits base digits.reverse + base ^ digits.length * value
  | [], value => by simp [valueFrom?, eq_comm]
  | c :: cs, value => by
    -- the value so far counts as one more digit before those that follow
    have shift (d : Nat) (digits : List Nat) :
        Nat.ofDigits base (d :: digits).reverse + base ^ (d :: digits).length * value =
          Nat.ofDigits base digits.reverse + base ^ digits.length * (value * base + d) := by
      rw [List.reverse_cons, Nat.ofDigits_append, Nat.ofDigits_singleton, List.length_reverse,
        List.length_cons]
      ring
    simp only [valueFrom?, Option.bind_eq_some_iff, digit?_eq_some_iff h16,
      valueFrom?_eq_some_iff h16, List.forall₂_cons_left_iff]
    constructor
    · rintro ⟨d, hd, digits, hdigits, rfl⟩
      exact ⟨_, ⟨d, digits, hd, hdigits, rfl⟩, (shift d digits).symm⟩
    · rintro ⟨_, ⟨d, digits, hd, hdigits, rfl⟩, rfl⟩
      exact ⟨d, hd, digits, hdigits, shift d digits⟩

theorem spelled_iff_positional {base n : Nat} (h16 : base ≤ 16) {cs : List Char} :
    Spelled base n cs ↔ Positional base n cs := by
  unfold Spelled Positional
  rw [valueFrom?_eq_some_iff h16]
  simp

/-! ### What is read -/

/-- A number before which a plus sign may stand. -/
def Unsigned (base n : Nat) (cs : List Char) : Prop :=
  ∃ digits, Positional base n digits ∧ (cs = digits ∨ cs = '+' :: digits)

/-- A number before which either sign may stand. -/
def Signed (base : Nat) (n : Int) (cs : List Char) : Prop :=
  ∃ digits m, Positional base m digits ∧
    ((cs = digits ∨ cs = '+' :: digits) ∧ n = m ∨ cs = '-' :: digits ∧ n = -m)

theorem readMagnitude_eq_ok {base limit n : Nat} {past : Fault} {cs : List Char} (hb : 1 ≤ base)
    (h16 : base ≤ 16) :
    readMagnitude base limit past cs = .ok n ↔ Positional base n cs ∧ n ≤ limit := by
  rw [← spelled_iff_positional h16]
  constructor
  · intro h
    cases cs with
    | nil => cases h
    | cons c cs =>
      obtain ⟨hvalue, hn⟩ := (readDigits_eq_ok_iff hb (Nat.zero_le limit)).mp h
      exact ⟨⟨List.cons_ne_nil _ _, hvalue⟩, hn⟩
  · exact fun ⟨h, hn⟩ => h.readMagnitude hb hn past

theorem readUnsigned_eq_ok {base n : Nat} {cs : List Char} (hb : 1 ≤ base) (h16 : base ≤ 16) :
    readUnsigned base cs = .ok n ↔ Unsigned base n cs ∧ n ≤ maxUnsigned := by
  constructor
  · intro h
    unfold readUnsigned at h
    split at h
    · cases h
    · obtain ⟨hdigits, hn⟩ := (readMagnitude_eq_ok hb h16).mp h
      exact ⟨⟨_, hdigits, .inr rfl⟩, hn⟩
    · obtain ⟨hdigits, hn⟩ := (readMagnitude_eq_ok hb h16).mp h
      exact ⟨⟨_, hdigits, .inl rfl⟩, hn⟩
  · rintro ⟨⟨digits, hdigits, rfl | rfl⟩, hn⟩
    · exact ((spelled_iff_positional h16).mpr hdigits).readUnsigned hb hn
    · exact (readMagnitude_eq_ok hb h16).mpr ⟨hdigits, hn⟩

theorem readSigned_eq_ok {base : Nat} {n : Int} {cs : List Char} (hb : 1 ≤ base)
    (h16 : base ≤ 16) : readSigned base cs = .ok n ↔
      Signed base n cs ∧ -(maxSigned + 1 : Int) ≤ n ∧ n ≤ maxSigned := by
  constructor
  · intro h
    unfold readSigned at h
    split at h
    · cases h
    · obtain ⟨m, hm, rfl⟩ := map_eq_ok.mp h
      obtain ⟨hdigits, hn⟩ := (readMagnitude_eq_ok hb h16).mp hm
      exact ⟨⟨_, m, hdigits, .inl ⟨.inr rfl, rfl⟩⟩, by omega, by omega⟩
    · obtain ⟨m, hm, rfl⟩ := map_eq_ok.mp h
      obtain ⟨hdigits, hn⟩ := (readMagnitude_eq_ok hb h16).mp hm
      exact ⟨⟨_, m, hdigits, .inr ⟨rfl, rfl⟩⟩, by omega, by omega⟩
    · obtain ⟨m, hm, rfl⟩ := map_eq_ok.mp h
      obtain ⟨hdigits, hn⟩ := (readMagnitude_eq_ok hb h16).mp hm
      exact ⟨⟨_, m, hdigits, .inl ⟨.inl rfl, rfl⟩⟩, by omega, by omega⟩
  · rintro ⟨⟨digits, m, hdigits, ⟨rfl | rfl, rfl⟩ | ⟨rfl, rfl⟩⟩, hl, hu⟩
    · exact ((spelled_iff_positional h16).mpr hdigits).readSigned hb (by omega)
    · exact map_eq_ok.mpr ⟨m, (readMagnitude_eq_ok hb h16).mpr ⟨hdigits, by omega⟩, rfl⟩
    · exact map_eq_ok.mpr ⟨m, (readMagnitude_eq_ok hb h16).mpr ⟨hdigits, by omega⟩, rfl⟩

end PackageCensus.Numeral
