import Mathlib
import PackageCensus.Proofs.Text.Utf8

/-! # The order of texts and of their octets

Texts are compared character by character, and so are their octets: `encode_lt` says that the
lesser text has the lesser octets.  Of two characters the lesser has the lesser leading octet, or
the same one and then lesser digits in base sixty-four (`encodeChar_lt`). -/

namespace PackageCensus.Text

open String (utf8EncodeChar)

theorem ofNat_lt_ofNat {m n : Nat} (h : m < n) (hn : n < 256) : UInt8.ofNat m < UInt8.ofNat n := by
  rw [UInt8.lt_iff_toNat_lt, UInt8.toNat_ofNat', UInt8.toNat_ofNat']
  omega

/-- Of two numbers that agree before their last digits in base sixty-four, the lesser has the
lesser digits. -/
theorem trail_lt {m n : Nat} (h : m < n) : ∀ {k : Nat}, m / 64 ^ k = n / 64 ^ k →
    ∀ rest rest' : List UInt8, trail k m ++ rest < trail k n ++ rest'
  | 0, same, _, _ => by
    rw [pow_zero, Nat.div_one, Nat.div_one] at same
    omega
  | k + 1, same, rest, rest' => by
    rw [pow_succ, ← Nat.div_div_eq_div_mul, ← Nat.div_div_eq_div_mul] at same
    have hle : m / 64 ^ k ≤ n / 64 ^ k := Nat.div_le_div_right h.le
    rw [trail, trail, List.cons_append, List.cons_append, List.cons_lt_cons_iff]
    -- either this digit is the first in which the numbers differ, or it is a later one
    rcases hle.lt_or_eq with hlt | heq
    · exact .inl (ofNat_lt_ofNat (by omega) (by omega))
    · exact .inr ⟨by rw [heq], trail_lt h heq rest rest'⟩

theorem encodeChar_lt {c d : Char} (h : c < d) (rest rest' : List UInt8) :
    utf8EncodeChar c ++ rest < utf8EncodeChar d ++ rest' := by
  have hlt : c.toNat < d.toNat := h
  have hc := lead_cases c.toNat
  have hd := lead_cases d.toNat
  have hlead := lead_lt d
  have hscalar := scalar_toNat d
  unfold Scalar at hscalar
  rw [encodeChar_eq, encodeChar_eq, List.cons_append, List.cons_append, List.cons_lt_cons_iff]
  by_cases same : lead c.toNat = lead d.toNat
  · have followers_eq : followers c.toNat = followers d.toNat := by omega
    have front_eq : c.toNat / 64 ^ followers d.toNat = d.toNat / 64 ^ followers d.toNat := by
      rcases hd with ⟨_, _, hf⟩ | ⟨_, _, _, hf⟩ | ⟨_, _, _, hf⟩ | ⟨_, _, hf⟩ <;>
        rw [hf] <;> omega
    rw [same, followers_eq]
    exact .inr ⟨rfl, trail_lt hlt front_eq rest rest'⟩
  · exact .inl (ofNat_lt_ofNat (by omega) hlead)

/-- The lesser of two texts has the lesser octets. -/
theorem encode_lt {cs ds : List Char} (h : cs < ds) : encode cs < encode ds := by
  induction h with
  | @nil d ds =>
    rw [encode_nil, encode_cons, encodeChar_eq]
    exact List.nil_lt_cons _ _
  | rel h => exact encodeChar_lt h _ _
  | cons _ ih => exact List.append_left_lt ih

theorem encode_lt_iff {a b : String} : encode a.toList < encode b.toList ↔ a < b := by
  refine ⟨fun h => ?_, fun h => encode_lt (String.lt_iff_toList_lt.mp h)⟩
  rcases lt_trichotomy a b with hlt | rfl | hgt
  · exact hlt
  · exact absurd h (List.lt_irrefl _)
  · exact absurd h (List.lt_asymm (encode_lt (String.lt_iff_toList_lt.mp hgt)))

end PackageCensus.Text
