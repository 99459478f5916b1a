import Mathlib
import PackageCensus.Text.Utf8

/-! # What the decoding machine reads

A character is written as a leading octet, which tells the number of the others, and `trail`, its
further digits in base sixty-four.  A character that is begun can come to the numbers it `Spans`,
and these are the characters whose octets begin with those read: `Pending.Owed`.  It holds after a
leading octet (`owed_of_begin?`) and after every octet that is admitted (`Owed.next`); an octet
that is not admitted goes on with no character (`Owed.admits`).

So `decode` is the one reading that takes characters where they stand and otherwise gives up the
longest run that could have begun one (`decodes_iff`), and a text is read back from its octets
(`decode_encode`).  Octets are `repaired` by writing what was read of them.  That can be done on
either side of an octet below 80 (`repaired_append_ascii`), and it neither makes such an octet
(`mem_of_mem_repaired`) nor puts one at the end (`getLast?_repaired`). -/

namespace PackageCensus.Text

open String (utf8EncodeChar)

/-! ### The octets of a character -/

/-- The last digits of a number in base sixty-four, so many of them, as octets. -/
def trail : Nat → Nat → List UInt8
  | 0, _ => []
  | k + 1, n => UInt8.ofNat (n / 64 ^ k % 64 + 128) :: trail k n

/-- The leading octet of a character, by its number. -/
def lead (n : Nat) : Nat :=
  if n < 0x80 then n else if n < 0x800 then n / 64 + 0xC0
  else if n < 0x10000 then n / 4096 + 0xE0 else n / 262144 + 0xF0

/-- How many octets follow the leading one. -/
def followers (n : Nat) : Nat :=
  if n < 0x80 then 0 else if n < 0x800 then 1 else if n < 0x10000 then 2 else 3

theorem lead_cases (n : Nat) :
    n < 0x80 ∧ lead n = n ∧ followers n = 0 ∨
      0x80 ≤ n ∧ n < 0x800 ∧ lead n = n / 64 + 0xC0 ∧ followers n = 1 ∨
      0x800 ≤ n ∧ n < 0x10000 ∧ lead n = n / 4096 + 0xE0 ∧ followers n = 2 ∨
      0x10000 ≤ n ∧ lead n = n / 262144 + 0xF0 ∧ followers n = 3 := by
  unfold lead followers
  split_ifs <;> omega

/-- The numbers of characters: the surrogates are left out. -/
def Scalar (n : Nat) : Prop := n < 0xD800 ∨ 0xE000 ≤ n ∧ n < 0x110000

theorem scalar_toNat (c : Char) : Scalar c.toNat := by
  have hvalid := c.valid
  simp only [UInt32.isValidChar, Nat.isValidChar] at hvalid
  show c.val.toNat < 0xD800 ∨ 0xE000 ≤ c.val.toNat ∧ c.val.toNat < 0x110000
  omega

theorem Scalar.toNat_ofNat {n : Nat} (h : Scalar n) : (Char.ofNat n).toNat = n := by
  unfold Scalar at h
  rw [Char.toNat_ofNat, if_pos]
  simp only [Nat.isValidChar]
  omega

theorem lead_lt (c : Char) : lead c.toNat < 256 := by
  have hc := scalar_toNat c
  have hlead := lead_cases c.toNat
  unfold Scalar at hc
  omega

theorem encodeChar_eq (c : Char) :
    utf8EncodeChar c = UInt8.ofNat (lead c.toNat) :: trail (followers c.toNat) c.toNat := by
  have hc := scalar_toNat c
  unfold utf8EncodeChar lead followers
  simp only [Scalar, Char.toNat] at hc ⊢
  obtain ⟨n, hn⟩ : ∃ n, c.val.toNat = n := ⟨_, rfl⟩
  simp only [hn] at hc ⊢
  by_cases h1 : n < 0x80
  · simp only [h1, if_true, if_pos (show n ≤ 0x7f by omega)]
    rfl
  by_cases h2 : n < 0x800
  · have hdigit : n / 64 % 32 = n / 64 := Nat.mod_eq_of_lt (by omega)
    simp only [h1, h2, if_true, if_false, if_neg (show ¬ n ≤ 0x7f by omega),
      if_pos (show n ≤ 0x7ff by omega), hdigit]
    simp [trail]
  by_cases h3 : n < 0x10000
  · have hdigit : n / 4096 % 16 = n / 4096 := Nat.mod_eq_of_lt (by omega)
    simp only [h1, h2, h3, if_true, if_false, if_neg (show ¬ n ≤ 0x7f by omega),
      if_neg (show ¬ n ≤ 0x7ff by omega), if_pos (show n ≤ 0xffff by omega), hdigit]
    simp [trail]
  · have hdigit : n / 262144 % 8 = n / 262144 := Nat.mod_eq_of_lt (by omega)
    simp only [h1, h2, h3, if_false, if_neg (show ¬ n ≤ 0x7f by omega),
      if_neg (show ¬ n ≤ 0x7ff by omega), if_neg (show ¬ n ≤ 0xffff by omega), hdigit]
    simp [trail]

theorem begins_iff_lead {b : UInt8} {c : Char} :
    [b] <+: utf8EncodeChar c ↔ lead c.toNat = b.toNat := by
  rw [encodeChar_eq, List.cons_prefix_cons, ← UInt8.toNat_inj, UInt8.toNat_ofNat',
    Nat.mod_eq_of_lt (lead_lt c), and_iff_left List.nil_prefix, eq_comm]

theorem encodeChar_ascii {b : UInt8} (h : b < 0x80) :
    utf8EncodeChar (Char.ofNat b.toNat) = [b] := by
  simp only [UInt8.lt_iff_toNat_lt, UInt8.reduceToNat] at h
  rw [encodeChar_eq, Scalar.toNat_ofNat (.inl (by omega))]
  simp [lead, followers, h, trail]

/-- The octets of no character begin those of another. -/
theorem eq_of_encodeChar_append {c c' : Char} {u u' : List UInt8}
    (h : utf8EncodeChar c ++ u = utf8EncodeChar c' ++ u') : c = c' := by
  have hc := @ByteArray.utf8DecodeChar?_utf8EncodeChar_append u.toByteArray c
  have hc' := @ByteArray.utf8DecodeChar?_utf8EncodeChar_append u'.toByteArray c'
  rw [← List.toByteArray_append, h, List.toByteArray_append, hc'] at hc
  exact Option.some_inj.mp hc.symm

theorem mem_trail {b : UInt8} {n : Nat} : ∀ {k : Nat}, b ∈ trail k n → 0x80 ≤ b.toNat
  | 0, h => by cases h
  | k + 1, h => by
    rcases List.mem_cons.mp h with rfl | h
    · rw [UInt8.toNat_ofNat']
      omega
    · exact mem_trail h

/-- An octet below 80 is a character by itself and part of no other. -/
theorem eq_ofNat_of_mem_encodeChar {b : UInt8} {c : Char} (hb : b < 0x80)
    (h : b ∈ utf8EncodeChar c) : c = Char.ofNat b.toNat := by
  have hlead := lead_lt c
  simp only [UInt8.lt_iff_toNat_lt, UInt8.reduceToNat] at hb
  rw [encodeChar_eq, List.mem_cons, ← UInt8.toNat_inj, UInt8.toNat_ofNat',
    Nat.mod_eq_of_lt hlead] at h
  rcases h with h | h
  · have hcases := lead_cases c.toNat
    have hc : c.toNat = b.toNat := by omega
    rw [← hc, Char.ofNat_toNat]
  · have htrail := mem_trail h
    omega

/-! ### What a begun character can come to -/

/-- The numbers that an unfinished character can come to: the digits read, then one within the
bounds, then any. -/
def Pending.Spans (p : Pending) (n : Nat) : Prop :=
  p.bits * 64 + (p.lower.toNat - 128) ≤ n / 64 ^ p.more ∧
    n / 64 ^ p.more ≤ p.bits * 64 + (p.upper.toNat - 128)

/-- The octets read are those that the characters spanned begin with, and no others do. -/
structure Pending.Owed (p : Pending) (read : List UInt8) : Prop where
  ne_nil : read ≠ []
  bounds : 128 ≤ p.lower.toNat ∧ p.lower ≤ p.upper ∧ p.upper.toNat ≤ 191
  valid : ∀ n, p.Spans n → Scalar n
  spans : ∀ c : Char, read <+: utf8EncodeChar c → p.Spans c.toNat
  written : ∀ c : Char, p.Spans c.toNat → utf8EncodeChar c = read ++ trail (p.more + 1) c.toNat

/-- A leading octet tells the numbers spanned and how many octets follow. -/
theorem owed_of_lead {b : UInt8} {p : Pending}
    (bounds : 128 ≤ p.lower.toNat ∧ p.lower ≤ p.upper ∧ p.upper.toNat ≤ 191)
    (spans : ∀ n, Scalar n → lead n = b.toNat → p.Spans n)
    (written : ∀ n, p.Spans n → Scalar n ∧ lead n = b.toNat ∧ followers n = p.more + 1) :
    p.Owed [b] where
  ne_nil := List.cons_ne_nil _ _
  bounds := bounds
  valid n hn := (written n hn).1
  spans c hc := spans c.toNat (scalar_toNat c) (begins_iff_lead.mp hc)
  written c hc := by
    obtain ⟨-, hlead, hmore⟩ := written c.toNat hc
    rw [encodeChar_eq, hlead, hmore, UInt8.ofNat_toNat]
    rfl

theorem bounds_of_begin? {b : UInt8} {p : Pending} (h : Pending.begin? b = some p) :
    128 ≤ p.lower.toNat ∧ p.lower ≤ p.upper ∧ p.upper.toNat ≤ 191 := by
  unfold Pending.begin? at h
  split_ifs at h <;> cases h <;> dsimp only <;> decide

/-- The octets that begin a character of several octets. -/
theorem owed_of_begin? {b : UInt8} {p : Pending} (h : Pending.begin? b = some p) : p.Owed [b] := by
  have bounds := bounds_of_begin? h
  unfold Pending.begin? at h
  simp only [UInt8.le_iff_toNat_le, ← UInt8.toNat_inj, UInt8.reduceToNat] at h
  -- The numbers of each class are told by the leading octet, and its bounds keep to `Scalar`.
  split_ifs at h <;> cases h <;> refine owed_of_lead bounds (fun n => ?_) (fun n => ?_)
  all_goals
    have hlead := lead_cases n
    simp only [Pending.Spans, Scalar, UInt8.reduceToNat, Nat.reducePow, Nat.div_one]
    omega

/-- The other octets from 80 on begin no character. -/
theorem not_begins_of_begin? {b : UInt8} (h : ¬ b < 0x80) (hbegin : Pending.begin? b = none)
    (c : Char) : ¬ [b] <+: utf8EncodeChar c := by
  rw [begins_iff_lead]
  intro hlead
  have hc := scalar_toNat c
  have hcases := lead_cases c.toNat
  unfold Pending.begin? at hbegin
  simp only [UInt8.le_iff_toNat_le, UInt8.lt_iff_toNat_lt, ← UInt8.toNat_inj, UInt8.reduceToNat]
    at h hbegin
  split_ifs at hbegin
  unfold Scalar at hc
  omega

namespace Pending.Owed

variable {p : Pending} {read : List UInt8}

/-- An octet goes on with some character spanned only if it is admitted. -/
theorem admits {b : UInt8} {c : Char} (h : p.Owed read) (hc : read ++ [b] <+: utf8EncodeChar c) :
    p.admits b = true ∧ c.toNat / 64 ^ p.more = p.bits * 64 + b.toNat % 64 := by
  have hspans := h.spans c ((List.prefix_append read [b]).trans hc)
  have hbounds := h.bounds
  rw [UInt8.le_iff_toNat_le] at hbounds
  rw [h.written c hspans, List.prefix_append_right_inj, trail, List.cons_prefix_cons,
    ← UInt8.toNat_inj, UInt8.toNat_ofNat'] at hc
  obtain ⟨hb, -⟩ := hc
  unfold Spans at hspans
  simp only [Pending.admits, Bool.and_eq_true, decide_eq_true_eq, UInt8.le_iff_toNat_le]
  omega

/-- The numbers whose next digit is that of an admitted octet are spanned. -/
theorem spans_of_admits {b : UInt8} {n : Nat} (h : p.Owed read) (hb : p.admits b = true)
    (hn : n / 64 ^ p.more = p.bits * 64 + b.toNat % 64) :
    p.Spans n ∧ UInt8.ofNat (n / 64 ^ p.more % 64 + 128) = b := by
  have hbounds := h.bounds
  simp only [Pending.admits, Bool.and_eq_true, decide_eq_true_eq] at hb
  rw [UInt8.le_iff_toNat_le, UInt8.le_iff_toNat_le] at hb
  rw [← UInt8.toNat_inj, UInt8.toNat_ofNat', hn]
  unfold Spans
  omega

/-- An admitted octet leaves the characters owed whose next digit it is. -/
theorem next {b : UInt8} {more : Nat} (h : p.Owed read) (hmore : p.more = more + 1)
    (hb : p.admits b = true) :
    Pending.Owed { bits := p.bits * 64 + b.toNat % 64, more } (read ++ [b]) := by
  have hspans (n : Nat) : Pending.Spans { bits := p.bits * 64 + b.toNat % 64, more } n ↔
      n / 64 ^ p.more = p.bits * 64 + b.toNat % 64 := by
    rw [hmore, pow_succ, ← Nat.div_div_eq_div_mul]
    simp only [Pending.Spans, UInt8.reduceToNat]
    omega
  constructor
  · exact List.append_ne_nil_of_right_ne_nil _ (List.cons_ne_nil _ _)
  · exact ⟨le_rfl, (by decide : (0x80 : UInt8) ≤ 0xBF), le_rfl⟩
  · intro n hn
    exact h.valid n (h.spans_of_admits hb ((hspans n).mp hn)).1
  · intro c hc
    exact (hspans _).mpr (h.admits hc).2
  · intro c hc
    obtain ⟨hc, hdigit⟩ := h.spans_of_admits hb ((hspans _).mp hc)
    rw [h.written c hc, trail, hdigit, hmore, List.append_assoc]
    rfl

/-- The last octet, if it is admitted, finishes a character. -/
theorem finish {b : UInt8} (h : p.Owed read) (hmore : p.more = 0) (hb : p.admits b = true) :
    utf8EncodeChar (Char.ofNat (p.bits * 64 + b.toNat % 64)) = read ++ [b] := by
  have hn : (p.bits * 64 + b.toNat % 64) / 64 ^ p.more = p.bits * 64 + b.toNat % 64 := by
    simp [hmore]
  obtain ⟨hspans, hdigit⟩ := h.spans_of_admits hb hn
  have hchar := (h.valid _ hspans).toNat_ofNat
  rw [h.written _ (by rwa [hchar]), hchar, hmore, trail, ← hmore, hdigit, hmore]
  rfl

theorem not_goes_on {b : UInt8} (h : p.Owed read) (hb : p.admits b = false) (c : Char) :
    ¬ read ++ [b] <+: utf8EncodeChar c := fun hc => by
  have hadmits := (h.admits hc).1
  rw [hb] at hadmits
  cases hadmits

/-- Some character is spanned, with more octets to come. -/
theorem begins (h : p.Owed read) : ∃ c last, utf8EncodeChar c = read ++ last ∧ last ≠ [] := by
  have hbounds := h.bounds
  obtain ⟨n, hn⟩ : ∃ n, n = (p.bits * 64 + (p.lower.toNat - 128)) * 64 ^ p.more := ⟨_, rfl⟩
  have hdigit : n / 64 ^ p.more = p.bits * 64 + (p.lower.toNat - 128) := by
    rw [hn, Nat.mul_div_cancel _ (by positivity)]
  have hspans : p.Spans n := by
    rw [UInt8.le_iff_toNat_le] at hbounds
    unfold Spans
    omega
  have hchar := (h.valid n hspans).toNat_ofNat
  exact ⟨Char.ofNat n, trail (p.more + 1) n, by rw [h.written _ (by rwa [hchar]), hchar],
    List.cons_ne_nil _ _⟩

/-- No character has been finished within the octets read. -/
theorem not_encodeChar_prefix (h : p.Owed read) (c : Char) : ¬ utf8EncodeChar c <+: read := by
  rintro ⟨u, rfl⟩
  obtain ⟨c', last, hc', hlast⟩ := h.begins
  have hsame : utf8EncodeChar c' ++ [] = utf8EncodeChar c ++ (u ++ last) := by
    rw [List.append_nil, hc', List.append_assoc]
  obtain rfl : c' = c := eq_of_encodeChar_append hsame
  have hlength := congrArg List.length hc'
  simp only [List.length_append] at hlength
  exact hlast (List.length_eq_zero_iff.mp (by omega))

end Pending.Owed

/-! ### One item for each character and each ill-formed run -/

/-- Octets at the head of others that are given up together: no character stands there, and they
begin one for as long as any octets there do. -/
structure GivenUp (run rest : List UInt8) : Prop where
  ne_nil : run ≠ []
  no_char : ∀ c : Char, ¬ utf8EncodeChar c <+: run ++ rest
  begins : run.length = 1 ∨ ∃ c : Char, run <+: utf8EncodeChar c
  maximal : ∀ b after, rest = b :: after → ∀ c : Char, ¬ run ++ [b] <+: utf8EncodeChar c

/-- The items of octets: the characters, and `none` for each longest run that could only have begun
one. -/
inductive Decodes : List UInt8 → List (Option Char) → Prop
  | nil : Decodes [] []
  | char (c : Char) {rest : List UInt8} {items : List (Option Char)} :
    Decodes rest items → Decodes (utf8EncodeChar c ++ rest) (some c :: items)
  | run {run rest : List UInt8} {items : List (Option Char)} : GivenUp run rest →
    Decodes rest items → Decodes (run ++ rest) (none :: items)

theorem Pending.Owed.givenUp_nil {p : Pending} {read : List UInt8} (h : p.Owed read) :
    GivenUp read [] where
  ne_nil := h.ne_nil
  no_char c := by
    rw [List.append_nil]
    exact h.not_encodeChar_prefix c
  begins := by
    obtain ⟨c, last, hc, -⟩ := h.begins
    exact .inr ⟨c, last, hc.symm⟩
  maximal b after hrest := by cases hrest

theorem Pending.Owed.givenUp_cons {p : Pending} {read : List UInt8} {b : UInt8} (h : p.Owed read)
    (hb : p.admits b = false) (after : List UInt8) : GivenUp read (b :: after) where
  ne_nil := h.ne_nil
  no_char c hc := by
    have hread : read ++ [b] <+: read ++ b :: after := ⟨after, by simp⟩
    rcases List.prefix_or_prefix_of_prefix hc hread with hc | hc
    · rcases List.prefix_concat_iff.mp hc with hc | hc
      · exact h.not_goes_on hb c (hc ▸ List.prefix_rfl)
      · exact h.not_encodeChar_prefix c hc
    · exact h.not_goes_on hb c hc
  begins := h.givenUp_nil.begins
  maximal b' after' hrest := by
    cases hrest
    exact h.not_goes_on hb

theorem givenUp_of_begin? {b : UInt8} (h : ¬ b < 0x80) (hbegin : Pending.begin? b = none)
    (rest : List UInt8) : GivenUp [b] rest where
  ne_nil := List.cons_ne_nil _ _
  no_char c hc := by
    refine not_begins_of_begin? h hbegin c ?_
    obtain ⟨u, hu⟩ := hc
    rw [encodeChar_eq, List.cons_append, List.singleton_append, List.cons.injEq] at hu
    rw [encodeChar_eq, hu.1]
    exact List.prefix_append [b] _
  begins := .inl rfl
  maximal b' after _ c hc :=
    not_begins_of_begin? h hbegin c ((List.prefix_append [b] [b']).trans hc)

/-- What is read from octets is one item for each character and each run given up. -/
theorem decodes_decodeFrom : ∀ octets : List UInt8,
    Decodes octets (decode octets) ∧
      ∀ p read, Pending.Owed p read → Decodes (read ++ octets) (decodeFrom (some p) octets)
  | [] => ⟨.nil, fun p read h => .run h.givenUp_nil .nil⟩
  | b :: rest => by
    obtain ⟨ih, ihp⟩ := decodes_decodeFrom rest
    have hfirst : Decodes (b :: rest) (decode (b :: rest)) := by
      unfold decode decodeFrom first
      dsimp only
      split_ifs with hb
      · have hread : b :: rest = utf8EncodeChar (Char.ofNat b.toNat) ++ rest := by
          rw [encodeChar_ascii hb, List.singleton_append]
        rw [hread]
        exact .char _ ih
      · split
        · next p hp => exact ihp p [b] (owed_of_begin? hp)
        · next hp => exact .run (givenUp_of_begin? hb hp rest) ih
    refine ⟨hfirst, fun p read h => ?_⟩
    unfold decodeFrom Pending.next
    dsimp only
    split_ifs with hb
    · have hread : read ++ b :: rest = (read ++ [b]) ++ rest := by simp
      rw [hread]
      split
      · next hmore => exact h.finish hmore hb ▸ Decodes.char _ ih
      · next more hmore => exact ihp _ _ (h.next hmore hb)
    · exact .run (h.givenUp_cons (by simpa using hb) rest) hfirst

theorem decodes_decode (octets : List UInt8) : Decodes octets (decode octets) :=
  (decodes_decodeFrom octets).1

theorem Decodes.cases {octets : List UInt8} {items : List (Option Char)}
    (h : Decodes octets items) : (octets = [] ∧ items = []) ∨
      (∃ c rest tail, octets = utf8EncodeChar c ++ rest ∧ items = some c :: tail ∧
        Decodes rest tail) ∨
      ∃ run rest tail, octets = run ++ rest ∧ items = none :: tail ∧ GivenUp run rest ∧
        Decodes rest tail := by
  cases h with
  | nil => exact .inl ⟨rfl, rfl⟩
  | char c h => exact .inr (.inl ⟨c, _, _, rfl, rfl, h⟩)
  | run hrun h => exact .inr (.inr ⟨_, _, _, rfl, rfl, hrun, h⟩)

/-- Of two runs given up at one place, neither goes on after the other. -/
theorem GivenUp.not_longer {run run' rest rest' : List UInt8} (h : GivenUp run rest)
    (h' : GivenUp run' rest') (heq : run ++ rest = run' ++ rest') : run' <+: run := by
  have hrun : run <+: run' ++ rest' := heq ▸ List.prefix_append run rest
  rcases List.prefix_or_prefix_of_prefix hrun (List.prefix_append run' rest') with hp | hp
  · obtain ⟨more, rfl⟩ := hp
    cases more with
    | nil => simp
    | cons b more =>
      rw [List.append_assoc, List.append_cancel_left_eq] at heq
      -- The longer run would begin a character that goes on after the shorter one.
      rcases h'.begins with hone | ⟨c, hc⟩
      · have hpos := List.length_pos_iff.mpr h.ne_nil
        simp only [List.length_append, List.length_cons] at hone
        omega
      · have hlonger : run ++ [b] <+: run ++ b :: more := ⟨more, by simp⟩
        exact absurd (hlonger.trans hc) (h.maximal b _ heq c)
  · exact hp

/-- No octets have two readings. -/
theorem Decodes.unique {octets : List UInt8} {items items' : List (Option Char)}
    (h : Decodes octets items) (h' : Decodes octets items') : items = items' := by
  induction h generalizing items' with
  | nil =>
    rcases h'.cases with ⟨-, hnil⟩ | ⟨c, _, _, hoctets, -⟩ | ⟨run, _, _, hoctets, -, hrun, -⟩
    · exact hnil.symm
    · exact absurd (List.append_eq_nil_iff.mp hoctets.symm).1 String.utf8EncodeChar_ne_nil
    · exact absurd (List.append_eq_nil_iff.mp hoctets.symm).1 hrun.ne_nil
  | char c _ ih =>
    rcases h'.cases with ⟨hnil, -⟩ | ⟨c', _, _, hoctets, rfl, htail⟩ |
      ⟨run, _, _, hoctets, -, hrun, -⟩
    · exact absurd (List.append_eq_nil_iff.mp hnil).1 String.utf8EncodeChar_ne_nil
    · obtain rfl := eq_of_encodeChar_append hoctets
      rw [List.append_cancel_left_eq] at hoctets
      rw [ih (hoctets ▸ htail)]
    · exact absurd (hoctets ▸ List.prefix_append _ _) (hrun.no_char c)
  | run hrun _ ih =>
    rcases h'.cases with ⟨hnil, -⟩ | ⟨c', _, _, hoctets, -⟩ |
      ⟨run', _, _, hoctets, rfl, hrun', htail⟩
    · exact absurd (List.append_eq_nil_iff.mp hnil).1 hrun.ne_nil
    · exact absurd (hoctets ▸ List.prefix_append _ _) (hrun.no_char c')
    · have hle := (hrun'.not_longer hrun hoctets.symm).length_le
      obtain rfl := (hrun.not_longer hrun' hoctets).eq_of_length_le hle
      rw [List.append_cancel_left_eq] at hoctets
      rw [ih (hoctets ▸ htail)]

/-- The machine reads octets in the one way there is. -/
theorem decodes_iff {octets : List UInt8} {items : List (Option Char)} :
    Decodes octets items ↔ items = decode octets :=
  ⟨fun h => h.unique (decodes_decode octets), fun h => h ▸ decodes_decode octets⟩

/-- A character of four octets that a line feed cuts short, and an octet that begins none. -/
example : decode [0xF0, 0x9F, 0x98, 0x0A, 0xFF] = [none, some '\n', none] := by decide

/-! ### Texts that are read back -/

theorem decodes_encode : ∀ text : List Char, Decodes (encode text) (text.map some)
  | [] => .nil
  | c :: text => .char c (decodes_encode text)

theorem decode_encode (text : List Char) : decode (encode text) = text.map some :=
  (decodes_iff.mp (decodes_encode text)).symm

theorem decode?_encode (text : List Char) : decode? (encode text) = some text := by
  rw [decode?, decode_encode]
  induction text with
  | nil => rfl
  | cons c cs ih =>
    rw [List.map_cons, List.mapM_cons, ih]
    rfl

theorem decodeLossy_encode (text : List Char) : decodeLossy (encode text) = text := by
  unfold decodeLossy
  rw [decode_encode, List.map_map]
  exact List.map_id text

/-! ### Repaired octets -/

theorem Decodes.mem_ascii {b : UInt8} (hb : b < 0x80) {octets : List UInt8}
    {items : List (Option Char)} (h : Decodes octets items)
    (hmem : some (Char.ofNat b.toNat) ∈ items) : b ∈ octets := by
  induction h with
  | nil => cases hmem
  | char c _ ih =>
    rcases List.mem_cons.mp hmem with hc | hmem
    · rw [← Option.some_inj.mp hc, encodeChar_ascii hb]
      exact List.mem_cons_self
    · exact List.mem_append_right _ (ih hmem)
  | run _ _ ih =>
    rcases List.mem_cons.mp hmem with hc | hmem
    · cases hc
    · exact List.mem_append_right _ (ih hmem)

/-- The octets with the replacement character in place of each ill-formed run. -/
def repaired (octets : List UInt8) : List UInt8 := encode (decodeLossy octets)

theorem decodeLossy_repaired (octets : List UInt8) :
    decodeLossy (repaired octets) = decodeLossy octets := decodeLossy_encode _

theorem repaired_eq_nil {octets : List UInt8} : repaired octets = [] ↔ octets = [] := by
  refine ⟨fun h => ?_, fun h => by rw [h]; rfl⟩
  have hitems : decode octets = [] := by
    have htext := congrArg decodeLossy h
    rw [decodeLossy_repaired] at htext
    exact List.map_eq_nil_iff.mp htext
  rcases (decodes_decode octets).cases with ⟨hnil, -⟩ | ⟨_, _, _, -, hcons, -⟩ |
    ⟨_, _, _, -, hcons, -⟩
  · exact hnil
  · exact absurd (hitems.symm.trans hcons) (List.cons_ne_nil _ _).symm
  · exact absurd (hitems.symm.trans hcons) (List.cons_ne_nil _ _).symm

/-- Octets may be repaired on either side of one below 80. -/
theorem repaired_append_ascii {b : UInt8} (hb : b < 0x80) (octets rest : List UInt8) :
    repaired (octets ++ b :: rest) = repaired octets ++ b :: repaired rest := by
  have hitems : decode (octets ++ b :: rest) =
      decode octets ++ some (Char.ofNat b.toNat) :: decode rest :=
    decodeFrom_append_ascii hb rest octets none fun q hq => by cases hq
  simp only [repaired, decodeLossy, hitems, List.map_append, List.map_cons, Option.getD_some,
    encode_append, encode_cons, encodeChar_ascii hb, List.singleton_append]

/-- Repairing makes no octet below 80. -/
theorem mem_of_mem_repaired {b : UInt8} (hb : b < 0x80) {octets : List UInt8}
    (h : b ∈ repaired octets) : b ∈ octets := by
  unfold repaired encode decodeLossy at h
  obtain ⟨c, hc, hbc⟩ := List.mem_flatMap.mp h
  obtain ⟨item, hitem, rfl⟩ := List.mem_map.mp hc
  have hchar := eq_ofNat_of_mem_encodeChar hb hbc
  cases item with
  | none =>
    -- The replacement character is written in three octets, none of them below 80.
    have hreplacement : ∀ a ∈ utf8EncodeChar replacement, ¬ a < 0x80 := by
      simp [replacement, utf8EncodeChar]
    exact absurd hb (hreplacement b hbc)
  | some c =>
    rw [Option.getD_some] at hchar
    exact (decodes_decode octets).mem_ascii hb (hchar ▸ hitem)

/-- Repairing puts no octet below 80 at the end. -/
theorem getLast?_repaired {b : UInt8} (hb : b < 0x80) {octets : List UInt8}
    (h : (repaired octets).getLast? = some b) : octets.getLast? = some b := by
  have hmem := mem_of_mem_repaired hb (List.mem_of_getLast? h)
  obtain ⟨v, u, hrev, hv⟩ := List.eq_append_cons_of_mem (List.mem_reverse.mpr hmem)
  have hoctets : octets = u.reverse ++ b :: v.reverse := by
    rw [← List.reverse_reverse octets, hrev]
    simp
  cases hnil : v.reverse with
  | nil =>
    rw [hoctets, hnil, List.getLast?_concat]
  | cons a w =>
    -- The last octet is then one of those behind the last such octet there was.
    have hne : repaired (a :: w) ≠ [] := fun hnil =>
      List.cons_ne_nil a w (repaired_eq_nil.mp hnil)
    rw [hoctets, hnil, repaired_append_ascii hb, List.getLast?_append_cons,
      List.getLast?_cons_of_ne_nil hne] at h
    have hlast := mem_of_mem_repaired hb (List.mem_of_getLast? h)
    rw [← hnil] at hlast
    exact absurd (List.mem_reverse.mp hlast) hv

end PackageCensus.Text
