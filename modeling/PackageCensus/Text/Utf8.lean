/-! # Octets and characters

`encode` writes characters in UTF-8.  `decode` reads octets back with a machine that takes one
octet at a time and keeps the character it is in the middle of: one item for each character, and
`none` for each maximal run of octets that begins a character and does not finish it.  On it
stand the strict reading `decode?`, which refuses any such run, and the lenient reading
`decodeLossy`, which puts the replacement character in its place.

An octet below 80 is never part of a longer character, so a text may be cut at line ends before
or after it is decoded: `decodeFrom_append_ascii`. -/

namespace PackageCensus.Text

/-- The character that stands for octets that encode none. -/
def replacement : Char := '\uFFFD'

/-- The UTF-8 octets of a text. -/
def encode (cs : List Char) : List UInt8 := cs.flatMap String.utf8EncodeChar

/-- The length of a text in UTF-8 octets. -/
def octetCount (cs : List Char) : Nat := cs.foldr (fun c n => c.utf8Size + n) 0

@[simp] theorem encode_nil : encode [] = [] := rfl

@[simp] theorem encode_cons (c : Char) (cs : List Char) :
    encode (c :: cs) = String.utf8EncodeChar c ++ encode cs := rfl

@[simp] theorem encode_append (cs ds : List Char) :
    encode (cs ++ ds) = encode cs ++ encode ds := by simp [encode]

/-! ### The machine -/

/-- A character begun and not finished: the bits read so far, the bounds of the next octet, and
how many octets follow that one. -/
structure Pending where
  bits : Nat
  lower : UInt8 := 0x80
  upper : UInt8 := 0xBF
  more : Nat

/-- The character that an octet begins, if it begins one of more than one octet.  The narrower
bounds keep out overlong forms, surrogates and values past the last character. -/
def Pending.begin? (b : UInt8) : Option Pending :=
  let bits := b.toNat
  if 0xC2 ≤ b ∧ b ≤ 0xDF then some { bits := bits % 32, more := 0 }
  else if b = 0xE0 then some { bits := bits % 16, lower := 0xA0, more := 1 }
  else if b = 0xED then some { bits := bits % 16, upper := 0x9F, more := 1 }
  else if 0xE1 ≤ b ∧ b ≤ 0xEF then some { bits := bits % 16, more := 1 }
  else if b = 0xF0 then some { bits := bits % 8, lower := 0x90, more := 2 }
  else if 0xF1 ≤ b ∧ b ≤ 0xF3 then some { bits := bits % 8, more := 2 }
  else if b = 0xF4 then some { bits := bits % 8, upper := 0x8F, more := 2 }
  else none

/-- Whether an octet goes on with a character. -/
def Pending.admits (p : Pending) (b : UInt8) : Bool := p.lower ≤ b && b ≤ p.upper

/-- What reading one octet yields, and the character it leaves unfinished. -/
structure Step where
  items : List (Option Char)
  pending : Option Pending

/-- An octet where a character may begin. -/
def first (b : UInt8) : Step :=
  if b < 0x80 then ⟨[some (Char.ofNat b.toNat)], none⟩
  else match Pending.begin? b with
    | some p => ⟨[], some p⟩
    | none => ⟨[none], none⟩

/-- An octet after an unfinished character: it goes on with it, or the character is given up and
the octet begins anew. -/
def Pending.next (p : Pending) (b : UInt8) : Step :=
  if p.admits b then
    let bits := p.bits * 64 + b.toNat % 64
    match p.more with
    | 0 => ⟨[some (Char.ofNat bits)], none⟩
    | more + 1 => ⟨[], some { bits, more }⟩
  else
    let s := first b
    ⟨none :: s.items, s.pending⟩

/-- The items of the octets, given the character that was left unfinished before them. -/
def decodeFrom : Option Pending → List UInt8 → List (Option Char)
  | none, [] => []
  | some _, [] => [none]
  | p, b :: rest =>
    let s := match p with
      | none => first b
      | some p => p.next b
    s.items ++ decodeFrom s.pending rest

/-- One item for each character, and one `none` for each maximal ill-formed run. -/
def decode (octets : List UInt8) : List (Option Char) := decodeFrom none octets

/-- The text of the octets, with the replacement character for each ill-formed run. -/
def decodeLossy (octets : List UInt8) : List Char :=
  (decode octets).map (·.getD replacement)

/-- The text of the octets, if they are well formed throughout. -/
def decode? (octets : List UInt8) : Option (List Char) :=
  (decode octets).mapM id

theorem first_ascii {b : UInt8} (h : b < 0x80) :
    first b = ⟨[some (Char.ofNat b.toNat)], none⟩ := by simp [first, h]

/-! ### Cutting at an octet below 80 -/

/-- An unfinished character never goes on with an octet below 80. -/
def Pending.Wide (p : Pending) : Prop := 0x80 ≤ p.lower

theorem Pending.wide_of_begin? {b : UInt8} {p : Pending} (h : Pending.begin? b = some p) :
    p.Wide := by
  unfold Pending.begin? at h
  repeat' split at h
  all_goals first
    | (cases h; simp [Pending.Wide])
    | simp at h

theorem first_wide {b : UInt8} {p : Pending} (h : (first b).pending = some p) : p.Wide := by
  unfold first at h
  split at h
  · simp at h
  · split at h
    · next q hq =>
      simp only [Option.some.injEq] at h
      exact h ▸ Pending.wide_of_begin? hq
    · simp at h

theorem Pending.next_wide {p q : Pending} {b : UInt8} (h : (p.next b).pending = some q) :
    q.Wide := by
  unfold Pending.next at h
  split at h
  · split at h
    · simp at h
    · simp only [Option.some.injEq] at h
      subst h
      simp [Pending.Wide]
  · exact first_wide h

theorem Pending.next_ascii {p : Pending} (hp : p.Wide) {b : UInt8} (h : b < 0x80) :
    p.next b = ⟨[none, some (Char.ofNat b.toNat)], none⟩ := by
  have hb : p.admits b = false := by
    simp only [Pending.admits, Bool.and_eq_false_imp, decide_eq_true_eq]
    intro hl
    exact absurd (UInt8.le_trans hp hl) (UInt8.not_le.mpr h)
  simp [Pending.next, hb, first_ascii h]

theorem decodeFrom_append_ascii {b : UInt8} (h : b < 0x80) (rest : List UInt8) :
    ∀ (octets : List UInt8) (p : Option Pending), (∀ q, p = some q → q.Wide) →
      decodeFrom p (octets ++ b :: rest) =
        decodeFrom p octets ++ some (Char.ofNat b.toNat) :: decode rest
  | [], none, _ => by simp [decodeFrom, first_ascii h, decode]
  | [], some q, hp => by simp [decodeFrom, Pending.next_ascii (hp q rfl) h, decode]
  | a :: octets, none, _ => by
    simp only [List.cons_append, decodeFrom, List.append_assoc]
    rw [decodeFrom_append_ascii h rest octets _ fun q hq => first_wide hq]
  | a :: octets, some p, _ => by
    simp only [List.cons_append, decodeFrom, List.append_assoc]
    rw [decodeFrom_append_ascii h rest octets _ fun q hq => Pending.next_wide hq]

end PackageCensus.Text
