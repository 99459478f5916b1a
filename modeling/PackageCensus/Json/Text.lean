import PackageCensus.Json.Fault
import PackageCensus.Text.Utf8

/-! # Strings in JSON documents

A string is cut into pieces, each a character or one of the sixteen-bit units that an escape
gives.  `joined?` makes a text of them: a pair of surrogates is one character, and a surrogate
without its partner belongs to no text.  A string that is only passed over need not make a text.
`escaped` writes a text between quotes. -/

namespace PackageCensus.Json

/-- A piece of a string as it is written. -/
inductive Piece where
  | char (c : Char)
  | unit (n : Nat)
deriving DecidableEq, Repr

/-- Whether a unit is the first half of a pair. -/
def isLeading (n : Nat) : Bool := 0xD800 ≤ n && n ≤ 0xDBFF

/-- Whether a unit is the second half of a pair. -/
def isTrailing (n : Nat) : Bool := 0xDC00 ≤ n && n ≤ 0xDFFF

/-- The character that a pair stands for. -/
def pairChar (leading trailing : Nat) : Char :=
  Char.ofNat (0x10000 + (leading - 0xD800) * 0x400 + (trailing - 0xDC00))

/-- The text that some pieces make. -/
def joined? : List Piece → Option (List Char)
  | [] => some []
  | .char c :: rest => (joined? rest).map (c :: ·)
  | .unit n :: rest =>
    if isLeading n then
      match rest with
      | .unit m :: rest =>
        if isTrailing m then (joined? rest).map (pairChar n m :: ·) else none
      | _ => none
    else if isTrailing n then none
    else (joined? rest).map (Char.ofNat n :: ·)

/-- The character that a letter after a backslash stands for. -/
def escape? : Char → Option Char
  | '"' => some '"'
  | '\\' => some '\\'
  | '/' => some '/'
  | 'b' => some '\x08'
  | 'f' => some '\x0c'
  | 'n' => some '\n'
  | 'r' => some '\r'
  | 't' => some '\t'
  | _ => none

/-- The value of a digit in base sixteen. -/
def hexDigit? (c : Char) : Option Nat :=
  if '0' ≤ c ∧ c ≤ '9' then some (c.toNat - 48)
  else if 'a' ≤ c ∧ c ≤ 'f' then some (c.toNat - 87)
  else if 'A' ≤ c ∧ c ≤ 'F' then some (c.toNat - 55)
  else none

/-- The unit that four digits give. -/
def unit? (a b c d : Char) : Option Nat := do
  let a ← hexDigit? a
  let b ← hexDigit? b
  let c ← hexDigit? c
  let d ← hexDigit? d
  return ((a * 16 + b) * 16 + c) * 16 + d

/-- The pieces of a string up to its closing quote, and what follows it.  Fewer than four octets
after the escape of a unit count as the end of the text. -/
def scanText : List Char → List Piece × Except Fault (List Char)
  | [] => ([], .error .truncated)
  | c :: rest =>
    if c = '"' then ([], .ok rest)
    else if c = '\\' then
      match rest with
      | [] => ([], .error .truncated)
      | e :: rest =>
        match escape? e with
        | some plain =>
          let (pieces, result) := scanText rest
          (.char plain :: pieces, result)
        | none =>
          if e = 'u' then
            match rest with
            | h₁ :: h₂ :: h₃ :: h₄ :: rest =>
              match unit? h₁ h₂ h₃ h₄ with
              | some n =>
                let (pieces, result) := scanText rest
                (.unit n :: pieces, result)
              | none => ([], .error .malformed)
            | short =>
              ([], .error (if Text.octetCount short < 4 then .truncated else .malformed))
          else ([], .error .malformed)
    else if c.toNat < 0x20 then ([], .error .malformed)
    else
      let (pieces, result) := scanText rest
      (.char c :: pieces, result)

/-- The string that the pieces of a closed string make. -/
def closedText (pieces : List Piece) : Except Fault String :=
  match joined? pieces with
  | some cs => .ok (String.ofList cs)
  | none => .error .malformed

/-- What is wrong with a string that must make a text and is not closed: a surrogate that its
pieces leave alone comes first, unless it is the last piece and its partner might have
followed. -/
def openFault (pieces : List Piece) (fault : Fault) : Fault :=
  let settled := match pieces.getLast? with
    | some (.unit n) => if isLeading n then pieces.dropLast else pieces
    | _ => pieces
  if (joined? settled).isSome then fault else .malformed

/-! ### Writing -/

/-- How a character stands in a string. -/
def escapedChar (c : Char) : List Char :=
  if c = '"' then ['\\', '"']
  else if c = '\\' then ['\\', '\\']
  else if c = '\x08' then ['\\', 'b']
  else if c = '\x0c' then ['\\', 'f']
  else if c = '\n' then ['\\', 'n']
  else if c = '\r' then ['\\', 'r']
  else if c = '\t' then ['\\', 't']
  else if c.toNat < 0x20 then
    ['\\', 'u', '0', '0', Nat.digitChar (c.toNat / 16), Nat.digitChar (c.toNat % 16)]
  else [c]

/-- A text between quotes. -/
def escaped (cs : List Char) : List Char := '"' :: (cs.flatMap escapedChar ++ ['"'])

/-! ### Nothing is read twice -/

theorem length_scanText : ∀ {cs rest : List Char}, (scanText cs).2 = .ok rest →
    rest.length < cs.length
  | [], _, h => by simp [scanText] at h
  | c :: cs, rest, h => by
    unfold scanText at h
    split at h
    · simp only [Except.ok.injEq] at h
      simp [h]
    · split at h
      · split at h
        · simp at h
        · next e tail =>
          split at h
          · have := @length_scanText tail rest h
            simp only [List.length_cons]
            omega
          · split at h
            · split at h
              · next h₁ h₂ h₃ h₄ tail =>
                split at h
                · have := @length_scanText tail rest h
                  simp only [List.length_cons]
                  omega
                · simp at h
              · simp at h
            · simp at h
      · split at h
        · simp at h
        · have := @length_scanText cs rest h
          simp only [List.length_cons]
          omega

end PackageCensus.Json
