import PackageCensus.Host.Script.Statement

/-! # Patterns in scripts

A pattern stands for texts of octets: a star for any text, a question mark for any octet, a set in
square brackets for one of its octets, and a backslash takes away the meaning of what follows it.
A bracket that is not closed stands for itself. -/

namespace PackageCensus.Script

/-- A part of a pattern. -/
inductive PatternItem where
  | char (c : Char)
  | anyChar
  | anyText
  /-- One of the octets of some ranges, or none of them. -/
  | set (negated : Bool) (ranges : List (Char × Char))
deriving DecidableEq, Repr

/-- A pattern. -/
abbrev Pattern := List PatternItem

/-! ### Sets -/

/-- The range that begins with a character, and what follows it. -/
def takeRange? (c : Char) : List Char → Option ((Char × Char) × List Char)
  | '-' :: ']' :: rest => some ((c, c), '-' :: ']' :: rest)
  | '-' :: '\\' :: d :: rest | '-' :: d :: rest => some ((c, d), rest)
  | ['-'] => none
  | rest => some ((c, c), rest)

/-- The ranges of a set, and what follows the bracket that closes it.  The number bounds the length
of the text. -/
def takeRanges? (n : Nat) (first : Bool) (cs : List Char) :
    Option (List (Char × Char) × List Char) :=
  match n, cs with
  | 0, _ | _, [] => none
  | n + 1, c :: rest =>
    if c = ']' ∧ ¬ first then some ([], rest)
    else do
      let (range, rest) ← match c, rest with
        | '\\', c :: rest => takeRange? c rest
        | '\\', [] => none
        | c, rest => takeRange? c rest
      let (ranges, rest) ← takeRanges? n false rest
      return (range :: ranges, rest)

/-! ### Patterns -/

/-- The pattern of a text.  The number bounds the length of the text. -/
def readPattern (n : Nat) (cs : List Char) : Pattern :=
  match n, cs with
  | 0, _ | _, [] => []
  | n + 1, '\\' :: c :: rest => .char c :: readPattern n rest
  | n + 1, '*' :: rest => .anyText :: readPattern n rest
  | n + 1, '?' :: rest => .anyChar :: readPattern n rest
  | n + 1, '[' :: rest =>
    let negated := rest.head? == some '!'
    match takeRanges? rest.length true (rest.drop negated.toNat) with
    | some (ranges, rest) => .set negated ranges :: readPattern n rest
    | none => .char '[' :: readPattern n rest
  | n + 1, c :: rest => .char c :: readPattern n rest

/-- The pattern of a text. -/
def Pattern.ofText (cs : List Char) : Pattern := readPattern cs.length cs

/-- Whether a part of a pattern stands for an octet. -/
def PatternItem.fits (c : Char) : PatternItem → Bool
  | char d => c == d
  | anyChar => true
  | anyText => false
  | set negated ranges => negated != ranges.any fun (first, last) => first ≤ c && c ≤ last

/-- Whether a pattern stands for a text. -/
def Pattern.fits : Pattern → List Char → Bool
  | [], cs => cs.isEmpty
  | .anyText :: rest, [] => fits rest []
  | .anyText :: rest, c :: cs => fits rest (c :: cs) || fits (.anyText :: rest) cs
  | _ :: _, [] => false
  | item :: rest, c :: cs => item.fits c && fits rest cs
termination_by p cs => (p.length, cs.length)

/-- The length of the shortest or of the longest beginning of a text that a pattern stands for. -/
def Pattern.beginning? (p : Pattern) (longest : Bool) (cs : List Char) : Option Nat :=
  let lengths := List.range (cs.length + 1)
  (if longest then lengths.reverse else lengths).find? fun n => p.fits (cs.take n)

/-- The length of what is left in front of the shortest or of the longest end of a text that a
pattern stands for. -/
def Pattern.frontOfEnd? (p : Pattern) (longest : Bool) (cs : List Char) : Option Nat :=
  let lengths := List.range (cs.length + 1)
  (if longest then lengths else lengths.reverse).find? fun n => p.fits (cs.drop n)

end PackageCensus.Script
