import PackageCensus.Text.Alphanumeric
import PackageCensus.Text.Blank

/-! # Patterns

A directive of a log filter may ask for a value by a pattern.  Nothing here is ever compared with
one, but a filter counts only if its patterns are sound: `isValuePattern`.

A pattern is text with signs for repetition, choice, groups and sets.  Flags that are set in it
change what is sound from there to the end of the group: by one of them blanks do not count, and
without another the pattern is about octets, and must not fit octets that are no text.  What would
need tables of characters, such as classes of them, the edges of words or the disregard of upper
and lower case, is sound for octets only.  The readers count down a number that no pattern of that
length uses up. -/

namespace PackageCensus.Log.Pattern

/-! ### Flags -/

/-- The flags that matter for the soundness of what follows. -/
structure Flags where
  /-- Whether blanks and comments do not count. -/
  spaced : Bool := false
  /-- Whether upper and lower case do not count. -/
  folded : Bool := false
  /-- Whether the pattern is about octets. -/
  octets : Bool := false
deriving DecidableEq, Repr

/-- The flags with one of them set or taken back. -/
def Flags.set (f : Flags) (flag : Char) (value : Bool) : Flags :=
  match flag with
  | 'x' => { f with spaced := value }
  | 'i' => { f with folded := value }
  | 'u' => { f with octets := ! value }
  | _ => f

/-- A text behind a comment. -/
def skipComment (cs : List Char) : List Char := (cs.dropWhile (· != '\n')).drop 1

/-- A text behind the blanks and comments at its start.  The number is a bound for its length. -/
def skipSpaces : Nat → List Char → List Char
  | n + 1, c :: rest =>
    if Text.isBlank c then skipSpaces n rest
    else if c = '#' then skipSpaces n (skipComment rest)
    else c :: rest
  | _, cs => cs

/-- A text behind what does not count at its start. -/
def Flags.skip (f : Flags) (cs : List Char) : List Char :=
  if f.spaced then skipSpaces cs.length cs else cs

/-- The first character of a text that counts; a comment is taken for its first sign alone. -/
def Flags.peek? (f : Flags) (cs : List Char) : Option Char :=
  if f.spaced then
    let found := match cs.dropWhile Text.isBlank with
      | '#' :: rest => rest.dropWhile Text.isBlank
      | rest => rest
    found.head?.or cs.head?
  else cs.head?

/-- The flags that a text up to a colon or a closing parenthesis sets, whether it names any, and
what follows, with that sign.  Each flag is named once, and the sign that takes flags back stands
once and before one. -/
def readFlags (f : Flags) (value : Bool) (seen : List Char) :
    List Char → Option (Flags × Bool × List Char)
  | [] => none
  | c :: rest =>
    if c = ':' ∨ c = ')' then
      if seen.head? = some '-' then none else some (f, ! seen.isEmpty, c :: rest)
    else if seen.contains c then none
    else if c = '-' then readFlags f false (c :: seen) rest
    else if "imsUuRx".toList.contains c then readFlags (f.set c value) value (c :: seen) rest
    else none

/-! ### Single characters and places -/

/-- What stands for one character, for a class of them, or for a place between two. -/
inductive Primitive where
  /-- A character, perhaps given as the number of an octet. -/
  | char (c : Char) (octet : Bool)
  /-- A class of characters, perhaps all but those. -/
  | characterClass (negated : Bool)
  | anyChar
  /-- A place, perhaps one at the edge of a word. -/
  | place (edge : Bool)
deriving DecidableEq, Repr

namespace Primitive

/-- Whether a character is sound. -/
def charIsSound (f : Flags) (c : Char) (octet : Bool) : Bool :=
  if f.octets then ! (octet && 127 < c.toNat) else ! f.folded

/-- Whether something is sound outside of sets. -/
def isSound (f : Flags) : Primitive → Bool
  | char c octet => charIsSound f c octet
  | characterClass negated => f.octets && ! negated
  | anyChar => ! f.octets
  | place edge => f.octets || ! edge

/-- Whether something is sound as a member of a set. -/
def isMember (f : Flags) : Primitive → Bool
  | char c octet => charIsSound f c octet && (! f.octets || c.toNat ≤ 127)
  | characterClass negated => f.octets && ! negated
  | anyChar | place _ => false

end Primitive

/-- The value of a digit in base sixteen. -/
def hexDigit? (c : Char) : Option Nat :=
  if c.isDigit then some (c.toNat - 48)
  else if 'a' ≤ c ∧ c ≤ 'f' then some (c.toNat - 87)
  else if 'A' ≤ c ∧ c ≤ 'F' then some (c.toNat - 55)
  else none

/-- Reads as many digits in base sixteen as told. -/
def readHex (f : Flags) (value : Nat) : Nat → List Char → Option (Nat × List Char)
  | 0, cs => some (value, cs)
  | _ + 1, [] => none
  | n + 1, c :: rest => (hexDigit? c).bind fun d => readHex f (16 * value + d) n (f.skip rest)

/-- Reads the character of a number in base sixteen. -/
def readNumbered (f : Flags) (digits : Nat) (cs : List Char) : Option (Primitive × List Char) := do
  let (value, rest) ← readHex f 0 digits (f.skip cs)
  if value.isValidChar then return (.char (Char.ofNat value) (digits == 2), rest) else none

/-- Reads what follows a backslash. -/
def readEscape (f : Flags) : List Char → Option (Primitive × List Char)
  | [] => none
  | c :: rest => match c with
    | 'x' => readNumbered f 2 rest
    | 'u' => readNumbered f 4 rest
    | 'U' => readNumbered f 8 rest
    | 'd' | 's' | 'w' => some (.characterClass false, rest)
    | 'D' | 'S' | 'W' => some (.characterClass true, rest)
    | 'A' | 'z' => some (.place false, rest)
    | 'b' | 'B' | '<' | '>' => some (.place true, rest)
    | 'a' => some (.char '\x07' false, rest)
    | 'f' => some (.char '\x0c' false, rest)
    | 't' => some (.char '\t' false, rest)
    | 'n' => some (.char '\n' false, rest)
    | 'r' => some (.char '\r' false, rest)
    | 'v' => some (.char '\x0b' false, rest)
    | c => if c.isAlphanum || 127 < c.toNat then none else some (.char c false, rest)

/-- Reads a character, a class or a place outside of sets. -/
def readPrimitive (f : Flags) : List Char → Option (Primitive × List Char)
  | [] => none
  | c :: rest => match c with
    | '\\' => readEscape f rest
    | '.' => some (.anyChar, rest)
    | '^' | '$' => some (.place false, rest)
    | c => some (.char c false, rest)

/-! ### Sets -/

/-- The names of the classes of characters in sets. -/
def classNames : List String :=
  ["alnum", "alpha", "ascii", "blank", "cntrl", "digit", "graph", "lower", "print", "punct",
   "space", "upper", "word", "xdigit"]

/-- Reads a class of characters by its name behind an opening bracket: whether it is all but those,
and what follows. -/
def readNamedClass? : List Char → Option (Bool × List Char)
  | ':' :: rest =>
    let (negated, rest) := match rest with
      | '^' :: rest => (true, rest)
      | rest => (false, rest)
    let name := rest.takeWhile (· != ':')
    match rest.drop name.length with
    | ':' :: ']' :: rest =>
      if classNames.contains (String.ofList name) then some (negated, rest) else none
    | _ => none
  | _ => none

/-- Reads a member of a set. -/
def readMember (f : Flags) : List Char → Option (Primitive × List Char)
  | [] => none
  | '\\' :: rest => readEscape f rest
  | c :: rest => some (.char c false, rest)

/-- Reads a member of a set, or the characters from one to another one that is not before it. -/
def readRange (f : Flags) (cs : List Char) : Option (List Char) := do
  let (first, rest) ← readMember f cs
  if ! first.isMember f then none
  else match f.skip rest with
    | [] => none
    | '-' :: rest =>
      if [some ']', some '-'].contains (f.peek? rest) then some ('-' :: rest)
      else
        let (last, rest) ← readMember f (f.skip rest)
        match first, last with
        | .char a _, .char b _ => if last.isMember f ∧ a ≤ b then some rest else none
        | _, _ => none
    | rest => some rest

/-- How deep a list of parts is nested, given how deep each is. -/
def depthOfAll : List Nat → Nat
  | [] => 0
  | [d] => d
  | ds => 1 + ds.foldl max 0

/-- How deep a set of two parts is nested, or that of the second alone. -/
def depthOfBoth (left : Option Nat) (right : Nat) : Nat :=
  match left with
  | none => right
  | some left => 1 + max left right

/-- Dashes at the start of a set, and what follows. -/
def takeDashes (f : Flags) : Nat → List Char → Nat × List Char
  | n + 1, '-' :: rest =>
    let (count, rest) := takeDashes f n (f.skip rest)
    (count + 1, rest)
  | _, cs => (0, cs)

mutual

/-- Reads a set behind its opening bracket, and gives how deep it is nested. -/
def readSet (n : Nat) (f : Flags) (cs : List Char) : Option (Nat × List Char) :=
  match n with
  | 0 => none
  | n + 1 =>
    let (negated, cs) := match f.skip cs with
      | '^' :: rest => (true, f.skip rest)
      | rest => (false, rest)
    let (dashes, cs) := takeDashes f cs.length cs
    let (brackets, cs) : Nat × List Char := match dashes, cs with
      | 0, ']' :: rest => (1, f.skip rest)
      | _, cs => (0, cs)
    if (f.octets && negated) || (! f.octets && f.folded && dashes + brackets != 0) then none
    else readMembers n f none (List.replicate (dashes + brackets) 0) cs

/-- Reads the members of a set up to its closing bracket, given how deep those before are nested,
and the part before the last sign between two parts. -/
def readMembers (n : Nat) (f : Flags) (left : Option Nat) (depths : List Nat) (cs : List Char) :
    Option (Nat × List Char) :=
  match n with
  | 0 => none
  | n + 1 => match f.skip cs with
    | [] => none
    | ']' :: rest => some (depthOfBoth left (depthOfAll depths), rest)
    | '[' :: rest => match readNamedClass? rest with
      | some (negated, rest) =>
        if (if f.octets then negated else f.folded) then none
        else readMembers n f left (0 :: depths) rest
      | none => do
        let (depth, rest) ← readSet n f rest
        readMembers n f left ((depth + 1) :: depths) rest
    | '&' :: '&' :: rest | '-' :: '-' :: rest | '~' :: '~' :: rest =>
      readMembers n f (some (depthOfBoth left (depthOfAll depths))) [] rest
    | cs => do
      let rest ← readRange f cs
      readMembers n f left (0 :: depths) rest

end

/-! ### Patterns -/

/-- A part of a pattern: whether it can be repeated, and how deep it is nested. -/
structure Part where
  repeats : Bool
  depth : Nat
deriving DecidableEq, Repr

/-- How deep parts in a row are nested. -/
def depthOfParts (parts : List Part) : Nat := depthOfAll (parts.map Part.depth)

/-- Whether a character can stand in the name of a group. -/
def isNameChar (first : Bool) (c : Char) : Bool :=
  c = '_' || if first then Text.isLetter c else "[].".toList.contains c || Text.isAlphanumeric c

/-- Reads the name of a group, which no group before has. -/
def readName (names : List (List Char)) (cs : List Char) :
    Option (List (List Char) × List Char) :=
  let name := cs.takeWhile (· != '>')
  match name, cs.drop name.length with
  | c :: more, '>' :: rest =>
    if isNameChar true c && more.all (isNameChar false) && ! names.contains name then
      some (name :: names, rest)
    else none
  | _, _ => none

/-- What opens a group: nothing but flags, or a group with its flags; with the names of groups, and
what follows. -/
def readOpening (f : Flags) (names : List (List Char)) (cs : List Char) :
    Option (Bool × Flags × List (List Char) × List Char) :=
  match f.skip cs with
  | '?' :: '=' :: _ | '?' :: '!' :: _ | '?' :: '<' :: '=' :: _ | '?' :: '<' :: '!' :: _ => none
  | '?' :: 'P' :: '<' :: rest | '?' :: '<' :: rest =>
    (readName names rest).map fun (names, rest) => (true, f, names, rest)
  | '?' :: rest => do
    let (f, named, rest) ← readFlags f true [] rest
    match rest with
    | ':' :: rest => return (true, f, names, rest)
    | _ => if named then return (false, f, names, rest.drop 1) else none
  | rest => some (true, f, names, rest)

/-- Reads a pattern up to a closing parenthesis or its end: how deep it is nested, the names of
groups, and what follows.  Given are the parts before, the last one first, and how deep the
choices before them are nested. -/
def readParts (n : Nat) (f : Flags) (names : List (List Char)) (choices : List Nat)
    (parts : List Part) (cs : List Char) : Option (Nat × List (List Char) × List Char) :=
  match n with
  | 0 => none
  | n + 1 =>
    let go (parts : List Part) (cs : List Char) : Option (Nat × List (List Char) × List Char) :=
      readParts n f names choices parts cs
    match f.skip cs with
    | [] | ')' :: _ => some (depthOfAll (depthOfParts parts :: choices), names, f.skip cs)
    | '|' :: rest => readParts n f names (depthOfParts parts :: choices) [] rest
    | '(' :: rest => do
      let (isGroup, inner, names, rest) ← readOpening f names rest
      if isGroup then
        let (depth, names, rest) ← readParts n inner names [] [] rest
        match rest with
        | ')' :: rest => readParts n f names choices (⟨true, depth + 1⟩ :: parts) rest
        | _ => none
      else readParts n inner names choices (⟨false, 0⟩ :: parts) rest
    | '[' :: rest => do
      let (depth, rest) ← readSet n f rest
      go (⟨true, depth + 1⟩ :: parts) rest
    | '*' :: rest | '+' :: rest | '?' :: rest => match parts with
      | ⟨true, depth⟩ :: before =>
        go (⟨true, depth + 1⟩ :: before) (if rest.head? = some '?' then rest.drop 1 else rest)
      | _ => none
    | '\x7b' :: _ => none
    | cs => do
      let (primitive, rest) ← readPrimitive f cs
      if primitive.isSound f then go (⟨true, 0⟩ :: parts) rest else none

/-- How deep a pattern may be nested. -/
def deepest : Nat := 250

/-- Whether a text is a sound pattern. -/
def isSound (text : String) : Bool :=
  match readParts (2 * text.length + 2) {} [] [] [] text.toList with
  | some (depth, _, []) => depth ≤ deepest
  | _ => false

end Pattern

/-- Whether a text is a number with a plus sign, which is no pattern. -/
def isPlusNumber (text : String) : Bool :=
  match text.toList with
  | '+' :: cs =>
    let behindWhole := cs.dropWhile Char.isDigit
    let fraction := if behindWhole.head? = some '.' then behindWhole.drop 1 else []
    let behind := if behindWhole.head? = some '.' then fraction.dropWhile Char.isDigit
      else behindWhole
    let exponent := match behind.drop 1 with
      | '+' :: digits | '-' :: digits => digits
      | digits => digits
    let digits := cs.head?.any Char.isDigit || fraction.head?.any Char.isDigit
    ["inf", "infinity", "nan"].contains (String.ofList cs).toLower ||
      digits && (behind.isEmpty || (behind.head?.any fun c => c == 'e' || c == 'E') &&
        ! exponent.isEmpty && exponent.all Char.isDigit)
  | _ => false

/-- Whether a text is sound as what a value is compared with. -/
def isValuePattern (text : String) : Bool := Pattern.isSound text || isPlusNumber text

end PackageCensus.Log
