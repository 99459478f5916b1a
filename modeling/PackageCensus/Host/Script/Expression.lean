import PackageCensus.Host.Script.Variable

/-! # Expressions in scripts

Whole numbers of 64 bits, variables and the usual signs, with the usual precedence.  An expression
is cut into tokens, and its value found while it is read: variables take their values on the way.
The functions count down a number that no expression of that length uses up. -/

namespace PackageCensus.Script

/-! ### Numbers -/

/-- Whether a character counts as blank around numbers. -/
def isBlank (c : Char) : Bool := c == ' ' || 9 ≤ c.toNat && c.toNat < 14

/-- A number of any size within the bounds of 64 bits. -/
def wrapped (a : Int) : Int := (Int64.ofInt a).toInt

/-- The greatest of the numbers. -/
def greatest : Nat := 9223372036854775807

/-- What a digit is worth. -/
def worth (c : Char) : Nat :=
  if c.isDigit then c.toNat - '0'.toNat
  else if 'a' ≤ c.toLower ∧ c.toLower ≤ 'f' then c.toLower.toNat - 'a'.toNat + 10
  else 16

/-- The number of the digits that a text begins with, if there are any, and what follows them. -/
def takeDigits (base : Nat) (cs : List Char) : Option Nat × List Char :=
  let digits := cs.takeWhile (worth · < base)
  (if digits.isEmpty then none else some (digits.foldl (fun n c => base * n + worth c) 0),
    cs.drop digits.length)

/-- The number that a text begins with, in the base that its beginning tells, and what follows
it. -/
def takeConstant (cs : List Char) : Option Nat × List Char :=
  match cs with
  | '0' :: 'x' :: rest | '0' :: 'X' :: rest => match takeDigits 16 rest with
    | (some n, rest) => (some n, rest)
    | (none, _) => (some 0, cs.drop 1)
  | '0' :: 'b' :: rest | '0' :: 'B' :: rest => match takeDigits 2 rest with
    | (some n, rest) => (some n, rest)
    | (none, _) => (some 0, cs.drop 1)
  | '0' :: _ => takeDigits 8 cs
  | _ => takeDigits 10 cs

/-- The number at the start of a text, behind blanks and a sign, and what follows it; nothing is
taken if there is none. -/
def takeSigned (take : List Char → Option Nat × List Char) (cs : List Char) :
    Option Int × List Char :=
  let found := match cs.dropWhile isBlank with
    | '-' :: rest => let (n, rest) := take rest; (n.map fun n => -(n : Int), rest)
    | '+' :: rest => let (n, rest) := take rest; (n.map Int.ofNat, rest)
    | rest => let (n, rest) := take rest; (n.map Int.ofNat, rest)
  match found with
  | (some a, rest) => (some a, rest)
  | (none, _) => (none, cs)

/-- Whether a number has 64 bits. -/
def inRange (a : Int) : Bool := -(greatest : Int) - 1 ≤ a && a ≤ greatest

/-- The number that a whole text is, but for blanks around it. -/
def wholeNumber? (take : List Char → Option Nat × List Char) (cs : List Char) : Option Int :=
  match takeSigned take cs with
  | (some a, rest) => if inRange a && rest.all isBlank then some a else none
  | (none, _) => none

/-- The number that a text is in base ten. -/
def decimal? (cs : Octets) : Option Int := wholeNumber? (takeDigits 10) cs

/-- The number that the value of a variable is, in the base that its beginning tells; that of a
blank one is zero. -/
def numeral? (cs : Octets) : Option Int :=
  if cs.all isBlank then some 0 else wholeNumber? takeConstant cs

/-! ### Tokens -/

/-- A token of an expression. -/
inductive Term where
  | number (a : Int)
  | variable (name : Octets)
  | sign (text : String)
deriving DecidableEq, Repr

/-- The signs, of two with a common beginning the longer one first. -/
def signs : List String :=
  ["<<=", ">>=", "<<", ">>", "<=", ">=", "==", "!=", "||", "&&", "|=", "&=", "^=", "*=", "/=",
   "%=", "+=", "-=", "<", ">", "=", "!", "|", "&", "^", "*", "/", "%", "+", "-", "~", "(", ")",
   "?", ":"]

/-- The terms of a text.  Behind a character that begins none, the text is not read further. -/
def terms : Nat → List Char → List Term
  | 0, _ | _, [] => []
  | n + 1, c :: rest =>
    if c == ' ' || c == '\t' || c == '\n' then terms n rest
    else if c.isDigit then
      let (a, rest) := takeConstant (c :: rest)
      .number (min greatest (a.getD 0)) :: terms n rest
    else if beginsName c then
      .variable ((c :: rest).takeWhile isNameChar) :: terms n ((c :: rest).dropWhile isNameChar)
    else match signs.find? fun sign => sign.toList.isPrefixOf (c :: rest) with
      | some sign => .sign sign :: terms n ((c :: rest).drop sign.length)
      | none => [.sign ""]

/-- How loosely a sign between two operands binds. -/
def looseness? : String → Option Nat
  | "*" | "/" | "%" => some 0
  | "+" | "-" => some 1
  | "<<" | ">>" => some 2
  | "<" | "<=" | ">" | ">=" => some 3
  | "==" | "!=" => some 4
  | "&" => some 5
  | "^" => some 6
  | "|" => some 7
  | "&&" => some 8
  | "||" => some 9
  | _ => none

/-- The looseness of no sign. -/
def loosest : Nat := 10

/-- The sign that makes a new value of that of a variable and another one. -/
def updateOf? (sign : String) : Option String :=
  if ["<<=", ">>=", "|=", "&=", "^=", "*=", "/=", "%=", "+=", "-="].contains sign then
    some (String.ofList sign.toList.dropLast)
  else none

/-! ### Values -/

/-- An expression whose value is being found. -/
structure Calculation where
  source : Octets

namespace Calculation

/-- Gives up an expression. -/
def refuse {α : Type} (c : Calculation) (reason : String) : Shell α :=
  Shell.fail (("arithmetic expression: " ++ reason ++ ": \"").toList ++ c.source ++ ['"'])

/-- The number of a truth value. -/
def ofBool (b : Bool) : Int := if b then 1 else 0

/-- The quotient or the remainder, if there is one. -/
def divide (c : Calculation) (f : Int → Int → Int) (a b : Int) : Shell Int :=
  if b = 0 then c.refuse "division by zero"
  else if b = -1 ∧ a = -(greatest : Int) - 1 then throw (.ended (.signal 8))
  else return f a b

/-- What a sign makes of two numbers. -/
def operate (c : Calculation) (sign : String) (a b : Int) : Shell Int :=
  let bits (f : Int64 → Int64 → Int64) : Shell Int := return (f (.ofInt a) (.ofInt b)).toInt
  match sign with
  | "|" => bits (· ||| ·)
  | "^" => bits (· ^^^ ·)
  | "&" => bits (· &&& ·)
  | "==" => return ofBool (a == b)
  | "!=" => return ofBool (a != b)
  | "<=" => return ofBool (a ≤ b)
  | ">=" => return ofBool (b ≤ a)
  | "<" => return ofBool (a < b)
  | ">" => return ofBool (b < a)
  | "<<" => bits (· <<< ·)
  | ">>" => bits (· >>> ·)
  | "&&" => return ofBool (a != 0 && b != 0)
  | "||" => return ofBool (a != 0 || b != 0)
  | "+" => return wrapped (a + b)
  | "-" => return wrapped (a - b)
  | "*" => return wrapped (a * b)
  | "/" => c.divide Int.tdiv a b
  | _ => c.divide Int.tmod a b

/-- The number that the value of a variable is. -/
def valueOf (name : Octets) : Shell Int := do
  let text := (← Shell.value? name).getD []
  match numeral? text with
  | some a => return a
  | none => Shell.failNumber text

mutual

/-- The value of an expression, with one given to a variable the loosest.  In an `idle` part
nothing is done. -/
def assignment (c : Calculation) (n : Nat) (idle : Bool) (ts : List Term) :
    Shell (Int × List Term) :=
  match n with
  | 0 => return (0, ts)
  | n + 1 => match ts with
    | .variable name :: .sign sign :: rest =>
      if sign ≠ "=" && (updateOf? sign).isNone then condition c n idle ts
      else do
        let (a, rest) ← assignment c n idle rest
        if idle then return (a, rest)
        let a ← match updateOf? sign with
          | some sign => c.operate sign (← valueOf name) a
          | none => pure a
        Shell.give name (numberText a)
        return (a, rest)
    | ts => condition c n idle ts

/-- The value of a choice, or of an expression without one. -/
def condition (c : Calculation) (n : Nat) (idle : Bool) (ts : List Term) :
    Shell (Int × List Term) :=
  match n with
  | 0 => return (0, ts)
  | n + 1 => do
    let (a, rest) ← operand c n idle ts
    match ← operation c n idle a loosest rest with
    | (a, .sign "?" :: rest) =>
      match ← assignment c n (idle || a == 0) rest with
      | (yes, .sign ":" :: rest) =>
        let (no, rest) ← condition c n (idle || a != 0) rest
        return (if a = 0 then no else yes, rest)
      | _ => c.refuse "expecting ':'"
    | found => return found

/-- The value of an operand and those behind it, as long as the signs between them bind more
closely than told; what cannot change a truth value any more is idle. -/
def operation (c : Calculation) (n : Nat) (idle : Bool) (a : Int) (limit : Nat)
    (ts : List Term) : Shell (Int × List Term) :=
  match n, ts with
  | n + 1, .sign sign :: rest => match looseness? sign with
    | none => return (a, ts)
    | some place =>
      if limit ≤ place then return (a, ts)
      else do
        let decided := sign = "&&" && a == 0 || sign = "||" && a != 0
        let (b, rest) ← operand c n (idle || decided) rest
        let (b, rest) ← operation c n (idle || decided) b place rest
        let a ← if idle then pure b else c.operate sign a b
        operation c n idle a limit rest
  | _, ts => return (a, ts)

/-- The value of a number, a variable, an expression in parentheses, or one of these behind a
sign. -/
def operand (c : Calculation) (n : Nat) (idle : Bool) (ts : List Term) :
    Shell (Int × List Term) :=
  match n with
  | 0 => return (0, ts)
  | n + 1 => match ts with
    | .number a :: rest => return (a, rest)
    | .variable name :: rest => return (← if idle then pure 0 else valueOf name, rest)
    | .sign "(" :: rest => do
      match ← assignment c n idle rest with
      | (a, .sign ")" :: rest) => return (a, rest)
      | _ => c.refuse "expecting ')'"
    | .sign "+" :: rest => operand c n idle rest
    | .sign "-" :: rest => do
      let (a, rest) ← operand c n idle rest
      return (wrapped (-a), rest)
    | .sign "!" :: rest => do
      let (a, rest) ← operand c n idle rest
      return (ofBool (a == 0), rest)
    | .sign "~" :: rest => do
      let (a, rest) ← operand c n idle rest
      return (-a - 1, rest)
    | _ => c.refuse "expecting primary"

end

/-- The value of the whole expression. -/
def value (c : Calculation) : Shell Int := do
  let ts := terms (c.source.length + 1) c.source
  match ← assignment c (16 * ts.length + 64) false ts with
  | (a, []) => return a
  | _ => c.refuse "expecting EOF"

end Calculation
end PackageCensus.Script
