import PackageCensus.Host.Script.Expression

/-! # Tests

What `test` finds out about texts, numbers and files.  Its arguments are an expression of their own:
tests of one or two operands, joined by signs for "not", "and" and "or", and parentheses.  A sign
that stands where an operand has to be is one. -/

namespace PackageCensus.Script

/-- The tests of two operands. -/
def binaryNames : List String :=
  ["=", "!=", "<", ">", "-eq", "-ne", "-ge", "-gt", "-le", "-lt"]

/-- The letters of the tests of one operand. -/
def unaryLetters : List Char := "rwxefdcbpugkstznhOGLS".toList

namespace Shell

/-- Whether a test of a file comes out true. -/
def testFile (letter : Char) (path : Octets) : Shell Bool := do
  let s ← get
  match s.world.tree.locate s.process.directory path with
  | .error _ => return false
  | .ok (_, entry) => return match letter, entry with
    | 'f', .file _ | 'f', .program => true
    | 'd', .directory => true
    | 'c', .device _ => true
    | 's', .file octets => ! octets.isEmpty
    | 's', .directory | 's', .program => true
    | 'x', .directory | 'x', .program => true
    | 'r', _ | 'w', _ | 'e', _ | 'O', _ | 'G', _ => true
    | _, _ => false

/-- Whether a test of one operand comes out true. -/
def testOne (letter : Char) (text : Octets) : Shell Bool :=
  match letter with
  | 'z' => return text.isEmpty
  | 'n' => return ! text.isEmpty
  | letter => testFile letter text

/-- The number that an operand is. -/
def testNumber (text : Octets) : Shell Int :=
  match decimal? text with
  | some a => return a
  | none => failNumber text

/-- Whether a test of two operands comes out true. -/
def testTwo (a : Octets) (sign : String) (b : Octets) : Shell Bool := do
  let compared (f : Int → Int → Bool) : Shell Bool := do
    return f (← testNumber a) (← testNumber b)
  match sign with
  | "=" => return a = b
  | "!=" => return a ≠ b
  | "<" => return ! nameBefore b a
  | ">" => return ! nameBefore a b
  | "-eq" => compared (· == ·)
  | "-ne" => compared (· != ·)
  | "-lt" => compared (· < ·)
  | "-le" => compared (· ≤ ·)
  | "-gt" => compared (· > ·)
  | "-ge" => compared (· ≥ ·)
  | _ => return false

mutual

/-- Whether one of several tests comes out true, and the arguments behind them. -/
def testAny (n : Nat) (arguments : List Octets) : Shell (Bool × List Octets) :=
  match n with
  | 0 => return (false, arguments)
  | n + 1 => do
    match ← testAll n arguments with
    | (a, ['-', 'o'] :: rest) =>
      let (b, rest) ← testAny n rest
      return (a || b, rest)
    | found => return found

/-- Whether all of several tests come out true, and the arguments behind them. -/
def testAll (n : Nat) (arguments : List Octets) : Shell (Bool × List Octets) :=
  match n with
  | 0 => return (false, arguments)
  | n + 1 => do
    match ← testSingle n arguments with
    | (a, ['-', 'a'] :: rest) =>
      let (b, rest) ← testAll n rest
      return (a && b, rest)
    | found => return found

/-- Whether a single test comes out true, and the arguments behind it. -/
def testSingle (n : Nat) (arguments : List Octets) : Shell (Bool × List Octets) :=
  match n with
  | 0 => return (false, arguments)
  | n + 1 => do
    if let a :: sign :: b :: rest := arguments then
      if binaryNames.contains (String.ofList sign) then
        return (← testTwo a (String.ofList sign) b, rest)
    match arguments with
    | ['!'] :: next :: rest =>
      let (a, rest) ← testSingle n (next :: rest)
      return (! a, rest)
    | ['('] :: next :: rest => match ← testAny n (next :: rest) with
      | (a, [')'] :: rest) => return (a, rest)
      | _ => fail "closing paren expected".toList
    | ['-', c] :: operand :: rest =>
      if unaryLetters.contains c then return (← testOne c operand, rest)
      else return (true, operand :: rest)
    | text :: rest => return (! text.isEmpty, rest)
    | [] => fail "argument expected".toList

end

/-- Whether the arguments of a test come out true. -/
def testWhole (arguments : List Octets) : Shell Bool := do
  if arguments.isEmpty then return false
  match ← testAny (8 * arguments.length + 8) arguments with
  | (a, []) => return a
  | (_, op :: _) => fail (op ++ ": unexpected operator".toList)

end Shell
end PackageCensus.Script
