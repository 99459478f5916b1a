import PackageCensus.Host.Script.Statement

/-! # Reading scripts

A reader goes through a script character by character.  It knows the line that it is on, and the
texts that are still to be read from the lines behind a command. -/

namespace PackageCensus.Script

/-- The words that have a meaning of their own where a command may begin. -/
def keywords : List String :=
  ["!", "case", "do", "done", "elif", "else", "esac", "fi", "for", "if", "in", "then", "until",
   "while", "\x7b", "\x7d"]

/-- Those of them that end the statements in front of them. -/
def closingKeywords : List String :=
  ["do", "done", "elif", "else", "esac", "fi", "then", "\x7d"]

/-- The commands that end a script when they fail, and whose names no function can have. -/
def specialCommands : List String :=
  [".", ":", "break", "continue", "eval", "exec", "exit", "export", "local", "readonly", "return",
   "set", "shift", "times", "trap", "unset"]

/-- A text that a command asks for, by its number: its lines end at the mark. -/
structure Awaited where
  number : Nat
  mark : Octets
  dropsTabs : Bool
  /-- Whether places in the text are filled. -/
  filled : Bool

/-- The state of reading. -/
structure Reader where
  /-- What has not been taken yet. -/
  rest : List Char
  line : Nat := 1
  aliases : List (Octets × Octets) := []
  awaited : List Awaited := []
  /-- The texts that have been read, and the number of the next. -/
  documents : List (Nat × Word) := []
  next : Nat := 0

/-- Why a script cannot be read, and on which line. -/
structure Fault where
  line : Nat
  text : String
deriving DecidableEq, Repr

/-- Readings of a script. -/
abbrev Reading := StateT Reader (Except Fault)

/-- The number of steps that no script is long enough to use up. -/
def readingLimit : Nat := 100000000

/-- Whether a word can end in front of a character. -/
def endsWord (c : Char) : Bool := "<>();&| \t\n".toList.contains c

namespace Reading

/-- What has not been taken yet. -/
def rest : Reading (List Char) := fun r => .ok (r.rest, r)

/-- Passes over characters, and counts the lines among them. -/
def skip (count : Nat) : Reading Unit := modify fun r =>
  { r with rest := r.rest.drop count, line := r.line + (r.rest.take count).count '\n' }

/-- Gives up. -/
def refuse {α : Type} (text : String) : Reading α := fun r => .error ⟨r.line, text⟩

/-- Gives up at what comes next. -/
def unexpected {α : Type} : Reading α := refuse "unexpected token"

/-- Takes the characters as long as they are of some kind. -/
def takeWhile (p : Char → Bool) : Reading Octets := do
  let taken := (← rest).takeWhile p
  skip taken.length
  return taken

/-- Whether a sign comes next, which is taken. -/
def takes (sign : String) : Reading Bool := do
  if sign.toList.isPrefixOf (← rest) then
    skip sign.length
    return true
  else return false

/-- Passes over blanks, joined lines and a comment. -/
def skipBlanks : Nat → Reading Unit
  | 0 => return
  | n + 1 => do
    match ← rest with
    | ' ' :: _ | '\t' :: _ =>
      skip 1
      skipBlanks n
    | '\\' :: '\n' :: _ =>
      skip 2
      skipBlanks n
    | '#' :: more => skip (1 + (more.takeWhile (· != '\n')).length)
    | _ => return

/-- What comes next behind blanks. -/
def upcoming : Reading (List Char) := do
  skipBlanks readingLimit
  rest

/-- The keyword that comes next behind blanks, if one does. -/
def keyword? : Reading (Option String) := do
  let word := String.ofList ((← upcoming).takeWhile (! endsWord ·))
  return if keywords.contains word then some word else none

/-- Takes a keyword that has to come next. -/
def expect (keyword : String) : Reading Unit := do
  if (← keyword?) = some keyword then skip keyword.length else unexpected

/-- Takes a sign that has to come next behind blanks. -/
def expectSign (sign : String) : Reading Unit := do
  let _ ← upcoming
  if ! (← takes sign) then unexpected

/-! ### Raw texts -/

/-- Takes the lines in front of a mark. -/
def takeLines (a : Awaited) : Nat → Reading Octets
  | 0 => return []
  | n + 1 => do
    let line ← takeWhile (· != '\n')
    let line := if a.dropsTabs then line.dropWhile (· == '\t') else line
    if (← rest).isEmpty then return if line = a.mark then [] else line
    skip 1
    if line = a.mark then return []
    return line ++ '\n' :: (← takeLines a n)

/-- Takes a script in backticks, behind the first of them. -/
def takeBackticks (quoted : Bool) : Nat → Reading Octets
  | 0 => refuse "EOF in backquote substitution"
  | n + 1 => do
    match ← rest with
    | [] => refuse "EOF in backquote substitution"
    | '\x60' :: _ =>
      skip 1
      return []
    | '\\' :: c :: _ =>
      skip 2
      let more ← takeBackticks quoted n
      let dropped := c == '\\' || c == '\x60' || c == '$' || (quoted && c == '"')
      return if dropped then c :: more else '\\' :: c :: more
    | c :: _ =>
      skip 1
      return c :: (← takeBackticks quoted n)

/-- Reads another text with the same reader, which then goes on where it was. -/
def within {α : Type} (text : List Char) (a : Reading α) : Reading α := do
  let outer ← get
  set { outer with rest := text, awaited := [] }
  let result ← a
  modify fun r => { r with rest := outer.rest, line := outer.line, awaited := outer.awaited }
  return result

end Reading
end PackageCensus.Script
