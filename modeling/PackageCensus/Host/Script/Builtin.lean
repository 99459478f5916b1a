import PackageCensus.Host.Script.Command
import PackageCensus.Host.Script.Field
import PackageCensus.Host.Script.Format
import PackageCensus.Host.Script.Signal
import PackageCensus.Host.Script.Test

/-! # Commands of the language

What the commands do that belong to the language itself, but for those that run statements of their
own.  Each gives its status and what it writes; what cannot be written is told, and counts as a
failure. -/

namespace PackageCensus.Script

namespace Shell

/-! ### Variables, options and arguments -/

/-- Marks variables: those that other programs see, or those that are protected. -/
def mark (exported : Bool) (arguments : List Octets) : Shell Unit := do
  let (_, names) ← optionsOf "p" arguments
  each (fun text => do
    let (name, value?) := nameAndValue text
    let known := (← read (·.values)).lookup name
    match value?, known with
    | none, some v => update fun p => p.setVariable name (some { v with
        exported := v.exported || exported, readOnly := v.readOnly || ! exported })
    | value?, _ =>
      if ! isName name then fail (name ++ ": bad variable name".toList)
      assign name value? exported (! exported)) names

/-- Takes values from variables, or away functions. -/
def unsetAll (arguments : List Octets) : Shell Unit := do
  let (options, names) ← optionsOf "vf" arguments
  if options.getLast? = some 'f' then
    update fun p => { p with functions := p.functions.filter fun f => ! names.contains f.1 }
  else each (set · none) names

/-- Makes variables those of a function. -/
def makeAllOwn (arguments : List Octets) : Shell Unit := do
  let frames ← read (·.frames)
  if frames.isEmpty then fail "not in a function".toList
  each (makeOwn · false) arguments

/-- Sets options and arguments. -/
def setAll (arguments : List Octets) : Shell Unit := do
  let k ← turnAll false (arguments.length + 1) { rest := arguments }
  if k.closed || ! k.rest.isEmpty then update ({ · with arguments := k.rest })

/-- Drops the first arguments. -/
def shift (arguments : List Octets) : Shell Unit := do
  let n ← match arguments with
    | [] => pure 1
    | text :: _ => numberOf text
  let p ← read id
  if p.arguments.length < n then fail "can't shift that many".toList
  update ({ · with arguments := p.arguments.drop n })

/-- Sets the mask for new files, or tells it. -/
def maskFiles (arguments : List Octets) : Shell Octets := do
  match arguments with
  | [] =>
    let digits := Nat.toDigits 8 (← read (·.mask))
    return List.replicate (4 - digits.length) '0' ++ digits ++ ['\n']
  | word :: _ =>
    match takeDigits 8 word with
    | (some n, []) => update ({ · with mask := n % 512 })
    | _ => failNumber word
    return []

/-! ### Ways out -/

/-- Leaves loops, or goes on with their next rounds. -/
def leaveLoops (goesOn : Bool) (arguments : List Octets) : Shell Unit := do
  let n ← match arguments with
    | [] => pure 1
    | text :: _ => do
      let n ← numberOf text
      if n = 0 then failNumber text else pure n
  let loops ← read (·.loops)
  let n := min n loops
  if 0 < n then update ({ · with skip := if goesOn then .nextRound n else .stopLoops n })

/-- Leaves a function. -/
def leaveFunction (arguments : List Octets) : Shell Nat := do
  match arguments with
  | [] =>
    update ({ · with skip := .definition })
    read (·.status)
  | text :: _ =>
    let n ← numberOf text
    update ({ · with skip := .function })
    return n

/-- Ends the script. -/
def leave (arguments : List Octets) : Shell Unit := do
  match arguments with
  | [] => pure ()
  | text :: _ =>
    let n ← numberOf text
    update ({ · with savedStatus := some n })
  throw .exit

/-! ### Lines of the input -/

/-- Takes a line apart into segments: its plain parts can be cut, and what a backslash stood in
front of cannot.  Gives how many octets were taken, and whether the line has an end. -/
def lineOf (raw : Bool) : List UInt8 → List Char → List Segment → Nat → List Segment × Nat × Bool
  | [], part, done, n => ((⟨part.reverse.map .plain, .atSeparators⟩ :: done).reverse, n, false)
  | b :: rest, part, done, n =>
    let c := Char.ofNat b.toNat
    if c = '\n' then ((⟨part.reverse.map .plain, .atSeparators⟩ :: done).reverse, n + 1, true)
    else if c = '\x00' then lineOf raw rest part done (n + 1)
    else if c = '\\' && ! raw then
      let done := ⟨part.reverse.map .plain, .atSeparators⟩ :: done
      match rest with
      | [] => lineOf raw [] [] done (n + 1)
      | b :: rest =>
        let c := Char.ofNat b.toNat
        lineOf raw rest [] (if c = '\n' then done else ⟨[.exact c], .nowhere⟩ :: done) (n + 2)
    else lineOf raw rest (c :: part) done (n + 1)

/-- Gives the values to the variables, and nothing to those that are left over. -/
def giveAll : List Octets → List Octets → Shell Unit
  | [], _ => return
  | name :: names, [] => do
    give name []
    giveAll names []
  | name :: names, value :: values => do
    give name value
    giveAll names values

/-- Reads a line and gives its fields to variables. -/
def takeLine (arguments : List Octets) : Shell Nat := do
  let (options, names) ← optionsOf "r" arguments
  if names.isEmpty then fail "arg count".toList
  let raw := options.contains 'r'
  let octets := (← unread 0).toOption.getD []
  let (segments, count, ended) := lineOf raw octets [] [] 0
  advance 0 count
  let separators ← read (·.separators)
  let fields := fieldsOf separators (some names.length) segments
  giveAll names (fields.map Glyph.text)
  return if ended then 0 else 1

/-! ### Output -/

/-- Writes what a command gives, and tells if that cannot be done. -/
def print (name : Octets) (status : Nat) (text : Octets) : Shell Nat := do
  if text.isEmpty then return status
  match ← write 1 text with
  | none => return status
  | some _ =>
    warn (name ++ ": I/O error".toList)
    return status ||| 1

/-- Prints a format. -/
def printFormat (name : Octets) (arguments : List Octets) : Shell Nat := do
  let (_, words) ← optionsOf "" arguments
  match words with
  | [] => fail "usage: printf format [arg ...]".toList
  | format :: arguments =>
    let (_, p) ← (Printing.all format (arguments.length + 1)).run { arguments }
    let status ← print name (if p.failed then 1 else 0) p.text.reverse.flatten
    if p.broken then
      setStatus 2
      throw .error
    return status

/-- Tests what the arguments say, which are followed by a bracket if told. -/
def testArguments (bracket : Bool) (arguments : List Octets) : Shell Nat := do
  let arguments ← if ! bracket then pure arguments
    else if (arguments.getLast?.bind List.head?) = some ']' then pure arguments.dropLast
    else fail "missing ]".toList
  return if ← testWhole arguments then 0 else 1

/-- The times that processes have taken, of which there is none. -/
def noTimes : Octets := "0m0.000000s 0m0.000000s\n0m0.000000s 0m0.000000s\n".toList

/-! ### The commands -/

/-- A command that writes nothing and goes well. -/
def silently (a : Shell Unit) : Shell (Nat × Octets) := do
  a
  return (0, [])

/-- A command that writes nothing. -/
def withStatus (a : Shell Nat) : Shell (Nat × Octets) := do return (← a, [])

/-- A command that goes well. -/
def withOutput (a : Shell Octets) : Shell (Nat × Octets) := do return (0, ← a)

/-- What the command of a name does, without what it writes. -/
def ownCommand (name : String) (arguments : List Octets) : Shell (Nat × Octets) :=
  match name with
  | "false" => return (1, [])
  | "[" => withStatus (testArguments true arguments)
  | "test" => withStatus (testArguments false arguments)
  | "alias" => withStatus (nameTexts arguments)
  | "unalias" => withStatus (unnameTexts arguments)
  | "kill" => kill arguments
  | "wait" => withStatus (waitFor arguments)
  | "trap" => withStatus (trap arguments)
  | "break" => silently (leaveLoops false arguments)
  | "continue" => silently (leaveLoops true arguments)
  | "return" => withStatus (leaveFunction arguments)
  | "exit" => silently (leave arguments)
  | "cd" => changeDirectory arguments
  | "pwd" => withOutput do return (← currentPath) ++ ['\n']
  | "echo" => return (0, echoed arguments)
  | "export" => silently (mark true arguments)
  | "readonly" => silently (mark false arguments)
  | "local" => silently (makeAllOwn arguments)
  | "unset" => silently (unsetAll arguments)
  | "set" => silently (setAll arguments)
  | "shift" => silently (shift arguments)
  | "read" => withStatus (takeLine arguments)
  | "hash" => withStatus (lookFor arguments)
  | "umask" => withOutput (maskFiles arguments)
  | "times" => return (0, noTimes)
  | _ => return (0, [])

/-- Does what the command of a name does: its status. -/
def runOwn (name : String) (arguments : List Octets) : Shell Nat := do
  if name = "printf" then printFormat name.toList arguments
  else
    let (status, text) ← ownCommand name arguments
    print name.toList status text

end Shell
end PackageCensus.Script
