import PackageCensus.Host.Script.State

/-! # Variables of scripts

Variables take values, are handed on to other programs, or can be protected against any change.
A function or a command can make variables its own: what they were before is kept in a frame, and
put back at its end. -/

namespace PackageCensus.Script

/-! ### Numbers -/

/-- The number that a text is, if it is nothing but digits. -/
def digits? (cs : Octets) : Option Nat :=
  if ! cs.isEmpty && cs.all Char.isDigit then
    some (cs.foldl (fun n c => 10 * n + (c.toNat - '0'.toNat)) 0)
  else none

/-- A number as text. -/
def numberText (a : Int) : Octets := (toString a).toList

/-- Whether a name comes before another one. -/
def nameBefore : Octets → Octets → Bool
  | [], _ => true
  | _ :: _, [] => false
  | a :: as, b :: bs => a.toNat < b.toNat || (a == b && nameBefore as bs)

namespace Process

/-- The value of a variable, if it has one. -/
def value? (p : Process) (name : Octets) : Option Octets :=
  (p.values.lookup name).bind Variable.value?

/-- Whether an option is set. -/
def has (p : Process) (option : Char) : Bool := p.options.contains option

/-- The characters at which values are cut. -/
def separators (p : Process) : Octets := (p.value? "IFS".toList).getD [' ', '\t', '\n']

/-- What goes by a name, if anything does. -/
def setVariable (p : Process) (name : Octets) (v : Option Variable) : Process :=
  { p with values := (v.map (name, ·)).toList ++ p.values.filter (·.1 != name) }

/-- The variables that other programs see. -/
def environment (p : Process) : List (Octets × Octets) :=
  p.values.filterMap fun (name, v) => if v.exported then v.value?.map (name, ·) else none

end Process

namespace Shell

/-- The value of a variable, if it has one. -/
def value? (name : Octets) : Shell (Option Octets) := read (·.value? name)

/-- Gives a variable a value or takes it away; the variable may become visible to other programs,
or protected. -/
def assign (name : Octets) (value? : Option Octets) (exported readOnly : Bool) : Shell Unit := do
  let p ← read id
  let v := (p.values.lookup name).getD {}
  if v.readOnly then fail (name ++ ": is read only".toList)
  let known := value?.isSome || exported || readOnly
  update (·.setVariable name (if ! known then none else some
    { value?, exported := v.exported || exported || p.has 'a', readOnly }))

/-- Gives a variable a value or takes it away, if its name is one. -/
def set (name : Octets) (value? : Option Octets) : Shell Unit := do
  if isName name then assign name value? false false
  else fail (name.takeWhile (· != '=') ++ ": bad variable name".toList)

/-- Gives a variable a value. -/
def give (name value : Octets) : Shell Unit := set name (some value)

/-- The name and the value of a text with an equals sign between them. -/
def nameAndValue (text : Octets) : Octets × Option Octets :=
  let name := text.takeWhile (· != '=')
  (name, if name.length < text.length then some (text.drop (name.length + 1)) else none)

/-- Keeps what a variable was for the end of the innermost frame. -/
def keep (name : Octets) (before : Option Variable) : Shell Unit := update fun p =>
  match p.frames with
  | [] => p
  | frame :: frames => { p with frames := ((name, before) :: frame) :: frames }

/-- Makes a variable, perhaps with a value, one of the innermost frame. -/
def makeOwn (text : Octets) (exported : Bool) : Shell Unit := do
  let (name, given) := nameAndValue text
  if ! isName name then fail (name ++ ": bad variable name".toList)
  keep name ((← read (·.values)).lookup name)
  if given.isSome then assign name given exported false

/-- Does something within a frame of its own, and puts back what is kept in it. -/
def inFrame {α : Type} (body : Shell α) : Shell α := do
  update fun p => { p with frames := [] :: p.frames }
  try body
  finally do
    let frames ← read (·.frames)
    update ({ · with frames := frames.drop 1 })
    each (fun (name, before) => update (·.setVariable name before)) (frames.headD [])

end Shell
end PackageCensus.Script
