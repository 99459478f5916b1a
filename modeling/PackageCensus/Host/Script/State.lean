import PackageCensus.Host.FileTree
import PackageCensus.Host.Run
import PackageCensus.Host.Script.Statement

/-! # States of scripts

What a script has made of its variables and descriptors, and of the world that it shares with other
processes: the files, what has been opened, and the signals on their way.  A command of the shell is
a change of this state that can be interrupted; `Shell` is the type of such commands. -/

namespace PackageCensus.Script

/-! ### What is opened -/

/-- What something that has been opened leads to. -/
inductive Medium where
  | file (names : List FileName)
  | directory
  | device (d : Device)
  | program
  /-- Octets that one process hands to another. -/
  | pipe
deriving DecidableEq, Repr

/-- Something that has been opened, and the place in it. -/
structure Opened where
  medium : Medium
  offset : Nat := 0
  reads : Bool := false
  writes : Bool := false
  /-- Whether everything is written behind what is there. -/
  appends : Bool := false
  /-- What stands in a pipe, and what has come behind it, the last first. -/
  waiting : List UInt8 := []
  arrived : List (List UInt8) := []
deriving DecidableEq, Repr

/-! ### Processes -/

/-- A variable. -/
structure Variable where
  value? : Option Octets := none
  /-- Whether other programs see it. -/
  exported : Bool := false
  readOnly : Bool := false
deriving DecidableEq, Repr

/-- On the way out of statements. -/
inductive Skip where
  | none
  /-- Out of loops, as many as told. -/
  | stopLoops (n : Nat)
  /-- To the next round of a loop, out of those within it. -/
  | nextRound (n : Nat)
  | function
  /-- Out of a function without a status of its own. -/
  | definition
deriving DecidableEq, Repr

/-- What a script has to itself. -/
structure Process where
  id : Nat
  /-- The number of the script, which its parts share. -/
  root : Nat
  parent : Nat
  /-- The processes that wait for this one. -/
  ancestors : List Nat := []
  name : Octets
  arguments : List Octets := []
  /-- The names on the way to the current directory. -/
  directory : List FileName
  values : List (Octets × Variable) := []
  /-- What functions and commands put back of the variables when they end, the innermost first. -/
  frames : List (List (Octets × Option Variable)) := []
  functions : List (Octets × Statement) := []
  aliases : List (Octets × Octets) := []
  /-- The texts that statements refer to, and the number of the next. -/
  documents : List (Nat × Word) := []
  nextDocument : Nat := 0
  /-- The letters of the options that are set. -/
  options : List Char := []
  /-- What descriptors lead to. -/
  descriptors : List (Nat × Nat) := []
  /-- What is done about signals; the end of the script goes by zero. -/
  traps : List (Nat × Octets) := []
  /-- Signals that have come and about which something is still to be done. -/
  pending : List Nat := []
  /-- The processes that were not waited for at once, the last first, and how they ended. -/
  jobs : List (Nat × ExitStatus) := []
  status : Nat := 0
  /-- The status of the last script whose output went into a word. -/
  outputStatus : Nat := 0
  /-- The status before the action for a signal. -/
  savedStatus : Option Nat := none
  skip : Skip := .none
  loops : Nat := 0
  /-- How many functions are being run. -/
  depth : Nat := 0
  /-- The command of the language that is being run. -/
  command? : Option Octets := none
  line : Nat := 1
  /-- The mask for new files. -/
  mask : Nat := 18

/-- What processes share. -/
structure World where
  tree : FileTree
  /-- What has been opened, by numbers. -/
  opened : List (Nat × Opened) := []
  /-- The number for what is opened next. -/
  next : Nat := 0
  /-- The number for the next process. -/
  nextProcess : Nat
  /-- The signals that have been sent, with the numbers of the processes that they are for. -/
  sent : List (Nat × Nat) := []

/-- The state of a script. -/
structure State where
  world : World
  process : Process

/-- Why statements are interrupted. -/
inductive Interruption where
  /-- Something failed that ends the script. -/
  | error
  | exit
  /-- Nothing more is to be done. -/
  | done
  /-- The process has become a program, or a signal has ended it. -/
  | ended (status : ExitStatus)
  /-- The steps have been used up. -/
  | exhausted
deriving DecidableEq, Repr

/-- Commands of the shell. -/
abbrev Shell := ExceptT Interruption (StateM State)

namespace Shell

/-- What is read off the process. -/
def read {α : Type} (f : Process → α) : Shell α := do return f (← get).process

/-- Changes the process. -/
def update (f : Process → Process) : Shell Unit := modify fun s => { s with process := f s.process }

/-- Sets the status. -/
def setStatus (status : Nat) : Shell Unit := update ({ · with status })

/-- What a command comes to, with the interruption as a value. -/
def attempt {α : Type} (a : Shell α) : Shell (Except Interruption α) := fun s =>
  match a s with
  | (result, s) => (.ok result, s)

/-- Repeats a step until it comes to a result, as often as told at most. -/
def iterate {α β : Type} (step : α → Shell (α ⊕ β)) : Nat → α → Shell β
  | 0, _ => throw .exhausted
  | n + 1, a => fun s => match step a s with
    | (.ok (.inl a), s) => iterate step n a s
    | (.ok (.inr b), s) => (.ok b, s)
    | (.error e, s) => (.error e, s)

/-- Does something for each of some values, in order. -/
def each {α : Type} (f : α → Shell Unit) : List α → Shell Unit
  | [] => pure ()
  | a :: rest => fun s => match f a s with
    | (.ok (), s) => each f rest s
    | (.error e, s) => (.error e, s)

end Shell

/-! ### What has been opened -/

/-- What a descriptor refers to when it refers to nothing. -/
def badDescriptor : AccessError := .other "Bad file descriptor"

namespace Opened

/-- The octets in a pipe. -/
def inPipe (o : Opened) : List UInt8 :=
  if o.arrived.isEmpty then o.waiting else o.waiting ++ o.arrived.reverse.flatten

/-- The octets that have not been read yet. -/
def unread (o : Opened) (t : FileTree) : Except AccessError (List UInt8) :=
  if ! o.reads then .error badDescriptor
  else match o.medium with
    | .file names => match t.entry? names with
      | some (.file octets) => .ok (octets.drop o.offset)
      | _ => .ok []
    | .directory => .error .isADirectory
    | .device _ | .program => .ok []
    | .pipe => .ok o.inPipe

/-- What has been opened when some octets have been read. -/
def behind (o : Opened) (count : Nat) : Opened :=
  match o.medium with
  | .pipe => { o with waiting := o.inPipe.drop count, arrived := [] }
  | _ => { o with offset := o.offset + count }

end Opened

/-- Octets put into others at some place. -/
def overwritten (old new : List UInt8) (offset : Nat) : List UInt8 :=
  old.take offset ++ List.replicate (offset - old.length) 0 ++ new ++
    old.drop (offset + new.length)

namespace World

/-- What goes by a number. -/
def opened? (w : World) (n : Nat) : Option Opened := w.opened.lookup n

/-- Changes what goes by a number. -/
def setOpened (w : World) (n : Nat) (o : Opened) : World :=
  { w with opened := w.opened.map fun (m, p) => if m = n then (n, o) else (m, p) }

/-- Opens something: its number. -/
def enter (w : World) (o : Opened) : Nat × World :=
  (w.next, { w with opened := (w.next, o) :: w.opened, next := w.next + 1 })

/-- Writes octets to what goes by a number. -/
def write (w : World) (n : Nat) (octets : List UInt8) : Except AccessError World :=
  match w.opened? n with
  | none => .error badDescriptor
  | some o =>
    if ! o.writes then .error badDescriptor
    else match o.medium with
      | .file names =>
        let old := match w.tree.entry? names with
          | some (.file old) => old
          | _ => []
        let offset := if o.appends then old.length else o.offset
        let w := w.setOpened n { o with offset := offset + octets.length }
        .ok { w with tree := w.tree.put names (overwritten old octets offset) }
      | .device .full => .error (.other "No space left on device")
      | .pipe => .ok (w.setOpened n { o with arrived := octets :: o.arrived })
      | _ => .ok w

end World

namespace Shell

/-- What a descriptor leads to, with its number. -/
def opened? (descriptor : Nat) : Shell (Option (Nat × Opened)) := do
  let s ← get
  match s.process.descriptors.lookup descriptor with
  | none => return none
  | some n => return (s.world.opened? n).map (n, ·)

/-- Writes to a descriptor: why that fails, if it does. -/
def write (descriptor : Nat) (text : Octets) : Shell (Option AccessError) := do
  let s ← get
  match s.process.descriptors.lookup descriptor with
  | none => return some badDescriptor
  | some n => match s.world.write n (Text.toOctets text) with
    | .ok world =>
      set { s with world }
      return none
    | .error e => return some e

/-- The octets that can still be read from a descriptor. -/
def unread (descriptor : Nat) : Shell (Except AccessError (List UInt8)) := do
  match ← opened? descriptor with
  | none => return .error badDescriptor
  | some (_, o) => return o.unread (← get).world.tree

/-- Passes over octets of a descriptor. -/
def advance (descriptor count : Nat) : Shell Unit := do
  match ← opened? descriptor with
  | none => return
  | some (n, o) => modify fun s => { s with world := s.world.setOpened n (o.behind count) }

/-! ### Complaints -/

/-- Writes a text where complaints go. -/
def mutter (text : Octets) : Shell Unit := do
  let _ ← write 2 text

/-- Writes a complaint with the name of the script, the line, and the command if there is one. -/
def warn (text : Octets) : Shell Unit := do
  let p ← read id
  let place := p.name ++ (": " ++ toString p.line ++ ": ").toList ++
    match p.command? with
    | some command => command ++ ": ".toList
    | none => []
  mutter (place ++ text ++ ['\n'])

/-- Complains and interrupts what is being done. -/
def fail {α : Type} (text : Octets) : Shell α := do
  setStatus 2
  warn text
  throw .error

/-- Complains about something that is no number. -/
def failNumber {α : Type} (text : Octets) : Shell α := fail ("Illegal number: ".toList ++ text)

end Shell
end PackageCensus.Script
