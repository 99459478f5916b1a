import PackageCensus.Host.Script.Option

/-! # Processes and signals of scripts

A script runs others in processes of their own, and waits for them; what it does not wait for at
once has ended as well when it goes on, but it can ask how.

A signal ends a process that takes no care of it, or goes by it if it is one of those that do no
harm.  A script can pass over signals, or say what is to be done about them; what has come is kept
with the process until then.  A process that waits for another one takes the signals that are for
it when the other one has ended. -/

namespace PackageCensus.Script

/-! ### Names -/

/-- The names of the signals that have one of their own; number zero is the end of a script. -/
def namedSignals : List (Nat × String) :=
  [(0, "EXIT"), (1, "HUP"), (2, "INT"), (3, "QUIT"), (4, "ILL"), (5, "TRAP"), (6, "ABRT"),
   (7, "BUS"), (8, "FPE"), (9, "KILL"), (10, "USR1"), (11, "SEGV"), (12, "USR2"), (13, "PIPE"),
   (14, "ALRM"), (15, "TERM"), (17, "CHLD"), (18, "CONT"), (19, "STOP"), (20, "TSTP"),
   (21, "TTIN"), (22, "TTOU"), (23, "URG"), (24, "XCPU"), (25, "XFSZ"), (26, "VTALRM"),
   (27, "PROF"), (28, "WINCH"), (29, "IO"), (30, "PWR"), (31, "SYS")]

/-- The greatest number of a signal. -/
def lastSignal : Nat := 64

/-- The name of a signal, which is its number if it has none. -/
def signalName (n : Nat) : String := (namedSignals.lookup n).getD (toString n)

/-- The signal of a number, if the text is one. -/
def numberedSignal? (word : Octets) : Option Nat :=
  (digits? word).bind fun n => if n ≤ lastSignal then some n else none

/-- The signal of a number or of a name, among whose signals there is a least one. -/
def signalOf? (least : Nat) (word : Octets) : Option Nat :=
  (numberedSignal? word).or <| (List.range (lastSignal + 1)).find? fun n =>
    least ≤ n && signalName n == String.ofList (word.map Char.toUpper)

/-- Whether a signal ends a process that takes no care of it. -/
def isDeadly (n : Nat) : Bool := n != 0 && ! (17 ≤ n && n ≤ 23) && n != 28

/-- The number of a status, to which the signals are added on top. -/
def statusNumber : ExitStatus → Nat
  | .code n => n
  | .signal n => 128 + n

/-! ### Signals on their way -/

/-- Whether anything other than nothing is to be done about some signal. -/
def Process.hasTraps (p : Process) : Bool := p.traps.any fun (_, action) => ! action.isEmpty

/-- Whether a signal is passed over. -/
def Process.ignores (p : Process) (n : Nat) : Bool := p.traps.lookup n == some []

namespace Shell

/-- Takes a signal.  Nothing can be done about the ninth, nor about two that the machine keeps for
itself. -/
def receive (n : Nat) : Shell Unit := do
  let p ← read id
  if n = 9 || n = 32 || n = 33 then throw (.ended (.signal n))
  else if p.ignores n then return
  else if (p.traps.lookup n).isSome then
    update fun p => { p with pending := if p.pending.contains n then p.pending else n :: p.pending }
  else if isDeadly n then throw (.ended (.signal n))

/-- Takes the signals that have been sent to this process. -/
def receiveAll : Shell Unit := do
  let s ← get
  let (own, others) := s.world.sent.partition (·.1 = s.process.id)
  if own.isEmpty then return
  modify fun s => { s with world := { s.world with sent := others } }
  each receive (own.map Prod.snd)

/-- Runs something in a process of its own, which begins as this one but for what is told, and
gives how it ended, which is a signal for this one. -/
def inProcess (start : Process → Process) (body : Shell ExitStatus) : Shell ExitStatus := do
  let s ← get
  let id := s.world.nextProcess
  let child := start { s.process with
    id, parent := s.process.id, ancestors := s.process.id :: s.process.ancestors,
    traps := s.process.traps.filter (·.2.isEmpty), pending := [], jobs := [] }
  let (result, after) := body ⟨{ s.world with nextProcess := id + 1 }, child⟩
  modify fun _ => ⟨after.world, s.process⟩
  receive 17
  match result with
  | .error .exhausted => throw .exhausted
  | .error (.ended status) | .ok status => return status
  | .error _ => return .code after.process.status

/-! ### Commands -/

/-- Asks how processes have ended: the status of the last one.  A signal about which something is to
be done goes first. -/
def waitFor (arguments : List Octets) : Shell Nat := do
  let (_, names) ← optionsOf "" arguments
  let p ← read id
  match p.pending.find? (· ≠ 17), names with
  | some signal, _ => return 128 + signal
  | none, [] => return 0
  | none, names => names.foldlM (fun _ name => do
      let n ← numberOf name
      return ((p.jobs.lookup n).map statusNumber).getD 127) 127

/-- Sends a signal to the process of a number, if it goes on. -/
def send (signal : Nat) (n : Nat) : Shell Bool := do
  let p ← read id
  if n = 0 || n = p.id then
    receive signal
    return true
  else if n = p.parent || p.ancestors.contains n then
    modify fun s => { s with world := { s.world with sent := s.world.sent ++ [(n, signal)] } }
    return true
  else return false

/-- The name of a signal, told by its number or by the status of what it has ended. -/
def nameOfSignal (word : Octets) : Shell Octets := do
  let n ← numberOf word
  let n := if 128 < n then n - 128 else n
  if 0 < n && n ≤ lastSignal then return (signalName n).toList
  else fail ("invalid signal number or exit status: ".toList ++ word)

/-- Sends a signal to processes: the status. -/
def sendAll (signal : Nat) (targets : List Octets) : Shell Nat := do
  if targets.isEmpty then fail "Usage: kill [-s sigspec | -signum | -sigspec] pid...".toList
  targets.foldlM (fun status target => do
    if ← send signal (← numberOf target) then return status
    warn "No such process\n".toList
    return 1) 0

/-- Sends signals, or tells the name of one. -/
def kill (arguments : List Octets) : Shell (Nat × Octets) := do
  match arguments with
  | ['-', 'l'] :: word :: _ => return (0, (← nameOfSignal word) ++ ['\n'])
  | ['-', 's'] :: name :: targets => match signalOf? 1 name with
    | some n => return (← sendAll n targets, [])
    | none => fail ("invalid signal number or name: ".toList ++ name)
  | ('-' :: name) :: targets => match signalOf? 1 name with
    | some n => return (← sendAll n targets, [])
    | none => fail ("Illegal option -".toList ++ name)
  | targets => return (← sendAll 15 targets, [])

/-- Says what is to be done about signals: the status.  A signal alone, or one behind a dash, is
taken as usual again. -/
def trap (arguments : List Octets) : Shell Nat := do
  let (_, words) ← optionsOf "" arguments
  match words with
  | [] => return 0
  | first :: rest =>
    let alone := rest.isEmpty || (numberedSignal? first).isSome
    let action? := if alone || first = ['-'] then none else some first
    set action? (if alone then words else rest)
where
  /-- Says what is to be done about some signals. -/
  set (action? : Option Octets) : List Octets → Shell Nat
    | [] => return 0
    | name :: names => match signalOf? 0 name with
      | none => do
        mutter ("trap: ".toList ++ name ++ ": bad trap\n".toList)
        return 1
      | some n => do
        update fun p => { p with
          traps := (action?.map (n, ·)).toList ++ p.traps.filter (·.1 != n) }
        set action? names

end Shell
end PackageCensus.Script
