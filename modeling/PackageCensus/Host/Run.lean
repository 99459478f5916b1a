import PackageCensus.Host.Access
import PackageCensus.Log

/-! # Runs and attempts

A `Run` is a computation that asks the machine around it for what it needs, one thing after the
other, and tells what it does on the way.  It is a plain value: `Run.on` gives what it comes to
on a `Host`, which has an answer to everything that can be asked.  An `Attempt` is a run that can
fail. -/

namespace PackageCensus

/-- A program to be started, with its arguments. -/
structure Command where
  program : String
  arguments : List String
deriving DecidableEq, Repr

/-- How a program ended. -/
inductive ExitStatus where
  | code (n : Nat)
  | signal (n : Nat)
deriving DecidableEq, Repr

namespace ExitStatus

/-- Whether a program ended well. -/
def success (s : ExitStatus) : Bool := s = .code 0

/-- The signals that end a program, with their names. -/
def signalNames : List (Nat × String) :=
  [(1, "SIGHUP"), (2, "SIGINT"), (3, "SIGQUIT"), (4, "SIGILL"), (5, "SIGTRAP"), (6, "SIGABRT"),
   (7, "SIGBUS"), (8, "SIGFPE"), (9, "SIGKILL"), (10, "SIGUSR1"), (11, "SIGSEGV"),
   (12, "SIGUSR2"), (13, "SIGPIPE"), (14, "SIGALRM"), (15, "SIGTERM"), (16, "SIGSTKFLT"),
   (24, "SIGXCPU"), (25, "SIGXFSZ"), (26, "SIGVTALRM"), (27, "SIGPROF"), (29, "SIGIO"),
   (30, "SIGPWR"), (31, "SIGSYS")]

/-- A status in words. -/
def text : ExitStatus → String
  | code n => "exit status: " ++ toString n
  | signal n =>
    "signal: " ++ toString n ++ match signalNames.lookup n with
      | some name => " (" ++ name ++ ")"
      | none => ""

end ExitStatus

/-- A program that has run: what it wrote and how it ended. -/
structure Process where
  output : Source
  status : ExitStatus
deriving DecidableEq, Repr

/-- What a run can ask for. -/
inductive Request where
  /-- Whether there is a file at a path. -/
  | isFile (path : String)
  /-- The octets of the file at a path. -/
  | file (path : String)
  /-- What becomes of a program. -/
  | process (c : Command)
  /-- The present time, in words. -/
  | time
deriving DecidableEq, Repr

/-- The answers to a request. -/
@[reducible] def Request.Answer : Request → Type
  | isFile _ => Bool
  | file _ => Except AccessError Source
  | process _ => Except AccessError Process
  | time => String

/-- Answers everything that a run can ask. -/
structure Host where
  answer : (r : Request) → r.Answer

/-- A computation that asks and tells. -/
inductive Run (α : Type) where
  | done (value : α)
  | tell (e : Log.Event) (rest : Run α)
  | ask (r : Request) (next : r.Answer → Run α)

namespace Run

variable {α β : Type}

/-- A run that goes on with the value of another. -/
def bind : Run α → (α → Run β) → Run β
  | done value, f => f value
  | tell e rest, f => tell e (rest.bind f)
  | ask r next, f => ask r fun answer => (next answer).bind f

instance : Monad Run where
  pure := done
  bind := bind

/-- The answer to a request. -/
def request (r : Request) : Run r.Answer := ask r done

/-- Tells some events. -/
def report : List Log.Event → Run Unit
  | [] => done ()
  | e :: rest => tell e (report rest)

/-- What a run tells on a host, and its value. -/
def on (h : Host) : Run α → List Log.Event × α
  | done value => ([], value)
  | tell e rest =>
    let (events, value) := rest.on h
    (e :: events, value)
  | ask r next => (next (h.answer r)).on h

/-- The value of a run on a host. -/
def value (h : Host) (run : Run α) : α := (run.on h).2

theorem on_bind (h : Host) (run : Run α) (f : α → Run β) :
    (run >>= f).on h =
      ((run.on h).1 ++ ((f (run.on h).2).on h).1, ((f (run.on h).2).on h).2) := by
  show (run.bind f).on h = _
  induction run with
  | done value => simp [bind, on]
  | tell e rest ih => simp [bind, on, ih]
  | ask r next ih => simp [bind, on, ih]

end Run

/-! ### Runs that can fail -/

/-- A run that comes to a value or to an error. -/
abbrev Attempt (ε α : Type) := ExceptT ε Run α

namespace Attempt

variable {ε : Type} {α : Type}

/-- What is known already. -/
def ofExcept (e : Except ε α) : Attempt ε α := ExceptT.mk (pure e)

/-- Tells some events. -/
def report (es : List Log.Event) : Attempt ε Unit := ExceptT.lift (Run.report es)

/-- Whether there is a file at a path. -/
def isFile (path : String) : Attempt ε Bool := ExceptT.lift (Run.request (.isFile path))

/-- The octets of the file at a path. -/
def openFile (path : String) : Attempt AccessError Source := ExceptT.mk (Run.request (.file path))

/-- What becomes of a program. -/
def launch (c : Command) : Attempt AccessError Process := ExceptT.mk (Run.request (.process c))

/-- The present time, in words. -/
def time : Attempt ε String := ExceptT.lift (Run.request .time)

/-- The whole text of the file at a path. -/
def readText (path : String) : Attempt AccessError String := do
  ofExcept (← openFile path).text

end Attempt
end PackageCensus
