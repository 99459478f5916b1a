import PackageCensus.CommandLine.Commands

/-! # Outcomes of command lines

What a command line comes to on a host: a text or a failure, beside the events that the filter of
the log lets through. -/

namespace PackageCensus.CommandLine

/-- What a command line comes to. -/
inductive Outcome where
  | refused (e : UsageError)
  /-- Nothing was begun, for want of a filter for the log. -/
  | broken
  | finished (output : String) (log : List Log.Event)
  | failed (f : Failure) (log : List Log.Event)
deriving DecidableEq, Repr

/-- The line that tells the version. -/
def versionLine : String := "depweight " ++ version ++ "\n"

/-- The text that tells how the program is used. -/
def helpText : String :=
  textOf ["Package size and dependency analysis", "",
    "Usage: depweight [--config PATH] [--log-level LEVEL] COMMAND", "", "Commands:",
    "  graph --manifest PATH [--std] [--format TEMPLATE] [--strict] ROOT...",
    "  weight [--json] [--limit N] [--manifest PATH --root ID...] [--std] [--skip-hash] BINARY",
    "  symbols [--package ID] [--json] BINARY",
    "  std-list [--json]"]

namespace Outcome

/-- The outcome of a command line on a host. -/
def of (words : List String) (env : Environment) (h : Host) : Outcome :=
  match read words with
  | .error e => refused e
  | .ok .version => finished versionLine []
  | .ok .help => finished helpText []
  | .ok (.invoke i) =>
    match logFilter i env with
    | none => broken
    | some filter =>
      let (events, result) := ((execute i env).run).on h
      let log := events.filter filter.admits
      match result with
      | .ok output => finished output log
      | .error f => failed f log

/-- What is written to the standard output. -/
def output : Outcome → String
  | finished output _ => output
  | failed .. | refused _ | broken => ""

/-- The status with which the program ends. -/
def exitCode : Outcome → Nat
  | finished .. => 0
  | failed .. => 1
  | refused _ => 2
  | broken => 101

end Outcome
end PackageCensus.CommandLine
