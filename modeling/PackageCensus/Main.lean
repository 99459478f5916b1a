import PackageCensus.CommandLine.Outcome
import PackageCensus.Moment

/-! # The program

Runs a command line on the machine at hand: files, the clock and the environment are those of the
machine.  Events go to the error output as they are told, and the text of a command that does not
fail to the standard output.  No other program is started: the symbol table of a binary has to come
from the file that stands in for it. -/

namespace PackageCensus.Main

open CommandLine

/-- The reason behind an error of the machine. -/
def accessError : IO.Error → AccessError
  | .noFileOrDirectory .. => .notFound
  | .permissionDenied .. => .permissionDenied
  | .inappropriateType .. => .isADirectory
  | e => .other (toString e)

/-- Whether there is a file at a path. -/
def isFile (path : String) : IO Bool := do
  try
    let resolved ← IO.FS.realPath path
    return (← resolved.metadata).type matches .file
  catch _ => return false

/-- The octets of the file at a path. -/
def openFile (path : String) : IO (Except AccessError Source) := do
  try
    return .ok ⟨(← IO.FS.readBinFile path).toList, none⟩
  catch e => match accessError e with
    | .isADirectory => return .ok ⟨[], some .isADirectory⟩
    | cause => return .error cause

/-- The present time: that of a file made just now. -/
def now : IO String := do
  let (_, path) ← IO.FS.createTempFile
  let modified := (← path.metadata).modified
  IO.FS.removeFile path
  return Moment.text ⟨modified.sec.toNat, modified.nsec.toNat⟩

/-- The answer of the machine to a request. -/
def answer : (r : Request) → IO r.Answer
  | .isFile path => isFile path
  | .file path => openFile path
  | .process _ => return .error (.other "programs are not started here")
  | .time => now

/-- Does what a run asks for, and tells the events that a filter lets through. -/
def perform {α : Type} (f : Log.Filter) : Run α → IO α
  | .done value => return value
  | .tell e rest => do
    if f.admits e then IO.eprintln e.line
    perform f rest
  | .ask r next => do perform f (next (← answer r))

/-- What the environment holds. -/
def environment : IO Environment := do
  return {
    directory := (← IO.currentDir).toString
    toolProgram? := ← IO.getEnv "DEPWEIGHT_NM_BIN"
    substituteTable? := ← IO.getEnv "DEPWEIGHT_FAKE_NM"
    logFilter? := ← IO.getEnv "RUST_LOG" }

/-- Runs a command line and gives the status to end with. -/
def run (words : List String) : IO UInt32 := do
  match read words with
  | .error e =>
    IO.eprintln ("error: " ++ e.message)
    return 2
  | .ok .version =>
    IO.print versionLine
    return 0
  | .ok .help =>
    IO.print helpText
    return 0
  | .ok (.invoke i) =>
    let env ← environment
    match logFilter i env with
    | none => return 101
    | some filter =>
      match ← perform filter (execute i env).run with
      | .ok output =>
        IO.print output
        return 0
      | .error f =>
        IO.eprintln ("Error: " ++ f.report)
        return 1

end PackageCensus.Main

/-- The program. -/
def main (words : List String) : IO UInt32 := PackageCensus.Main.run words
