import PackageCensus.Digest
import PackageCensus.Manifest
import PackageCensus.Symbol.Tool

/-! # Failures of commands

A command that fails says what it was doing, and below that the chain of causes, each the cause of
the one before it. -/

namespace PackageCensus.CommandLine

/-- Why a command failed. -/
inductive Failure where
  /-- The path is missing for a configuration that was looked for. -/
  | config (path? : Option String) (e : ConfigError)
  | label (e : Dot.LabelError)
  | manifest (path : String) (e : ManifestError)
  /-- A manifest that was read and cannot be used. -/
  | invalidManifest (path : String) (e : ManifestError)
  | closure (e : ResolveError)
  | standardList (path : String) (cause : AccessError)
  | symbols (binary : String) (e : ToolError)
  | digest (e : Digest.DigestError)
deriving DecidableEq, Repr

namespace Failure

/-- What was being done, and the causes, the nearest first. -/
def chain : Failure → List String
  | config path? e =>
    ("Failed to load config" ++ (path?.map (" " ++ ·)).getD "") :: e.message :: e.causes
  | label e => ["Invalid format string", e.message]
  | manifest path e => ("Failed to load manifest " ++ path) :: e.message :: e.causes
  | invalidManifest path e => ("Invalid manifest " ++ path) :: e.message :: e.causes
  | closure e => ["Failed to compute dependency graph", e.message]
  | standardList path cause =>
    ["Failed to read standard package list " ++ path, cause.message]
  | symbols binary e => ("Failed to read symbols from " ++ binary) :: e.message :: e.causes
  | digest e => e.message :: e.causes

/-- A text whose further lines are indented. -/
def indentLines (indent text : String) : String :=
  String.ofList (text.toList.flatMap fun c => if c = '\n' then '\n' :: indent.toList else [c])

/-- The line of a cause that has a number. -/
def numberedCause (number : Nat) (cause : String) : String :=
  "    " ++ toString number ++ ": " ++ indentLines "       " cause

/-- The lines of the causes: a single one without a number. -/
def causeLines : List String → List String
  | [] => []
  | [cause] => ["    " ++ indentLines "    " cause]
  | causes => causes.zipIdx.map fun (cause, number) => numberedCause number cause

/-- A chain as a text of many lines. -/
def reportOf : List String → String
  | [] => ""
  | [message] => message
  | message :: causes =>
    message ++ "\n\nCaused by:\n" ++ "\n".intercalate (causeLines causes)

/-- The report on a failure. -/
def report (f : Failure) : String := reportOf f.chain

end Failure
end PackageCensus.CommandLine
