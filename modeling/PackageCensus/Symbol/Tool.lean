import PackageCensus.Config
import PackageCensus.Symbol.Table
import PackageCensus.Text.Quoted

/-! # Symbol tables of binaries

The symbols of a binary come from a program that is started with the binary as its last argument
and writes a symbol table.  A table that does not parse is the error even if the program fails as
well.  A file can stand in for what the program would write; the program is then not started. -/

namespace PackageCensus

/-- A program that writes the symbol table of a binary, and its arguments before the binary. -/
structure SymbolTool where
  program : String
  arguments : List String
deriving DecidableEq, Repr

/-- Why there are no symbols of a binary. -/
inductive ToolError where
  | missingBinary (path : String)
  | spawn (program : String) (cause : AccessError)
  | failed (program : String) (status : ExitStatus)
  | substitute (path : String) (cause : AccessError)
  | table (e : SymbolTable.TableError)
deriving DecidableEq, Repr

namespace ToolError

/-- The wording of an error. -/
def message : ToolError → String
  | missingBinary path => "Binary not found at " ++ path
  | spawn program cause => "failed to spawn " ++ program ++ ": " ++ cause.message
  | failed program status => program ++ " exited with " ++ status.text
  | substitute path cause => "failed to read " ++ path ++ ": " ++ cause.message
  | table e => e.message

/-- The wording of what is behind an error, the nearest cause first. -/
def causes : ToolError → List String
  | missingBinary _ | failed _ _ => []
  | spawn _ cause | substitute _ cause | table (.stream cause) => [cause.message]
  | table (.malformedLine _ source) =>
    source.message :: (source.cause?.map (·.message)).toList

end ToolError

namespace SymbolTool

/-- The tool of a configuration; a program given beside it goes first. -/
def ofConfig (c : ToolConfig) (program? : Option String) : SymbolTool :=
  ⟨program?.getD c.program, c.arguments⟩

/-- Reads a symbol table and tells what became of its lines. -/
def readTable (s : Source) : Attempt ToolError (List Symbol) := do
  let reading := SymbolTable.read s
  Attempt.report reading.events
  Attempt.ofExcept (reading.symbols.mapError .table)

/-- Runs the tool on a binary. -/
def run (t : SymbolTool) (binary : String) : Attempt ToolError (List Symbol) := do
  Attempt.report [⟨.debug, .symbolTool, "running nm", [("program", t.program),
    ("args", Text.quotedList t.arguments), ("binary", binary)]⟩]
  let process ← (Attempt.launch ⟨t.program, t.arguments ++ [binary]⟩).adapt (.spawn t.program)
  let symbols ← readTable process.output
  if process.status.success then return symbols
  Attempt.report [⟨.warn, .symbolTool, "nm exited unsuccessfully",
    [("program", t.program), ("status", process.status.text)]⟩]
  throw (.failed t.program process.status)

/-- Reads the table that stands in for the one of the tool. -/
def readSubstitute (path : String) : Attempt ToolError (List Symbol) := do
  Attempt.report [⟨.debug, .symbolTool, "reading symbol table from fake nm output",
    [("path", path)]⟩]
  readTable (← (Attempt.openFile path).adapt (.substitute path))

/-- The symbols of a binary. -/
def symbols (t : SymbolTool) (substitute? : Option String) (binary : String) :
    Attempt ToolError (List Symbol) := do
  if ← Attempt.isFile binary then
    match substitute? with
    | some path => readSubstitute path
    | none => t.run binary
  else throw (.missingBinary binary)

end SymbolTool
end PackageCensus
