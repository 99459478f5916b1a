import PackageCensus.Log
import PackageCensus.Numeral

/-! # Arguments

The words of a command line name a command and give it options and operands.  An option is a
flag, or it has a value: behind an equals sign in the same word, or in the next word, which then
cannot begin with a dash.  Two dashes alone end the options.  An option is given once at most,
but for one that gathers its values.

`read` tells what a command line asks for.  The words are judged from left to right; what is
missing or does not go together is found at the end. -/

namespace PackageCensus.CommandLine

/-- Why a command line is refused. -/
inductive UsageError where
  | unknownCommand (word : String)
  | noCommand
  | unknownOption (word : String)
  | unexpectedOperand (word : String)
  | noValue (option : String)
  | unexpectedValue (option : String)
  | invalidValue (option value : String)
  | repeated (option : String)
  | missing (name : String)
deriving DecidableEq, Repr

/-- The wording of an error. -/
def UsageError.message : UsageError → String
  | unknownCommand word => "there is no command " ++ word
  | noCommand => "a command is needed"
  | unknownOption word => "there is no option " ++ word
  | unexpectedOperand word => "one operand too many: " ++ word
  | noValue option => "a value is needed for --" ++ option
  | unexpectedValue option => "there is no value for --" ++ option
  | invalidValue option value => "not a value for --" ++ option ++ ": " ++ value
  | repeated option => "more than once: --" ++ option
  | missing name => "missing: " ++ name

/-! ### Options -/

/-- What a value has to be. -/
inductive ValueKind where
  | text
  /-- A text that is not empty. -/
  | path
  | level
  /-- A whole number of sixty-four bits. -/
  | count
deriving DecidableEq, Repr

/-- The number that a word gives. -/
def countOf? (word : String) : Option UInt64 :=
  (Numeral.readUnsigned 10 word.toList).toOption.map .ofNat

/-- Whether a word is a value of a kind. -/
def ValueKind.admits (word : String) : ValueKind → Bool
  | text => true
  | path => !word.isEmpty
  | level => (Log.Level.ofName? word).isSome
  | count => (countOf? word).isSome

/-- What follows an option. -/
inductive OptionKind where
  | flag
  | single (value : ValueKind)
  /-- One value for each time that the option is given. -/
  | many (value : ValueKind)
deriving DecidableEq, Repr

/-- The options of a command, by their names. -/
abbrev Options := List (String × OptionKind)

/-- The options that stand before or behind the name of a command. -/
def sharedOptions : Options := [("config", .single .path), ("log-level", .single .level)]

/-- What was given on a command line so far: options with their values, and operands. -/
structure Given where
  options : List (String × String) := []
  operands : List String := []

namespace Given

/-- Whether an option was given. -/
def has (g : Given) (name : String) : Bool := (g.options.lookup name).isSome

/-- The value of an option. -/
def value? (g : Given) (name : String) : Option String := g.options.lookup name

/-- The values of an option, in order. -/
def values (g : Given) (name : String) : List String :=
  (g.options.filter (·.1 = name)).map (·.2)

/-- An option more. -/
def add (g : Given) (name value : String) : Given :=
  { g with options := g.options ++ [(name, value)] }

/-- An option more, if its value is right and it may still be given. -/
def addValue (g : Given) (name : String) (many : Bool) (kind : ValueKind) (value : String) :
    Except UsageError Given :=
  if kind.admits value then
    if g.has name && !many then .error (.repeated name) else .ok (g.add name value)
  else .error (.invalidValue name value)

end Given

/-- The name of an option and the value in the same word, if the word is an option. -/
def optionWord? (word : String) : Option (String × Option String) :=
  match word.toList with
  | '-' :: '-' :: rest =>
    let name := rest.takeWhile (· != '=')
    let value := if name.length < rest.length then some (rest.drop (name.length + 1)) else none
    some (String.ofList name, value.map String.ofList)
  | _ => none

/-- Whether a word begins with a dash and is more than that. -/
def beginsWithDash (word : String) : Bool :=
  match word.toList with
  | '-' :: _ :: _ => true
  | _ => false

/-- What the words before the end of the options come to. -/
inductive Stop where
  /-- The words are used up, but for those taken as operands. -/
  | finished (g : Given)
  | version
  | help

/-- Reads the options and operands of a command.  At the top, where the version can be asked for,
the first operand ends the reading. -/
def readWords (top : Bool) (options : Options) (g : Given) :
    List String → Except UsageError (Stop × List String)
  | [] => .ok (.finished g, [])
  | word :: rest =>
    if word = "--" then
      if top then .ok (.finished g, [word])
      else .ok (.finished { g with operands := g.operands ++ rest }, [])
    else match optionWord? word with
      | some (name, value?) => match options.lookup name, value?, rest with
        | none, none, _ =>
          if name = "help" then .ok (.help, rest)
          else if top ∧ name = "version" then .ok (.version, rest)
          else .error (.unknownOption word)
        | none, some _, _ => .error (.unknownOption word)
        | some .flag, none, rest =>
          if g.has name then .error (.repeated name)
          else readWords top options (g.add name "") rest
        | some .flag, some _, _ => .error (.unexpectedValue name)
        | some (.single _), none, [] | some (.many _), none, [] => .error (.noValue name)
        | some (.single kind), none, value :: rest =>
          if beginsWithDash value then .error (.noValue name)
          else match g.addValue name false kind value with
            | .ok g => readWords top options g rest
            | .error e => .error e
        | some (.many kind), none, value :: rest =>
          if beginsWithDash value then .error (.noValue name)
          else match g.addValue name true kind value with
            | .ok g => readWords top options g rest
            | .error e => .error e
        | some (.single kind), some value, rest =>
          match g.addValue name false kind value with
          | .ok g => readWords top options g rest
          | .error e => .error e
        | some (.many kind), some value, rest =>
          match g.addValue name true kind value with
          | .ok g => readWords top options g rest
          | .error e => .error e
      | none =>
        if beginsWithDash word then
          if word.toList[1]? = some 'h' then .ok (.help, rest)
          else if top ∧ word.toList[1]? = some 'V' then .ok (.version, rest)
          else .error (.unknownOption word)
        else if top then .ok (.finished g, word :: rest)
        else readWords top options { g with operands := g.operands ++ [word] } rest

/-! ### Commands -/

/-- What the command that shows a graph is given. -/
structure GraphArguments where
  manifest : String
  roots : List String
  /-- Whether standard packages stay in the graph. -/
  standard : Bool
  format : Option String
  /-- Whether a package that is not in the manifest is an error. -/
  strict : Bool
deriving DecidableEq, Repr

/-- What the command that shows weights is given. -/
structure WeightArguments where
  binary : String
  json : Bool
  limit : Option UInt64
  /-- The manifest and the roots that the rows are restricted to. -/
  scope : Option (String × List String)
  /-- Whether standard packages stay in the scope. -/
  standard : Bool
  skipHash : Bool
deriving DecidableEq, Repr

/-- What the command that lists symbols is given. -/
structure SymbolsArguments where
  binary : String
  package : Option String
  json : Bool
deriving DecidableEq, Repr

/-- A command with what it is given. -/
inductive Subcommand where
  | graph (a : GraphArguments)
  | weight (a : WeightArguments)
  | symbols (a : SymbolsArguments)
  | standardList (json : Bool)
deriving DecidableEq, Repr

/-- A command with the options that all commands share. -/
structure Invocation where
  config : Option String
  logLevel : Log.Level
  command : Subcommand
deriving DecidableEq, Repr

/-- What a command line asks for. -/
inductive Intent where
  | invoke (i : Invocation)
  | version
  | help
deriving DecidableEq, Repr

/-- The options of a command by its name. -/
def optionsOf? : String → Option Options
  | "graph" => some [("manifest", .single .path), ("std", .flag), ("format", .single .text),
      ("strict", .flag)]
  | "weight" => some [("json", .flag), ("limit", .single .count), ("manifest", .single .path),
      ("root", .many .text), ("std", .flag), ("skip-hash", .flag)]
  | "symbols" => some [("package", .single .text), ("json", .flag)]
  | "std-list" => some [("json", .flag)]
  | _ => none

/-- The one operand of a command, a path. -/
def onlyPath (g : Given) : Except UsageError String :=
  match g.operands with
  | [] => .error (.missing "binary")
  | [path] => if path.isEmpty then .error (.missing "binary") else .ok path
  | _ :: word :: _ => .error (.unexpectedOperand word)

/-- The arguments of the command that shows a graph. -/
def GraphArguments.of (g : Given) : Except UsageError GraphArguments :=
  match g.value? "manifest", g.operands with
  | none, _ => .error (.missing "manifest")
  | some _, [] => .error (.missing "roots")
  | some manifest, roots =>
    .ok ⟨manifest, roots, g.has "std", g.value? "format", g.has "strict"⟩

/-- The manifest and the roots of a scope, which go together. -/
def scopeOf (g : Given) : Except UsageError (Option (String × List String)) :=
  match g.value? "manifest", g.values "root" with
  | none, [] => .ok none
  | none, _ => .error (.missing "manifest")
  | some _, [] => .error (.missing "root")
  | some manifest, roots => .ok (some (manifest, roots))

/-- The arguments of the command that shows weights. -/
def WeightArguments.of (g : Given) : Except UsageError WeightArguments := do
  let binary ← onlyPath g
  let scope ← scopeOf g
  return ⟨binary, g.has "json", (g.value? "limit").bind countOf?, scope, g.has "std",
    g.has "skip-hash"⟩

/-- The arguments of the command that lists symbols. -/
def SymbolsArguments.of (g : Given) : Except UsageError SymbolsArguments := do
  return ⟨← onlyPath g, g.value? "package", g.has "json"⟩

/-- A command from its name and what it is given. -/
def Subcommand.of (name : String) (g : Given) : Except UsageError Subcommand :=
  match name with
  | "graph" => (GraphArguments.of g).map .graph
  | "weight" => (WeightArguments.of g).map .weight
  | "symbols" => (SymbolsArguments.of g).map .symbols
  | "std-list" => match g.operands with
    | [] => .ok (.standardList (g.has "json"))
    | word :: _ => .error (.unexpectedOperand word)
  | _ => .error (.unknownCommand name)

/-- The level of events that are told where none is given. -/
def defaultLevel : Log.Level := .warn

/-- A command with the shared options; those behind its name go first. -/
def Invocation.of (name : String) (top g : Given) : Except UsageError Invocation := do
  let command ← Subcommand.of name g
  let shared (option : String) := g.value? option <|> top.value? option
  return ⟨shared "config", ((shared "log-level").bind Log.Level.ofName?).getD defaultLevel,
    command⟩

/-- What a command line asks for. -/
def read (words : List String) : Except UsageError Intent :=
  match readWords true sharedOptions {} words with
  | .error e => .error e
  | .ok (.version, _) => .ok .version
  | .ok (.help, _) => .ok .help
  | .ok (.finished _, []) => .error .noCommand
  | .ok (.finished top, name :: rest) =>
    if name = "help" then .ok .help
    else match optionsOf? name with
      | none => .error (.unknownCommand name)
      | some options => match readWords false (options ++ sharedOptions) {} rest with
        | .error e => .error e
        | .ok (.version, _) => .ok .version
        | .ok (.help, _) => .ok .help
        | .ok (.finished g, _) => (Invocation.of name top g).map .invoke

end PackageCensus.CommandLine
