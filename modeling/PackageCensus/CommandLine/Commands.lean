import PackageCensus.CommandLine.Arguments
import PackageCensus.CommandLine.Failure
import PackageCensus.Dot.Document
import PackageCensus.Log.Filter
import PackageCensus.StandardList.File
import PackageCensus.Symbol.Record
import PackageCensus.Text.Column
import PackageCensus.Weight.Report

/-! # Commands

What each command does: an attempt that comes to the text it writes.  Nothing is written by a
command that fails. -/

namespace PackageCensus.CommandLine

/-- What the commands take from the environment. -/
structure Environment where
  /-- The name of the current directory. -/
  directory : String := ""
  /-- The program that makes symbol tables, in place of the configured one. -/
  toolProgram? : Option String := none
  /-- The path of a symbol table that is read in place of running the program. -/
  substituteTable? : Option String := none
  /-- A filter for the log, in place of the level on the command line. -/
  logFilter? : Option String := none
deriving DecidableEq, Repr

/-- Lines as a text. -/
def textOf (lines : List String) : String := String.join (lines.map (· ++ "\n"))

/-! ### Graphs -/

/-- What is told of a walk along imports. -/
def closureEvents (catalog : Catalog) (roots : List String)
    (run : Closure.Run ResolveError) : List Log.Event :=
  (catalog.leaves run.asked).map (fun id =>
    ⟨.debug, .closure, "package not in manifest; treating as leaf",
      [("package", Text.quoted id)]⟩) ++
  match run.outcome with
  | .error _ => []
  | .ok g => [⟨.debug, .closure, "computed dependency closure",
      [("roots", toString roots.length), ("packages", toString g.size)]⟩]

/-- The packages reachable from some roots in a manifest. -/
def closureOf (manifest : String) (roots : List String) (strict : Bool) :
    Attempt Failure Graph := do
  let m ← (Manifest.load manifest).adapt (.manifest manifest)
  let catalog ← .ofExcept ((m.catalog !strict).mapError (.invalidManifest manifest))
  let run := catalog.resolver.closure roots
  Attempt.report (closureEvents catalog roots run)
  Attempt.ofExcept (run.outcome.mapError .closure)

/-- The standard packages of a configuration. -/
def standardPackages (c : GraphConfig) : Attempt Failure Graph :=
  (StandardList.loadOr c.standardList).adapt fun (path, cause) => .standardList path cause

/-- A graph without its standard packages, unless these are to stay. -/
def withoutStandard (g : Graph) (keep : Bool) (c : GraphConfig) : Attempt Failure Graph := do
  if keep || c.includeStandard then return g
  return g.subtract (← standardPackages c)

/-- Shows the packages reachable from some roots. -/
def graphCommand (a : GraphArguments) (c : Config) : Attempt Failure String := do
  let label ← Attempt.ofExcept
    ((Dot.Label.parse (a.format.getD c.graph.labelFormat)).mapError .label)
  let g ← closureOf a.manifest a.roots a.strict
  let g ← withoutStandard g a.standard c.graph
  Attempt.report [⟨.info, .graphCommand, "rendering dependency graph",
    [("packages", toString g.size)]⟩]
  return Dot.render label g

/-! ### Weights -/

/-- A row in a listing of weights. -/
def weightLine (w : PackageWeight) : String :=
  Text.column 12 w.size.toInt ++ " " ++ Text.column 8 w.symbols ++ "  " ++ w.displayName

/-- A report as a listing. -/
def weightLines (r : WeightReport) : List String :=
  ("Binary: " ++ r.binary) ::
    ((r.binaryHash.map ("SHA-256: " ++ ·)).toList ++
      ["Total size: " ++ toString r.totalSize.toInt, "Packages:"] ++
      if r.packages.isEmpty then ["(none)"] else r.packages.map weightLine)

/-- The packages that the rows of a listing are restricted to, if they are. -/
def scopeGraph (a : WeightArguments) (c : Config) : Attempt Failure (Option Graph) :=
  match a.scope with
  | none => pure none
  | some (manifest, roots) => do
    let g ← closureOf manifest roots false
    some <$> withoutStandard g a.standard c.graph

/-- The rows of a listing. -/
def weightRows (symbols : List Symbol) (scope : Option Graph) : List PackageWeight :=
  match scope with
  | none => Weight.aggregate symbols
  | some g => Weight.restrictTo (Weight.aggregate symbols) g

/-- The symbols of a binary. -/
def symbolsOf (binary : String) (c : Config) (env : Environment) : Attempt Failure (List Symbol) :=
  ((SymbolTool.ofConfig c.tool env.toolProgram?).symbols env.substituteTable? binary).adapt
    (.symbols binary)

/-- The digest of the binary, unless it is not to be taken. -/
def binaryDigest (a : WeightArguments) : Attempt Failure (Option String) :=
  if a.skipHash then pure none else some <$> (Digest.ofFile a.binary).adapt .digest

/-- The report on the weights of all packages of a binary that are in scope. -/
def fullReport (a : WeightArguments) (c : Config) (env : Environment) :
    Attempt Failure WeightReport := do
  let symbols ← symbolsOf a.binary c env
  let rows := weightRows symbols (← scopeGraph a c)
  Attempt.report [⟨.info, .weightCommand, "aggregated package sizes",
    [("symbols", toString symbols.length), ("packages", toString rows.length)]⟩]
  let hash ← binaryDigest a
  return WeightReport.make a.binary hash (← Attempt.time) rows

/-- A report as it is shown. -/
def weightText (json : Bool) (r : WeightReport) : String :=
  if json then textOf [Json.prettyText r] else textOf (weightLines r)

/-- Shows the weights of the packages of a binary. -/
def weightCommand (a : WeightArguments) (c : Config) (env : Environment) :
    Attempt Failure String := do
  let report ← fullReport a c env
  return weightText a.json (report.limit ((a.limit <|> c.weight.limit).map UInt64.toNat))

/-! ### Symbols -/

/-- A symbol in a listing. -/
def symbolLine (s : Symbol) : String :=
  String.ofList (Text.padLeft '0' 16 (Text.hexDigits s.address.toNat)) ++ " " ++
    Text.column 10 s.size.toInt ++ " " ++ String.singleton s.code ++ " " ++ s.package ++ " " ++
    s.name

/-- Lists the symbols of a binary, or of one package in it. -/
def symbolsCommand (a : SymbolsArguments) (c : Config) (env : Environment) :
    Attempt Failure String := do
  let symbols ← symbolsOf a.binary c env
  let chosen := symbols.filter fun s => a.package.all (s.package = ·)
  return if a.json then textOf [Json.prettyText chosen] else textOf (chosen.map symbolLine)

/-! ### Standard packages -/

/-- Lists the standard packages. -/
def standardListCommand (json : Bool) (c : Config) : Attempt Failure String := do
  let g ← standardPackages c.graph
  return if json then textOf [Json.prettyText g] else textOf g.ids

/-! ### Every command -/

/-- The configuration of a run: the one that the command line names, or the one found in the
current directory, or the default one. -/
def loadConfig (path? : Option String) (env : Environment) : Attempt Failure Config :=
  match path? with
  | some path => (Config.load path).adapt (.config (some path))
  | none => do
    match ← (Config.discover env.directory).adapt (.config none) with
    | some (path, c) =>
      Attempt.report [⟨.debug, .settings, "loaded config", [("path", path)]⟩]
      return c
    | none => return {}

/-- Does what a command line asks for. -/
def execute (i : Invocation) (env : Environment) : Attempt Failure String := do
  let c ← loadConfig i.config env
  match i.command with
  | .graph a => graphCommand a c
  | .weight a => weightCommand a c env
  | .symbols a => symbolsCommand a c env
  | .standardList json => standardListCommand json c

/-- The filter for the log of a run: from the environment if it holds a sound one, else from the
command line.  With a torn directive in the environment there is none. -/
def logFilter (i : Invocation) (env : Environment) : Option Log.Filter :=
  match env.logFilter?.map Log.Filter.ofText with
  | some (.ok f) => some f
  | some (.error .torn) => none
  | some (.error .unsound) | none => some (.atLeast i.logLevel)

end PackageCensus.CommandLine
