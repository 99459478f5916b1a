import PackageCensus.Dot.Label
import PackageCensus.Format
import PackageCensus.Host.Run

/-! # Configuration

Settings that all commands share.  Every one of them has a default, so that any part of a
configuration can be left out; what is given overlays the default field by field.  Without a path
a configuration is looked for in the current directory, under the first of a few names that there
is a file of. -/

namespace PackageCensus

/-- How symbol tables are made: a program and its arguments before the binary. -/
structure ToolConfig where
  program : String := "go"
  arguments : List String := ["tool", "nm", "-size"]
deriving DecidableEq, Repr

/-- How graphs are shown. -/
structure GraphConfig where
  /-- Whether standard packages stay in a graph. -/
  includeStandard : Bool := false
  labelFormat : String := Dot.Label.defaultFormat
  /-- The path of a list of standard packages that takes the place of the bundled one. -/
  standardList : Option String := none
deriving DecidableEq, Repr

/-- How weights are shown. -/
structure WeightConfig where
  /-- The largest number of packages shown. -/
  limit : Option UInt64 := none
deriving DecidableEq, Repr

/-- The settings of all commands. -/
structure Config where
  tool : ToolConfig := {}
  graph : GraphConfig := {}
  weight : WeightConfig := {}
deriving DecidableEq, Repr

/-! ### Documents -/

/-- The shape of the settings for symbol tables. -/
def ToolConfig.shape : Shape :=
  .record "NmConfig" <| .defaulted "program" .string <| .defaulted "args" (.list .string) .nil

/-- The shape of the settings for graphs. -/
def GraphConfig.shape : Shape :=
  .record "GraphConfig" <|
    .defaulted "include_std" .flag <|
    .defaulted "label_format" .string <|
    .defaulted "std_list" (.optional .path) .nil

/-- The shape of the settings for weights. -/
def WeightConfig.shape : Shape :=
  .record "WeightConfig" <| .defaulted "limit" (.optional (.unsigned "usize")) .nil

/-- The shape of a configuration. -/
def Config.shape : Shape :=
  .record "AnalyzerConfig" <|
    .defaulted "nm" ToolConfig.shape <|
    .defaulted "graph" GraphConfig.shape <|
    .defaulted "weight" WeightConfig.shape .nil

instance : Shaped ToolConfig where
  shape := ToolConfig.shape
  ofCarrier := fun (program, arguments, ()) =>
    let missing : ToolConfig := {}
    ⟨program.getD missing.program, arguments.getD missing.arguments⟩
  toCarrier c := (some c.program, some c.arguments, ())

instance : Shaped GraphConfig where
  shape := GraphConfig.shape
  ofCarrier := fun (includeStandard, labelFormat, standardList, ()) =>
    let missing : GraphConfig := {}
    ⟨includeStandard.getD missing.includeStandard, labelFormat.getD missing.labelFormat,
      standardList.getD missing.standardList⟩
  toCarrier c :=
    (some c.includeStandard, some c.labelFormat, c.standardList.map some, ())

instance : Shaped WeightConfig where
  shape := WeightConfig.shape
  ofCarrier := fun (limit, ()) => ⟨limit.getD none⟩
  toCarrier c := (c.limit.map some, ())

instance : Shaped Config where
  shape := Config.shape
  ofCarrier := fun (tool, graph, weight, ()) =>
    ⟨Shaped.field ToolConfig {} tool, Shaped.field GraphConfig {} graph,
      Shaped.field WeightConfig {} weight⟩
  toCarrier c :=
    (some (Shaped.toCarrier c.tool), some (Shaped.toCarrier c.graph),
      some (Shaped.toCarrier c.weight), ())

/-! ### Loading -/

/-- Why there is no configuration. -/
inductive ConfigError where
  | unreadable (path : String) (cause : AccessError)
  | document (e : DocumentError)
  | unsupportedFormat (path : String)
deriving DecidableEq, Repr

namespace ConfigError

/-- The wording of an error. -/
def message : ConfigError → String
  | unreadable path cause => "failed to read config " ++ path ++ ": " ++ cause.message
  | document e => "failed to parse config " ++ e.formatName ++ ": " ++ e.message
  | unsupportedFormat path =>
    "unsupported config format (expected .json, .yaml or .yml): " ++ path

/-- The wording of what is behind an error. -/
def causes : ConfigError → List String
  | unreadable _ cause => [cause.message]
  | document e => [e.message]
  | unsupportedFormat _ => []

end ConfigError

namespace Config

/-- The configuration that a text holds.  A YAML text of blanks alone leaves all settings as they
are. -/
def ofText (format : Format) (text : String) : Except ConfigError Config :=
  if format = .yaml ∧ Text.trim text.toList = [] then .ok {}
  else (format.parse Config text).mapError .document

/-- Reads the configuration at a path, which messages show as another one. -/
def loadAs (shown path : String) : Attempt ConfigError Config := do
  match Format.ofPath? path with
  | none => throw (.unsupportedFormat shown)
  | some format =>
    let text ← (Attempt.readText path).adapt (.unreadable shown)
    .ofExcept (ofText format text)

/-- Reads the configuration at a path. -/
def load (path : String) : Attempt ConfigError Config := loadAs path path

/-- The names under which a configuration is looked for, in this order. -/
def fileNames : List String := ["depweight.json", "depweight.yaml", "depweight.yml"]

/-- The configuration under the first of some names that there is a file of, with its path as
messages show it. -/
def firstOf (directory : String) : List String → Attempt ConfigError (Option (String × Config))
  | [] => pure none
  | name :: rest => do
    if ← Attempt.isFile name then
      let shown := Path.join directory name
      return some (shown, ← loadAs shown name)
    else firstOf directory rest

/-- Looks for a configuration in the current directory, which messages show under the name
given. -/
def discover (directory : String) : Attempt ConfigError (Option (String × Config)) :=
  firstOf directory fileNames

end Config
end PackageCensus
