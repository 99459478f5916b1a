import PackageCensus.Path
import PackageCensus.Shaped

/-! # Formats of documents

The format of a document on disk is told by the ending of its path. -/

namespace PackageCensus

/-- A format of documents. -/
inductive Format where
  | json
  | yaml
deriving DecidableEq, Repr

/-- The format that a path tells. -/
def Format.ofPath? (path : String) : Option Format :=
  match Path.extension? path with
  | some "json" => some .json
  | some "yaml" | some "yml" => some .yaml
  | _ => none

/-- Why a document was refused. -/
inductive DocumentError where
  | json (fault : Json.Fault)
  | yaml
deriving DecidableEq, Repr

/-- The wording of an error. -/
def DocumentError.message : DocumentError → String
  | json .malformed => "malformed document"
  | json .truncated => "unexpected end of document"
  | json (.mismatch m) => m.message
  | yaml => "malformed document"

/-- The name of the format of a refused document. -/
def DocumentError.formatName : DocumentError → String
  | json _ => "JSON"
  | yaml => "YAML"

/-- A value from a document. -/
def Format.parse (α : Type) [Shaped α] (document : String) : Format → Except DocumentError α
  | json => (Json.parse α document).mapError .json
  | yaml => match Yaml.parse α document with
    | some value => .ok value
    | none => .error .yaml

end PackageCensus
