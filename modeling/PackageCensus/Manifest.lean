import PackageCensus.Format
import PackageCensus.Graph.Catalog
import PackageCensus.Graph.Record
import PackageCensus.Host.Run

/-! # Manifests

A manifest is a document that lists packages with their imports.  It gives a catalog if no id is
listed twice; `repeated?` is the first package whose id stands before it in the list. -/

namespace PackageCensus

/-- A list of packages. -/
structure Manifest where
  packages : List Package
deriving DecidableEq, Repr

/-- The shape of a manifest. -/
def Manifest.shape : Shape :=
  .record "Manifest" <| .defaulted "packages" (.list Package.shape) .nil

instance : Shaped Manifest where
  shape := Manifest.shape
  ofCarrier := fun (packages, ()) =>
    ⟨Shaped.field (List Package) [] packages⟩
  toCarrier m := (some (Shaped.toCarrier m.packages), ())

/-- Why there is no manifest, or none that can be used. -/
inductive ManifestError where
  | unreadable (path : String) (cause : AccessError)
  | document (e : DocumentError)
  | duplicatePackage (id : String)
deriving DecidableEq, Repr

namespace ManifestError

/-- The wording of an error. -/
def message : ManifestError → String
  | unreadable path cause => "failed to read manifest " ++ path ++ ": " ++ cause.message
  | document e => "failed to parse manifest " ++ e.formatName ++ ": " ++ e.message
  | duplicatePackage id => "package " ++ id ++ " is listed more than once"

/-- The wording of what is behind an error. -/
def causes : ManifestError → List String
  | unreadable _ cause => [cause.message]
  | document e => [e.message]
  | duplicatePackage _ => []

end ManifestError

namespace Manifest

/-- The first id in a list that stands among those before it. -/
def repeatedAfter (before : List String) : List String → Option String
  | [] => none
  | id :: rest => if id ∈ before then some id else repeatedAfter (id :: before) rest

/-- The first id that a manifest lists for the second time. -/
def repeated? (m : Manifest) : Option String := repeatedAfter [] (m.packages.map (·.id))

/-- The catalog of a manifest that lists no id twice. -/
def catalog (m : Manifest) (unknownAsLeaf : Bool) : Except ManifestError Catalog :=
  match m.repeated? with
  | some id => .error (.duplicatePackage id)
  | none => .ok ⟨.ofList m.packages, unknownAsLeaf⟩

/-- The manifest that a text holds. -/
def ofText (format : Format) (text : String) : Except ManifestError Manifest :=
  (format.parse Manifest text).mapError .document

/-- Reads the manifest at a path, as JSON unless the path tells otherwise. -/
def load (path : String) : Attempt ManifestError Manifest := do
  let text ← (Attempt.readText path).adapt (.unreadable path)
  .ofExcept (ofText ((Format.ofPath? path).getD .json) text)

end Manifest
end PackageCensus
