import PackageCensus.Shaped
import PackageCensus.Weight.Basic

/-! # Reports on weights

A report lists the weights of the packages of one binary, with their sum and how it was made. -/

namespace PackageCensus

/-- The version of this program. -/
def version : String := "0.1.0"

/-- The weights of the packages of a binary. -/
structure WeightReport where
  binary : String
  /-- The digest of the binary, if it was taken. -/
  binaryHash : Option String
  generatedAt : String
  /-- The version of the program that made the report. -/
  toolVersion : String
  totalSize : Int64
  packages : List PackageWeight
deriving DecidableEq, Repr

/-- The shape of a row. -/
def PackageWeight.shape : Shape :=
  .record "PackageWeight" <|
    .required "package" .string <| .required "size" .signed <|
    .required "symbols" (.unsigned "usize") .nil

instance : Shaped PackageWeight where
  shape := PackageWeight.shape
  ofCarrier := fun (package, size, symbols, ()) => ⟨package, size, symbols.toNat⟩
  toCarrier w := (w.package, w.size, .ofNat w.symbols, ())

namespace WeightReport

/-- The shape of a report. -/
def shape : Shape :=
  .record "WeightReport" <|
    .required "binary" .string <|
    .defaulted "binary_hash" (.optional .string) <|
    .required "generated_at" .string <|
    .defaulted "tool_version" .string <|
    .required "total_size" .signed <|
    .required "packages" (.list PackageWeight.shape) .nil

instance : Shaped WeightReport where
  shape := shape
  ofCarrier := fun (binary, hash, time, version, total, packages, ()) =>
    ⟨binary, hash.getD none, time, version.getD "", total, packages.map Shaped.ofCarrier⟩
  toCarrier r :=
    (r.binary, r.binaryHash.map some, r.generatedAt, some r.toolVersion, r.totalSize,
      r.packages.map Shaped.toCarrier, ())

/-- The report on some rows, made at a time. -/
def make (binary : String) (hash : Option String) (time : String) (rows : List PackageWeight) :
    WeightReport :=
  ⟨binary, hash, time, version, Weight.total rows, rows⟩

/-- The report with so many rows at most; its sum stays that of all rows. -/
def limit (r : WeightReport) : Option Nat → WeightReport
  | some n => { r with packages := r.packages.take n }
  | none => r

end WeightReport
end PackageCensus
