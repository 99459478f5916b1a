import PackageCensus.Graph.Storage
import PackageCensus.Shaped

/-! # Graphs in documents

A package is a record of its id and its imports, which may be left out, and a graph is the list
of its packages.  A list may hold an id more than once when it is read: the last package of it
counts.  A graph in storage is written in order of ids. -/

namespace PackageCensus

/-- The shape of a package. -/
def Package.shape : Shape :=
  .record "PackageNode" <| .required "id" .string <| .defaulted "imports" (.list .string) .nil

instance : Shaped Package where
  shape := Package.shape
  ofCarrier := fun (id, imports, ()) => ⟨id, imports.getD []⟩
  toCarrier p := (p.id, some p.imports, ())

instance : Shaped Graph where
  shape := Shaped.shape (List Package)
  ofCarrier packages := .ofList (Shaped.ofCarrier packages)
  toCarrier g := Shaped.toCarrier g.packages

instance : Shaped Storage where
  shape := Shaped.shape (List Package)
  ofCarrier packages := .ofList (Shaped.ofCarrier packages)
  toCarrier s := Shaped.toCarrier s.sorted

end PackageCensus
