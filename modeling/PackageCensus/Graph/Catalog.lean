import PackageCensus.Graph.Closure

/-! # Catalogs

A catalog lists the imports of known packages.  As a resolver it either refuses an id that is not
listed or takes it for a package without imports. -/

namespace PackageCensus

/-- Why a catalog gives no imports. -/
inductive ResolveError where
  | unknownPackage (id : String)
deriving DecidableEq, Repr

/-- The wording of an error. -/
def ResolveError.message : ResolveError → String
  | unknownPackage id => "unknown package: " ++ id

/-- Known packages, and what an id that is not among them stands for. -/
structure Catalog where
  listing : Graph
  unknownAsLeaf : Bool
deriving DecidableEq

namespace Catalog

/-- The imports of a package. -/
def imports (c : Catalog) (id : String) : Except ResolveError (List String) :=
  match c.listing.get? id with
  | some p => .ok p.imports
  | none => if c.unknownAsLeaf then .ok [] else .error (.unknownPackage id)

/-- Every import of a listed package, in order. -/
def named (c : Catalog) : List String := c.listing.packages.flatMap (·.imports)

/-- A catalog as a resolver. -/
def resolver (c : Catalog) : Resolver ResolveError where
  imports := c.imports
  named := c.named
  mem_named {id ids dep} h hd := by
    unfold imports at h
    split at h
    · next p hp =>
      cases h
      exact List.mem_flatMap.mpr ⟨p, Graph.mem_of_get? hp, hd⟩
    · split at h <;> cases h
      simp at hd

/-- The ids among these that the catalog does not list and takes for leaves. -/
def leaves (c : Catalog) (asked : List String) : List String :=
  if c.unknownAsLeaf then asked.filter fun id => ! c.listing.contains id else []

end Catalog
end PackageCensus
