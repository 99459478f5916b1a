/-! # Symbols

One entry of a binary's symbol table, with the package it is charged to. -/

namespace PackageCensus

/-- An entry of a symbol table. -/
structure Symbol where
  /-- Zero when the table gives no address. -/
  address : UInt64
  size : Int64
  /-- The letter for the kind of symbol, such as `T` for code and `D` for data. -/
  code : Char
  qualifiedName : String
  /-- The remarks after the name, such as a file and a line. -/
  info : String
  /-- The segments of the package's import path; none for a symbol of no package. -/
  path : List String
  /-- The name within the package. -/
  name : String
deriving DecidableEq, Repr

namespace Symbol

/-- The import path of the package that owns a symbol, empty for a symbol of no package. -/
def package (s : Symbol) : String := "/".intercalate s.path

/-- The beginnings of names that the compiler makes up for its own tables. -/
def syntheticBeginnings : List String := ["go.itab.", "type.."]

/-- Whether a symbol belongs to the compiler's own tables: method tables of interfaces and
descriptors of types.  No package is charged for these. -/
def isSynthetic (s : Symbol) : Bool :=
  syntheticBeginnings.any fun b => b.toList.isPrefixOf s.qualifiedName.toList

end Symbol
end PackageCensus
