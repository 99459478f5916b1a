import PackageCensus.Graph.Basic
import PackageCensus.Quantity
import PackageCensus.Symbol.Basic

/-! # Weights of packages

The weight of a package is the sum of the sizes of its symbols, and it is shown with their
number.  `aggregate` gives one row for each package that owns a symbol, the heaviest first and
packages of one weight by name.  Symbols of no package share the row of the empty name. -/

namespace PackageCensus

/-- What the symbols of one package come to. -/
structure PackageWeight where
  package : String
  size : Int64
  symbols : Nat
deriving DecidableEq, Repr

namespace PackageWeight

/-- The name under which the symbols of no package are shown. -/
def unattributed : String := "(unattributed)"

/-- The name under which a row is shown. -/
def displayName (w : PackageWeight) : String :=
  if w.package.isEmpty then unattributed else w.package

end PackageWeight

namespace Weight

/-- The rows with one more symbol charged: to the row of its package, or to a new one. -/
def charge (rows : List PackageWeight) (s : Symbol) : List PackageWeight :=
  match rows with
  | [] => [⟨s.package, Quantity.add 0 s.size, 1⟩]
  | row :: rest =>
    if row.package = s.package then
      { row with size := Quantity.add row.size s.size, symbols := row.symbols + 1 } :: rest
    else row :: charge rest s

/-- Whether a row may stand before another: it is heavier, or as heavy and not later by name. -/
def before (v w : PackageWeight) : Bool :=
  w.size < v.size || (v.size == w.size && decide (v.package ≤ w.package))

/-- Rows in the order in which they are shown. -/
def rank (rows : List PackageWeight) : List PackageWeight := rows.mergeSort before

/-- The weight of every package that owns one of the symbols. -/
def aggregate (symbols : List Symbol) : List PackageWeight := rank (symbols.foldl charge [])

/-- The rows of the packages that a graph holds. -/
def restrictTo (rows : List PackageWeight) (g : Graph) : List PackageWeight :=
  rows.filter fun row => g.contains row.package

/-- The sum of the weights of some rows. -/
def total (rows : List PackageWeight) : Int64 := Quantity.sum (rows.map (·.size))

end Weight
end PackageCensus
