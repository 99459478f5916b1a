import PackageCensus.Graph.Storage
import PackageCensus.StandardList.Bundled
import PackageCensus.Text.Blank

/-! # Lists of standard packages

A list names one package on each line.  Blanks around a name do not count, and neither do blank
lines and lines that begin with a number sign.  As a graph, whose packages import nothing, a list
can be taken away from another graph. -/

namespace PackageCensus.StandardList

/-- A package without imports. -/
def leaf (id : String) : Package := ⟨id, []⟩

/-- Whether a trimmed line names a package. -/
def isName (line : List Char) : Bool :=
  match line with
  | [] => false
  | c :: _ => c != '#'

/-- The names that a text lists, in order. -/
def names (text : String) : List String :=
  (((text.toList.splitOnP (· == '\n')).map Text.trim).filter isName).map String.ofList

/-- The packages that a text lists. -/
def parse (text : String) : Graph := .ofList ((names text).map leaf)

/-- The packages that a text lists, in storage. -/
def store (text : String) : Storage := .ofList ((names text).map leaf)

/-- The bundled list. -/
def bundled : Graph := .ofList (bundledIds.map leaf)

end PackageCensus.StandardList
