import PackageCensus.Host.Run
import PackageCensus.StandardList

/-! # Lists of standard packages on disk -/

namespace PackageCensus.StandardList

/-- Reads the list at a path. -/
def load (path : String) : Attempt AccessError Graph := do
  return parse (← Attempt.readText path)

/-- The list at a path if one is given, or else the bundled one. -/
def loadOr (path? : Option String) : Attempt (String × AccessError) Graph :=
  match path? with
  | some path => (load path).adapt (path, ·)
  | none => pure bundled

end PackageCensus.StandardList
