/-! # Paths

A path is a text whose names are parted by slashes.  Empty names and single dots do not count,
but for a path of the root, which begins with a slash. -/

namespace PackageCensus.Path

/-- The pieces of a path between its slashes, empty ones among them. -/
def pieces (path : String) : List (List Char) := path.toList.splitOnP (· == '/')

/-- The names of a path. -/
def names (path : String) : List (List Char) :=
  (pieces path).filter fun name => !(name.isEmpty || name == ['.'])

/-- The name that a path ends in; none if it ends by going up or is the root. -/
def lastName? (path : String) : Option (List Char) :=
  (names path).getLast?.filter (· != ['.', '.'])

/-- What stands behind the last dot of a name, unless nothing stands before it. -/
def ending? (name : List Char) : Option (List Char) :=
  let ending := (name.reverse.takeWhile (· != '.')).reverse
  if ending.length + 1 < name.length then some ending else none

/-- The ending of the name that a path ends in. -/
def extension? (path : String) : Option String :=
  ((lastName? path).bind ending?).map String.ofList

/-- The path of a name in a directory; the empty directory is the current one. -/
def join (directory name : String) : String :=
  if directory.isEmpty || directory.toList.getLast? == some '/' then directory ++ name
  else directory ++ "/" ++ name

end PackageCensus.Path
