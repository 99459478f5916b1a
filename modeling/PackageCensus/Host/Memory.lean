import PackageCensus.Host.Script.Run

/-! # Hosts in memory

A host made of a file tree, an environment and a few programs that can stand in the place of the one
that lists symbols: one that copies files, one that writes its arguments, one that does nothing, one
that fails, and one that runs scripts.  None of the files of the tree itself is a program.

The commands know a host by its answers alone; this one stands for the machine that requests are
made on, and its scripts go as far as theirs. -/

namespace PackageCensus

namespace FileTree

/-- The most octets of an argument of a program. -/
def argumentLimit : Nat := 131071

/-- The directories in which programs are looked for by their names. -/
def programPlaces (environment : List (String × String)) : List (List Char) :=
  Script.directoriesOf (((environment.lookup "PATH").map Text.spread).getD Script.standardPath)

/-- The names on the way to a program.  One whose name has no slash is looked for in some
directories, and what is found there but is no program counts only if no program is found. -/
def findProgram (t : FileTree) (places : List (List Char)) (program : String) :
    Except AccessError (List FileName) :=
  let name := Text.spread program
  if name.isEmpty then .error .notFound
  else if name.contains '/' then
    match t.locate t.home name with
    | .ok (names, .program) => .ok names
    | .ok _ => .error .permissionDenied
    | .error e => .error e
  else if nameLimit < name.length then .error .nameTooLong
  else Script.programAt t t.home (places.map (Script.inDirectory · name))

/-- What becomes of a program in an environment. -/
def launch (t : FileTree) (environment : List (String × String)) (c : Command) :
    Except AccessError Process :=
  if (c.program :: c.arguments).any (·.toList.contains '\x00') then .error .nullInArgument
  else match t.findProgram (programPlaces environment) c.program with
    | .error e => .error e
    | .ok names =>
      if c.arguments.any (argumentLimit < Text.octetCount ·.toList) then .error .argumentsTooLong
      else
        let (output, status) := Script.outcome t environment names (c.program :: c.arguments)
        .ok ⟨⟨output, none⟩, status⟩

end FileTree

/-- A host with the files of a tree, an environment for programs, and a clock that stands still. -/
def Host.ofTree (t : FileTree) (environment : List (String × String)) (now : String) : Host where
  answer
    | .isFile path => t.isFile path
    | .file path => t.openFile path
    | .process c => t.launch environment c
    | .time => now

end PackageCensus
