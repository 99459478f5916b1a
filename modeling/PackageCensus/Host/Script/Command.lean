import PackageCensus.Host.Script.Option
import PackageCensus.Host.Script.Reader

/-! # Directories and names of commands

A script goes from directory to directory, and keeps the path of the one where it is and of the one
before it among its variables.

A name of a command stands for a function of the script, for a command of the language itself, or
for a program, which is looked for in the directories of a list.  An alias is put in place of a name
before the script is understood, so that it is none of these. -/

namespace PackageCensus.Script

/-! ### Directories -/

/-- The path of some names; that of the first current directory has a text of its own. -/
def pathOf (t : FileTree) (names : List FileName) : Octets :=
  if t.home.isPrefixOf names && ! t.homePath.isEmpty then
    ['/'].intercalate (t.homePath :: names.drop t.home.length)
  else '/' :: ['/'].intercalate names

/-- The parts of a list of directories between its colons. -/
def directoriesOf (list : Octets) : List Octets := list.splitOnP (· == ':')

/-- The path of a name in a directory of a list. -/
def inDirectory (directory name : Octets) : Octets :=
  if directory.isEmpty then name else directory ++ ['/'] ++ name

namespace Shell

/-- The path of the current directory. -/
def currentPath : Shell Octets := do
  let s ← get
  return pathOf s.world.tree s.process.directory

/-- Goes to a directory, if there is one at the path. -/
def goTo (path : Octets) : Shell Unit := do
  let s ← get
  match s.world.tree.locate s.process.directory path with
  | .ok (directory, .directory) =>
    assign "OLDPWD".toList (some (← currentPath)) true false
    update ({ · with directory })
    assign "PWD".toList (some (← currentPath)) true false
  | _ => fail ("can't cd to ".toList ++ path)

/-- Changes the current directory; a dash stands for the one before, whose path is told. -/
def changeDirectory (arguments : List Octets) : Shell (Nat × Octets) := do
  let (_, rest) ← optionsOf "LP" arguments
  match rest with
  | [] =>
    goTo ((← value? "HOME".toList).getD [])
    return (0, [])
  | ['-'] :: _ =>
    goTo ((← value? "OLDPWD".toList).getD [])
    return (0, (← currentPath) ++ ['\n'])
  | path :: _ =>
    goTo path
    return (0, [])

end Shell

/-! ### Names -/

/-- The names of the commands that belong to the language itself. -/
def ownCommands : List String :=
  [".", ":", "[", "alias", "break", "cd", "command", "continue", "echo", "eval", "exec", "exit",
   "export", "false", "hash", "kill", "local", "printf", "pwd", "read", "readonly", "return", "set",
   "shift", "test", "times", "trap", "true", "umask", "unalias", "unset", "wait"]

/-- The commands whose arguments give values to names. -/
def namingCommands : List String := ["alias", "export", "local", "readonly"]

/-- What a name of a command stands for. -/
inductive Found where
  | function (body : Statement)
  | own (name : String)
  | program

/-- Why there is no such program, in words. -/
def programComplaint : AccessError → String
  | .notFound | .notADirectory => "not found"
  | e => e.reason

/-- The directories that are looked through where a script says nothing else. -/
def standardPath : Octets :=
  "/usr/local/sbin:/usr/local/bin:/usr/sbin:/usr/bin:/sbin:/bin".toList

/-- The names on the way to a program that is at one of some paths, the first one that there is, or
why there is none.  What is there but is no program counts only if there is no program. -/
def programAt (t : FileTree) (directory : List FileName) (places : List Octets) :
    Except AccessError (List FileName) :=
  let search : AccessError → Except AccessError (List FileName) :=
    places.foldr (fun path next e =>
      match t.locate directory path with
      | .ok (names, .program) => .ok names
      | .ok _ => next .permissionDenied
      | .error .notFound | .error .notADirectory => next e
      | .error other => next other) Except.error
  search .notFound

namespace Shell

/-- The paths at which something of a name may be, which is looked for on the path for programs
unless there is a slash in the name. -/
def placesOf (name : Octets) : Shell (List Octets) := do
  if name.isEmpty then return []
  if name.contains '/' then return [name]
  let list := (← value? "PATH".toList).getD []
  return (directoriesOf list).map (inDirectory · name)

/-- Finds the program of a name: the names on the way to it. -/
def findProgram (name : Octets) : Shell (Except AccessError (List FileName)) := do
  let places ← placesOf name
  let s ← get
  return programAt s.world.tree s.process.directory places

/-- What a name of a command stands for, among functions if told. -/
def meaningOf (name : Octets) (functions : Bool) : Shell Found := do
  let p ← read id
  match if functions then p.functions.lookup name else none with
  | some body => return .function body
  | none =>
    let name := String.ofList name
    return if ownCommands.contains name then .own name else .program

/-- Tells what a name of a command stands for, as briefly as a script needs it. -/
def describe (name : Octets) : Shell (Nat × Octets) := do
  match ← meaningOf name true with
  | .function _ | .own _ => return (0, name ++ ['\n'])
  | .program =>
    let s ← get
    let found? := (← placesOf name).find? fun path =>
      (programAt s.world.tree s.process.directory [path]).isOk
    match if keywords.contains (String.ofList name) then some name else found? with
    | some path => return (0, path ++ ['\n'])
    | none => return (127, [])

/-- Looks for programs. -/
def lookFor (arguments : List Octets) : Shell Nat := do
  let (_, names) ← optionsOf "r" arguments
  names.foldlM (fun status name => do
    match ← meaningOf name true, ← findProgram name with
    | .program, .error e =>
      warn (name ++ (": " ++ programComplaint e).toList)
      return 1
    | _, _ => return status) 0

/-! ### Aliases -/

/-- Gives names to texts: the status. -/
def nameTexts (arguments : List Octets) : Shell Nat :=
  arguments.foldlM (fun status argument => do
    match nameAndValue argument with
    | (name, some text) =>
      update fun p => { p with
        aliases := (name, text) :: p.aliases.filter (·.1 != name) }
      return status
    | (name, none) =>
      mutter ("alias: ".toList ++ name ++ " not found\n".toList)
      return 1) 0

/-- Takes names away from texts. -/
def unnameTexts (arguments : List Octets) : Shell Nat := do
  let (options, names) ← optionsOf "a" arguments
  if ! options.isEmpty then update ({ · with aliases := [] })
  else update fun p => { p with aliases := p.aliases.filter fun a => ! names.contains a.1 }
  return 0

end Shell
end PackageCensus.Script
