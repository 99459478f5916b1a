import PackageCensus.Host.Access
import PackageCensus.Path
import PackageCensus.Text.Octets

/-! # File trees

The files and directories of a machine, as a value: those in and below the current directory, which
has its own place among the directories that every machine has.  `locate` follows a path through
the tree, name by name.  Names are octets; the tree is told in texts. -/

namespace PackageCensus

/-- A name of a file, or those on the way to it, beginning at the root. -/
abbrev FileName := List Char

/-- What stands for a device. -/
inductive Device where
  /-- It holds nothing and takes everything. -/
  | null
  /-- It takes nothing. -/
  | full
deriving DecidableEq, Repr

/-- What stands at a path. -/
inductive Entry where
  | file (octets : List UInt8)
  | directory
  | device (d : Device)
  /-- A program of the machine, whose octets are not told. -/
  | program
deriving DecidableEq, Repr

/-- Files and directories under the names on the way to them.  The directories on the way to an
entry need no entries of their own. -/
structure FileTree where
  entries : List (List FileName × Entry)
  /-- The current directory. -/
  home : List FileName
  /-- A text that stands for the path of the current directory. -/
  homePath : FileName
deriving DecidableEq, Repr

namespace FileTree

/-! ### The machine -/

/-- The directories of a machine. -/
def standardDirectories : List (List FileName) :=
  ["boot", "dev", "dev/shm", "etc", "home", "media", "mnt", "opt", "proc", "root", "run", "srv",
   "sys", "tmp", "usr", "usr/bin", "usr/games", "usr/include", "usr/lib", "usr/lib64", "usr/local",
   "usr/local/bin", "usr/local/etc", "usr/local/games", "usr/local/include", "usr/local/lib",
   "usr/local/sbin", "usr/local/share", "usr/local/src", "usr/sbin", "usr/share", "usr/src", "var",
   "var/backups", "var/cache", "var/lib", "var/local", "var/log", "var/mail", "var/opt",
   "var/spool", "var/tmp"].map Path.names

/-- The directories at the root that are those of the same names elsewhere. -/
def linkedDirectories : List FileName := ["bin", "sbin", "lib", "lib64"].map String.toList

/-- The programs of a machine. -/
def standardPrograms : List String :=
  ["[", "arch", "awk", "base64", "basename", "bash", "cat", "chmod", "chown", "cksum", "comm", "cp",
   "cut", "dash", "date", "dd", "df", "diff", "dirname", "du", "echo", "env", "expand", "expr",
   "factor", "false", "find", "fold", "grep", "gzip", "head", "hostname", "id", "join", "kill",
   "link", "ln", "ls", "md5sum", "mkdir", "mkfifo", "mktemp", "mv", "nice", "nl", "nohup", "nproc",
   "od", "paste", "perl", "pr", "printenv", "printf", "ps", "pwd", "readlink", "realpath", "rm",
   "rmdir", "sed", "seq", "sh", "sha256sum", "shuf", "sleep", "sort", "split", "stat", "stty",
   "sum", "sync", "tac", "tail", "tar", "tee", "test", "timeout", "touch", "tr", "true",
   "truncate", "tsort", "tty", "uname", "unexpand", "uniq", "wc", "who", "whoami", "xargs", "yes"]

/-- The devices of a machine. -/
def standardDevices : List String :=
  ["null", "zero", "full", "random", "urandom", "tty", "stdin", "stdout", "stderr"]

/-- The directory of the programs. -/
def programDirectory : List FileName := ["usr".toList, "bin".toList]

/-- What stands at a place of the machine itself. -/
def standardEntry? (names : List FileName) : Option Entry :=
  if names.isEmpty || standardDirectories.contains names then some .directory
  else match names with
    | [['d', 'e', 'v'], name] =>
      if name == "full".toList then some (.device .full)
      else if standardDevices.contains (String.ofList name) then some (.device .null)
      else none
    | [['u', 's', 'r'], ['b', 'i', 'n'], name] =>
      if standardPrograms.contains (String.ofList name) then some .program else none
    | [['e', 't', 'c'], name] =>
      if name == "passwd".toList || name == "group".toList then some .program else none
    | _ => none

/-! ### Entries -/

/-- The names of a path in octets. -/
def octetNames (path : String) : List FileName := Path.names (String.ofList (Text.spread path))

/-- The tree of a current directory with entries at some paths in it. -/
def ofPaths (homePath : String) (paths : List (String × Entry)) : FileTree :=
  let home : List FileName := ["tmp".toList, "home".toList]
  ⟨paths.map fun (path, entry) => (home ++ octetNames path, entry), home, Text.spread homePath⟩

/-- The entry under some names. -/
def entry? (t : FileTree) (names : List FileName) : Option Entry :=
  match t.entries.lookup names with
  | some entry => some entry
  | none => match standardEntry? names with
    | some entry => some entry
    | none =>
      if names.isPrefixOf t.home || t.entries.any (names.isPrefixOf ·.1) then some .directory
      else none

/-- The names of a directory in a directory. -/
def down (names : List FileName) (name : FileName) : List FileName :=
  if names.isEmpty && linkedDirectories.contains name then ["usr".toList, name]
  else names ++ [name]

/-- The names in a directory, in no order. -/
def children (t : FileTree) (names : List FileName) : List FileName :=
  let below (path : List FileName) : Option FileName :=
    if names.isPrefixOf path then (path.drop names.length).head? else none
  let standard := standardDirectories ++
    standardPrograms.map (fun name => programDirectory ++ [name.toList]) ++
    linkedDirectories.map (fun name => [name]) ++
    standardDevices.map (fun name => ["dev".toList, name.toList]) ++ [t.home]
  ((t.entries.map Prod.fst ++ standard).filterMap below).eraseDups

/-! ### Paths -/

/-- The most octets of a name. -/
def nameLimit : Nat := 255

/-- The most octets of a path. -/
def pathLimit : Nat := 4095

/-- Follows the pieces of a path from a directory: the names on the way, and what stands there. -/
def follow (t : FileTree) (here : List FileName) :
    List FileName → Except AccessError (List FileName × Entry)
  | [] => .ok (here, .directory)
  | piece :: rest =>
    if piece.isEmpty || piece == ['.'] then follow t here rest
    else if piece == ['.', '.'] then follow t here.dropLast rest
    else if nameLimit < piece.length then .error .nameTooLong
    else
      let names := down here piece
      match t.entry? names with
      | none => .error .notFound
      | some .directory => follow t names rest
      | some entry => if rest.isEmpty then .ok (names, entry) else .error .notADirectory

/-- The directory where a path begins, given the one at hand, and its pieces. -/
def begin (t : FileTree) (directory : List FileName) (path : FileName) :
    List FileName × List FileName :=
  let pieces := path.splitOnP (· == '/')
  if path.head? = some '/' then ([], pieces)
  else if ! t.homePath.isEmpty && pieces.head? = some t.homePath then (t.home, pieces.drop 1)
  else (directory, pieces)

/-- What stands at a path, as seen from a directory, and the names on the way. -/
def locate (t : FileTree) (directory : List FileName) (path : FileName) :
    Except AccessError (List FileName × Entry) :=
  if path.contains '\x00' then .error .nullInPath
  else if path.isEmpty then .error .notFound
  else if pathLimit < path.length then .error .nameTooLong
  else
    let (first, pieces) := t.begin directory path
    t.follow first pieces

/-- What stands at a path. -/
def find (t : FileTree) (path : String) : Except AccessError Entry :=
  (t.locate t.home (Text.spread path)).map Prod.snd

/-- Whether there is a file at a path. -/
def isFile (t : FileTree) (path : String) : Bool :=
  match t.find path with
  | .ok (.file _) | .ok .program => true
  | _ => false

/-- What can be read where an entry stands.  A directory can be opened, but not be read. -/
def Entry.source : Entry → Source
  | .file octets => ⟨octets, none⟩
  | .directory => ⟨[], some .isADirectory⟩
  | .device _ | .program => ⟨[], none⟩

/-- Opens what stands at a path. -/
def openFile (t : FileTree) (path : String) : Except AccessError Source :=
  (t.find path).map Entry.source

/-! ### Writing -/

/-- The tree with octets in the file under some names. -/
def put (t : FileTree) (names : List FileName) (octets : List UInt8) : FileTree :=
  { t with entries := (names, .file octets) :: t.entries.filter (·.1 != names) }

/-- The names for a file that is to be at a path, and what stands there already.  No file can be at
a path that ends in a slash. -/
def placeFor (t : FileTree) (directory : List FileName) (path : FileName) :
    Except AccessError (List FileName × Option Entry) :=
  let plain := (path.reverse.dropWhile (· == '/')).reverse
  let (first, pieces) := t.begin directory (if plain.isEmpty then path else plain)
  let parent := t.follow first pieces.dropLast
  if path.getLast? = some '/' then
    match parent with
    | .ok (_, .directory) => .error .isADirectory
    | .ok _ => .error .notADirectory
    | .error e => .error e
  else match t.locate directory path with
    | .ok (names, entry) => .ok (names, some entry)
    | .error .notFound => match parent, pieces.getLast? with
      | .ok (names, .directory), some name =>
        if path.isEmpty then .error .notFound else .ok (names ++ [name], none)
      | _, _ => .error .notFound
    | .error e => .error e

end FileTree
end PackageCensus
