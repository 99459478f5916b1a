import PackageCensus.Host.Script.Expansion

/-! # Descriptors sent elsewhere

A descriptor leads to something that has been opened.  `redirect` sends descriptors elsewhere, one
after the other, and `whileSent` does so for as long as something is done.  Some paths stand for
descriptors themselves. -/

namespace PackageCensus.Script

namespace Shell

/-! ### Opening -/

/-- The descriptor that a path stands for. -/
def descriptorAt? (path : Octets) : Option Nat :=
  ["/dev/stdin", "/dev/stdout", "/dev/stderr"].findIdx? (·.toList == path)

/-- Opens something: its number. -/
def enter (o : Opened) : Shell Nat := do
  let s ← get
  let (n, world) := s.world.enter o
  modify fun s => { s with world }
  return n

/-- Opens anew what a descriptor leads to, if it leads to anything. -/
def reopen (descriptor : Nat) (reads appends : Bool) : Shell (Except AccessError Nat) := do
  match ← opened? descriptor with
  | none => return .error .notFound
  | some (n, o) => match o.medium with
    | .pipe => return .ok n
    | medium => return .ok (← enter { medium, reads, writes := ! reads, appends })

/-- What an entry can be opened as. -/
def mediumOf (names : List FileName) : Entry → Medium
  | .file _ => .file names
  | .directory => .directory
  | .device d => .device d
  | .program => .program

/-- Opens a path for reading. -/
def openToRead (path : Octets) : Shell (Except AccessError Nat) := do
  match descriptorAt? path with
  | some descriptor => reopen descriptor true false
  | none =>
    let s ← get
    match s.world.tree.locate s.process.directory path with
    | .error e => return .error e
    | .ok (names, entry) =>
      return .ok (← enter { medium := mediumOf names entry, reads := true })

/-- Opens a path for writing, perhaps a new one, behind what is there or in its place. -/
def openToWrite (path : Octets) (appends : Bool) : Shell (Except AccessError Nat) := do
  match descriptorAt? path with
  | some descriptor => reopen descriptor false appends
  | none =>
    let s ← get
    let begin (names : List FileName) : Shell Unit :=
      modify fun s => { s with world := { s.world with tree := s.world.tree.put names [] } }
    let o (medium : Medium) : Opened := { medium, writes := true, appends }
    match s.world.tree.placeFor s.process.directory path with
    | .error e => return .error e
    | .ok (_, some .directory) => return .error .isADirectory
    | .ok (names, some (.file _)) =>
      if ! appends then begin names
      return .ok (← enter (o (.file names)))
    | .ok (names, some entry) => return .ok (← enter (o (mediumOf names entry)))
    | .ok (names, none) =>
      begin names
      return .ok (← enter (o (.file names)))

/-! ### Sending elsewhere -/

/-- What a descriptor leads to, as it is kept. -/
def descriptor? (n : Nat) : Shell (Option Nat) := read fun p => p.descriptors.lookup n

/-- Lets a descriptor lead to what goes by a number, or nowhere. -/
def lead (n : Nat) (number? : Option Nat) : Shell Unit := update fun p =>
  { p with descriptors := (number?.map (n, ·)).toList ++ p.descriptors.filter (·.1 != n) }

/-- Opens what a descriptor is sent to: its number, or none if it is to lead nowhere. -/
def openChannel (run : Substitution) : Channel → Shell (Option Nat)
  | .read word => do
    let path ← text word
    match ← openToRead path with
    | .ok n => return some n
    | .error e => refuse "cannot open " path "No such file" e
  | .write word => do create (← text word) false
  | .append word => do create (← text word) true
  | .same n => do
    match ← descriptor? n with
    | some number => return some number
    | none => fail (numberText n ++ ": Bad file descriptor".toList)
  | .nowhere => return none
  | .document number filled => do
    let word := ((← read (·.documents)).lookup number).getD []
    let text ← if filled then expandDocument run word else pure (Word.mark word)
    return some (← enter { medium := .pipe, reads := true, waiting := Text.toOctets text })
where
  /-- The text of a word. -/
  text (w : Word) : Shell Octets := expandText run { tilde := true } w
  /-- Complains about a path. -/
  refuse (front : String) (path : Octets) (missing : String) (e : AccessError) :
      Shell (Option Nat) :=
    let reason := match e with
      | .notFound | .notADirectory => missing
      | e => e.reason
    fail (front.toList ++ path ++ (": " ++ reason).toList)
  /-- Opens a path for writing. -/
  create (path : Octets) (appends : Bool) : Shell (Option Nat) := do
    match ← openToWrite path appends with
    | .ok n => return some n
    | .error e => refuse "cannot create " path "Directory nonexistent" e

/-- Sends descriptors elsewhere, one after the other. -/
def redirect (run : Substitution) (redirects : List Redirect) : Shell Unit :=
  each (fun r => do lead r.descriptor (← openChannel run r.channel)) redirects

/-- Does something while descriptors are sent elsewhere, or something else if that fails. -/
def whileSent {α : Type} (run : Substitution) (redirects : List Redirect)
    (failed body : Shell α) : Shell α := do
  let before ← read (·.descriptors)
  let comeBack : Shell Unit :=
    each (fun r => lead r.descriptor (before.lookup r.descriptor)) redirects
  match ← attempt (redirect run redirects) with
  | .ok () => try body finally comeBack
  | .error .error =>
    comeBack
    failed
  | .error e => throw e

end Shell
end PackageCensus.Script
