import PackageCensus.Host.Script.Redirection

/-! # Copying files

The program that writes files one after the other to its output, as they are or with signs for what
cannot be seen, numbers for lines, and marks at their ends.  Numbers and lines go on from one file
to the next. -/

namespace PackageCensus.Script.Copying

/-! ### Options -/

/-- How octets are shown when files are copied. -/
structure Style where
  numbers : Bool := false
  /-- Whether empty lines take no numbers. -/
  skipsEmpty : Bool := false
  squeezes : Bool := false
  marksEnds : Bool := false
  marksTabs : Bool := false
  marksUnseen : Bool := false
deriving DecidableEq, Repr

/-- The style with what a letter asks for. -/
def Style.withLetter? (s : Style) : Char → Option Style
  | 'A' => some { s with marksEnds := true, marksTabs := true, marksUnseen := true }
  | 'b' => some { s with numbers := true, skipsEmpty := true }
  | 'e' => some { s with marksEnds := true, marksUnseen := true }
  | 'E' => some { s with marksEnds := true }
  | 'n' => some { s with numbers := true }
  | 's' => some { s with squeezes := true }
  | 't' => some { s with marksTabs := true, marksUnseen := true }
  | 'T' => some { s with marksTabs := true }
  | 'u' => some s
  | 'v' => some { s with marksUnseen := true }
  | _ => none

/-- The long names of options, with the letters that they stand for. -/
def longNames : List (String × Char) :=
  [("number-nonblank", 'b'), ("number", 'n'), ("squeeze-blank", 's'), ("show-nonprinting", 'v'),
   ("show-ends", 'E'), ("show-tabs", 'T'), ("show-all", 'A')]

/-- The letter that a long option, perhaps cut short, stands for; or what is wrong. -/
def longOption (name : Octets) : Except Octets Char :=
  let found : List (String × Char) := match longNames.filter (·.1.toList == name) with
    | [] => longNames.filter (name.isPrefixOf ·.1.toList)
    | exact => exact
  match found with
  | [] => .error ("unrecognized option '--".toList ++ name ++ ['\''])
  | [(_, letter)] => .ok letter
  | several =>
    .error ("option '--".toList ++ name ++ "' is ambiguous; possibilities:".toList ++
      several.flatMap fun long => " '--".toList ++ long.1.toList ++ ['\''])

/-- What arguments ask for, given the style and the files so far; or what is wrong. -/
def wishOf (s : Style) (files : List Octets) : List Octets → Except Octets (Style × List Octets)
  | [] => .ok (s, files)
  | argument :: rest => match argument with
    | ['-', '-'] => .ok (s, files ++ rest)
    | '-' :: '-' :: name => match longOption name with
      | .error text => .error text
      | .ok letter => wishOf ((s.withLetter? letter).getD s) files rest
    | '-' :: c :: letters =>
      match (c :: letters).find? fun c => (s.withLetter? c).isNone with
      | some c => .error ("invalid option -- '".toList ++ [c, '\''])
      | none => wishOf ((c :: letters).foldl (fun s c => (s.withLetter? c).getD s) s) files rest
    | argument => wishOf s (files ++ [argument]) rest

/-! ### Lines -/

/-- An octet as it is shown within a line. -/
def Style.show (s : Style) (b : UInt8) : List UInt8 :=
  let caret (c : UInt8) : List UInt8 := ['^'.toUInt8, c]
  let low (b : UInt8) : List UInt8 :=
    if b < 32 then caret (b + 64) else if b = 127 then caret '?'.toUInt8 else [b]
  if b = 9 then if s.marksTabs then caret 'I'.toUInt8 else [b]
  else if ! s.marksUnseen then [b]
  else if b < 128 then low b
  else ['M'.toUInt8, '-'.toUInt8] ++ low (b - 128)

/-- A line number as it stands before a line. -/
def lineNumber (n : Nat) : List UInt8 :=
  let digits := Nat.toDigits 10 n
  Text.encode (List.replicate (6 - digits.length) ' ' ++ digits ++ ['\t'])

/-- Where copying stands. -/
structure Place where
  /-- The number of the last line that took one. -/
  number : Nat := 0
  /-- Whether a line begins here, and whether the one before it was empty. -/
  begins : Bool := true
  empty : Bool := false
  /-- Whether a carriage return is held back, which is marked if the line ends behind it. -/
  held : Bool := false

/-- An octet as it is shown, and where copying stands behind it. -/
def Style.step (s : Style) (k : Place) (b : UInt8) : List UInt8 × Place :=
  let number := lineNumber (k.number + 1)
  if b = 10 then
    if k.begins && k.empty && s.squeezes then ([], k)
    else
      let numbered := k.begins && s.numbers && ! s.skipsEmpty
      let mark : List UInt8 := if ! s.marksEnds then []
        else (if k.held then ['^'.toUInt8, 'M'.toUInt8] else []) ++ ['$'.toUInt8]
      ((if numbered then number else []) ++ mark ++ [b],
        { number := if numbered then k.number + 1 else k.number
          begins := true
          empty := k.begins })
  else
    let numbered := k.begins && s.numbers
    let front : List UInt8 := (if k.held then [13] else []) ++ if numbered then number else []
    let holds := b = 13 && s.marksEnds && ! s.marksUnseen
    (front ++ (if holds then [] else s.show b),
      { number := if numbered then k.number + 1 else k.number, begins := false, held := holds })

/-- Octets as they are shown, and where copying stands behind them. -/
def Style.shown (s : Style) (k : Place) (octets : List UInt8) : List UInt8 × Place :=
  let (shown, k) := octets.foldl (fun (shown, k) b =>
    let (more, k) := s.step k b
    (more.reverse ++ shown, k)) (([] : List UInt8), k)
  (shown.reverse, k)

/-! ### Names in complaints -/

/-- Whether a name stands in quotes in complaints. -/
def needsQuotes (name : Octets) : Bool :=
  name.isEmpty || name == ['\x7b'] || name == ['\x7d'] ||
    name.any (" !\"$&'()*:;<=>?[\\^\x60|".toList.contains ·) ||
    name.any (fun c => c.toNat < 32 || 127 ≤ c.toNat) || ['#', '~'].contains (name.headD ' ')

/-- A name as it stands in complaints: octets that cannot be seen go by their numbers. -/
def quotedName (name : Octets) : Octets :=
  if ! needsQuotes name then name
  else if name.contains '\'' && ! name.any (fun c => c.toNat < 32 || 127 ≤ c.toNat) &&
      ! name.any ("!\"$\\\x60".toList.contains ·) then ['"'] ++ name ++ ['"']
  else ['\''] ++ inside false name
where
  /-- The octets of a name within quotes, and the end of these. -/
  inside (numbered : Bool) : Octets → Octets
    | [] => ['\'']
    | c :: rest =>
      let unseen := c.toNat < 32 || 127 ≤ c.toNat
      if unseen then (if numbered then [] else "'$'".toList) ++ escape c ++ inside true rest
      else (if numbered then "''".toList else []) ++
        (if c = '\'' then "'\\''".toList else [c]) ++ inside false rest
  /-- An octet by its number, or by its sign if it has one. -/
  escape (c : Char) : Octets :=
    match ([('\x07', 'a'), ('\x08', 'b'), ('\t', 't'), ('\n', 'n'), ('\x0b', 'v'), ('\x0c', 'f'),
        ('\r', 'r')] : List (Char × Char)).lookup c with
    | some sign => ['\\', sign]
    | none =>
      let digits := Nat.toDigits 8 c.toNat
      '\\' :: List.replicate (3 - digits.length) '0' ++ digits

/-! ### The program -/

/-- Complains. -/
def complain (program text : Octets) : Shell Unit :=
  Shell.mutter (program ++ ": ".toList ++ text ++ ['\n'])

/-- Whether what is read is what is written to, and would never end. -/
def feedsItself (input output : Opened) (t : FileTree) : Bool :=
  match input.medium, output.medium with
  | .file names, .file others =>
    let size := match t.entry? names with
      | some (.file octets) => octets.length
      | _ => 0
    names == others && input.offset < (if output.appends then size else output.offset)
  | _, _ => false

/-- Copies what goes by a number: whether it went well, and where copying stands; nothing if the
output takes no more. -/
def copyOne (program path : Octets) (s : Style) (k : Place) (n : Nat) :
    Shell (Option (Bool × Place)) := do
  let w := (← get).world
  match w.opened? n, ← Shell.opened? 1 with
  | some input, some (_, output) =>
    if feedsItself input output w.tree then
      complain program (quotedName path ++ ": input file is output file".toList)
      return some (false, k)
    match input.unread w.tree with
    | .error e =>
      complain program (quotedName path ++ (": " ++ e.reason).toList)
      return some (false, k)
    | .ok octets =>
      modify fun state => { state with
        world := state.world.setOpened n (input.behind octets.length) }
      let (shown, k) := if s = {} then (octets, k) else s.shown k octets
      let failure? ← if shown.isEmpty then pure none else Shell.write 1 (Text.ofOctets shown)
      match failure? with
      | none => return some (true, k)
      | some e =>
        complain program ("write error: " ++ e.reason).toList
        return none
  | _, _ => return some (false, k)

/-- Copies files one after the other: the status. -/
def copyAll (program : Octets) (s : Style) : List Octets → Nat → Place → Shell Nat
  | [], status, k => do
    if ! k.held then return status
    let _ ← Shell.write 1 ['\r']
    return status
  | path :: rest, status, k => do
    let opened : Except AccessError Nat ← if path = ['-'] then
        match ← Shell.opened? 0 with
        | some (n, _) => pure (.ok n)
        | none => pure (.error badDescriptor)
      else Shell.openToRead path
    match opened with
    | .error e =>
      complain program (quotedName path ++ (": " ++ e.reason).toList)
      copyAll program s rest 1 k
    | .ok n => match ← copyOne program path s k n with
      | none => return 1
      | some (well, k) => copyAll program s rest (if well then status else 1) k

/-- Runs the program: its status. -/
def run (program : Octets) (arguments : List Octets) : Shell Nat := do
  match wishOf {} [] arguments with
  | .error text =>
    complain program text
    Shell.mutter ("Try '".toList ++ program ++ " --help' for more information.\n".toList)
    return 1
  | .ok (s, files) => copyAll program s (if files.isEmpty then [['-']] else files) 0 {}

end PackageCensus.Script.Copying
