import PackageCensus.Host.Script.Expression
import PackageCensus.Host.Script.Field

/-! # Words in use

What the words of a command come to: the values of parameters, the output of scripts and the values
of expressions go in at their places.  Where a word can come to several, values outside of quotes
are cut into fields, and a field that is a pattern for the names of files comes to these names.

The functions count down a number that no word is long enough to use up, and take the way in which
the output of a statement is found. -/

namespace PackageCensus.Script

/-- Runs a statement and gives what it writes. -/
abbrev Substitution := Option Statement → Shell Octets

/-- How a word is put together. -/
structure Usage where
  /-- Whether it can come to several words. -/
  full : Bool := false
  /-- Whether a tilde at its start stands for a directory. -/
  tilde : Bool := false
  /-- Whether tildes do so behind colons and the first equals sign. -/
  inValue : Bool := false
  /-- Whether the equals sign has come. -/
  equalsSeen : Bool := false
  /-- Whether it stands in the place of a value, so that its own text is cut as well. -/
  inPlace : Bool := false
  quoted : Bool := false

/-- The glyphs of a value. -/
def valueGlyphs (quoted : Bool) (cs : Octets) : List Glyph :=
  cs.map fun c => if quoted && inertInValues.contains c then .exact c else .plain c

namespace Shell

/-! ### Tildes -/

/-- The glyphs of a text in which tildes stand for directories: at the start if told, and in
values; `ends` tells whether the word ends behind it, and the last component whether an equals sign
has been seen. -/
def withTildes (p : Process) (inValue ends : Bool) :
    Nat → Bool → Bool → List Char → List Glyph × Bool
  | 0, _, seen, cs => (cs.map .plain, seen)
  | _, _, seen, [] => ([], seen)
  | n + 1, begins, seen, c :: rest =>
    let alone := match rest with
      | [] => ends
      | d :: _ => d == '/' || (inValue && d == ':')
    match if begins && c == '~' && alone then p.value? "HOME".toList else none with
    | some home =>
      let (more, seen) := withTildes p inValue ends n false seen rest
      (valueGlyphs true home ++ more, seen)
    | none =>
      let colon := inValue && (c == ':' || (c == '=' && ! seen))
      let (more, seen) := withTildes p inValue ends n colon (seen || (inValue && c == '=')) rest
      (.plain c :: more, seen)

/-! ### Parameters -/

/-- The text between arguments that are put in one word, and whether they are cut there. -/
def joint (p : Process) (u : Usage) (name : Octets) : Octets :=
  let first := match p.value? "IFS".toList with
    | some separators => separators.take 1
    | none => [' ']
  if u.full && u.quoted && name = ['@'] then ['\x00']
  else if u.full && ! u.quoted then
    if (p.value? "IFS".toList).isSome then ['\x00'] else [' ']
  else first

/-- The value of a parameter, if it has one. -/
def parameter? (p : Process) (u : Usage) (name : Octets) : Option Octets :=
  match name with
  | ['$'] => some (numberText p.root)
  | ['?'] => some (numberText p.status)
  | ['#'] => some (numberText p.arguments.length)
  | ['!'] => p.jobs.head?.map fun job => numberText job.1
  | ['@'] | ['*'] => some ((joint p u name).intercalate p.arguments)
  | _ => match digits? name with
    | some 0 => some p.name
    | some (n + 1) => p.arguments[n]?
    | none => p.value? name

/-- The segment of the value of a parameter. -/
def valueSegment (p : Process) (u : Usage) (name : Octets) (glyphs : List Glyph) : Segment :=
  let cutting : Cutting :=
    if ! u.quoted then .atSeparators
    else if name = ['@'] && ! p.arguments.isEmpty then .betweenArguments
    else .nowhere
  ⟨glyphs, cutting⟩

/-- A value without what a pattern stands for. -/
def trimmed (fromEnd longest : Bool) (pattern value : List Glyph) : List Glyph :=
  let p := Pattern.ofText (Glyph.pattern pattern)
  let text := Glyph.text value
  if fromEnd then match p.frontOfEnd? longest text with
    | some n => value.take n
    | none => value
  else match p.beginning? longest text with
    | some n => value.drop n
    | none => value

/-- Ends the script for want of a value. -/
def demand {α : Type} (name text : Octets) : Shell α := fail (name ++ ": ".toList ++ text)

/-- A text without the line ends at its end. -/
def withoutLineEnds (cs : Octets) : Octets := (cs.reverse.dropWhile (· == '\n')).reverse

/-! ### Pieces -/

mutual

/-- Puts pieces together; `inQuotes` tells whether quotes are open within the word. -/
def expand (run : Substitution) (n : Nat) (u : Usage) (inQuotes : Bool) (pieces : List Piece) :
    Shell (List Segment) :=
  match n, pieces with
  | 0, _ | _, [] => return []
  | n + 1, piece :: rest =>
    let inner := { u with tilde := false, quoted := u.quoted || inQuotes }
    match piece with
    | .text cs => do
      let p ← read id
      let ends := rest.isEmpty
      let (glyphs, equalsSeen) := withTildes p u.inValue ends cs.length u.tilde u.equalsSeen cs
      let cutting : Cutting :=
        if u.inPlace && ! u.quoted && ! inQuotes then .atSeparators else .nowhere
      let more ← expand run n { u with tilde := false, equalsSeen } inQuotes rest
      return ⟨glyphs, cutting⟩ :: more
    | .exact c => do
      let more ← expand run n { u with tilde := false } inQuotes rest
      return ⟨[.exact c], .nowhere⟩ :: more
    | .quote => match inQuotes, rest with
      | false, .parameter ['@'] .value false [] :: .quote :: rest => do
        let segments ← place run n { inner with quoted := true } ['@'] .value false []
        let more ← expand run n { u with tilde := false } false rest
        return segments ++ more
      | _, rest => do
        let more ← expand run n { u with tilde := false } (! inQuotes) rest
        return ⟨[.quote], .nowhere⟩ :: more
    | .parameter name treatment orEmpty word => do
      let segments ← place run n inner name treatment orEmpty word
      let more ← expand run n { u with tilde := false } inQuotes rest
      return segments ++ more
    | .output body => do
      let text := withoutLineEnds ((← run body).filter (· != '\x00'))
      let more ← expand run n { u with tilde := false } inQuotes rest
      return ⟨valueGlyphs inner.quoted text,
        if inner.quoted then .nowhere else .atSeparators⟩ :: more
    | .number word => do
      let source := Glyph.text (glyphsOf (← expand run n {} false word))
      let a ← Calculation.value ⟨source⟩
      let more ← expand run n { u with tilde := false } inQuotes rest
      return ⟨valueGlyphs inner.quoted (numberText a),
        if inner.quoted then .nowhere else .atSeparators⟩ :: more

/-- What goes into the place of a parameter. -/
def place (run : Substitution) (n : Nat) (u : Usage) (name : Octets) (treatment : Treatment)
    (orEmpty : Bool) (word : List Piece) : Shell (List Segment) :=
  match n with
  | 0 => return []
  | n + 1 => do
    if treatment = .unknown then fail "Bad substitution".toList
    let p ← read id
    let value? := parameter? p u name
    let absent := value?.all fun value => orEmpty && value.isEmpty
    let value := valueGlyphs u.quoted (value?.getD [])
    let segment := valueSegment p u name
    let needed : Shell Unit := do
      if absent && p.has 'u' then demand name "parameter not set".toList
    match treatment with
    | .unknown => return []
    | .value =>
      needed
      return if absent then [] else [segment value]
    | .length =>
      needed
      let text := (parameter? p { u with full := false } name).getD []
      return [segment (valueGlyphs u.quoted (numberText text.length))]
    | .fallback =>
      if absent then expand run n { u with tilde := true, inPlace := true } false word
      else return [segment value]
    | .replacement =>
      if absent then return [segment []]
      else expand run n { u with tilde := true, inPlace := true } false word
    | .assignment =>
      if absent then
        let text := Glyph.text (glyphsOf (← expand run n { tilde := true } false word))
        give name text
        place run n u name .value false []
      else return [segment value]
    | .demand =>
      if absent then
        let text := Glyph.text (glyphsOf (← expand run n { tilde := true } false word))
        demand name (if word.isEmpty then
          ("parameter not set" ++ if orEmpty then " or null" else "").toList else text)
      else return [segment value]
    | .trimmed fromEnd longest =>
      needed
      if absent then return []
      let pattern := glyphsOf (← expand run n { tilde := true } false word)
      return [segment (trimmed fromEnd longest pattern value)]

end

/-- The number of steps that no word is long enough to use up. -/
def wordLimit : Nat := 100000000

/-! ### Names of files -/

/-- Whether a bracket at the start of a pattern for names is closed behind it. -/
def isClosed : Nat → List Char → Bool
  | 0, _ => false
  | n + 1, cs => match (if cs.head? = some '\\' then cs.drop 1 else cs) with
    | [] => false
    | _ :: rest => if rest.head? = some ']' then true else isClosed n rest

/-- Whether a name without slashes is a pattern. -/
def isPattern : List Char → Bool
  | '\\' :: _ :: rest => isPattern rest
  | c :: rest =>
    c == '*' || c == '?' ||
      (c == '[' && isClosed rest.length (if rest.head? = some '!' then rest.drop 1 else rest)) ||
      isPattern rest
  | [] => false

/-- The parts of a pattern between its slashes. -/
def patternParts : List Char → List (List Char)
  | [] => [[]]
  | '\\' :: '/' :: rest | '/' :: rest => [] :: patternParts rest
  | '\\' :: c :: rest => match patternParts rest with
    | part :: parts => ('\\' :: c :: part) :: parts
    | [] => [['\\', c]]
  | c :: rest => match patternParts rest with
    | part :: parts => (c :: part) :: parts
    | [] => [[c]]

/-- A pattern without its backslashes. -/
def withoutEscapes : List Char → List Char
  | '\\' :: c :: rest => c :: withoutEscapes rest
  | c :: rest => c :: withoutEscapes rest
  | [] => []

/-- The paths that the parts of a pattern stand for, behind the path in front of them. -/
def pathsFor (t : FileTree) (directory : List FileName) (front : Octets) :
    List Octets → List (List Char) → List Octets
  | plain, [] =>
    let path := front ++ ['/'].intercalate (plain.reverse.map withoutEscapes)
    match t.locate directory path with
    | .ok _ => [path]
    | .error _ => []
  | plain, part :: parts =>
    if ! isPattern part then pathsFor t directory front (part :: plain) parts
    else
      let front := front ++ plain.reverse.flatMap fun part => withoutEscapes part ++ ['/']
      let names := match t.locate directory (if front.isEmpty then ['.'] else front) with
        | .ok (names, .directory) => ['.'] :: ['.', '.'] :: t.children names
        | _ => []
      let dots := (withoutEscapes part).head? = some '.'
      let fitting := names.filter fun name =>
        (dots || name.head? != some '.') && (Pattern.ofText part).fits name
      if parts.isEmpty then fitting.map (front ++ ·)
      else fitting.flatMap fun name =>
        pathsFor t directory (front ++ name ++ ['/']) [] parts

/-- The words that a field comes to: the paths that it stands for, if there are some. -/
def filesFor (field : List Glyph) : Shell (List Octets) := do
  let s ← get
  let text := Glyph.text field
  let signs := text.any fun c => c == '*' || c == '?' || c == '['
  let parts := patternParts (Glyph.pattern field)
  if s.process.has 'f' || ! signs || ! parts.any isPattern then return [text]
  let paths := pathsFor s.world.tree s.process.directory [] [] parts
  return if paths.isEmpty then [text] else paths.mergeSort nameBefore

/-! ### Words -/

/-- The words that a word comes to. -/
def expandWord (run : Substitution) (w : Word) : Shell (List Octets) := do
  let segments ← expand run wordLimit { full := true, tilde := true } false w
  let separators := (← read id).separators
  let words ← (fieldsOf separators none segments).mapM filesFor
  return words.flatten

/-- The text that a word comes to where it stays one word. -/
def expandText (run : Substitution) (u : Usage) (w : Word) : Shell Octets := do
  return Glyph.text (glyphsOf (← expand run wordLimit u false w))

/-- The pattern that a word is. -/
def expandPattern (run : Substitution) (w : Word) : Shell Pattern := do
  let segments ← expand run wordLimit { tilde := true } false w
  return .ofText (Glyph.pattern (glyphsOf segments))

/-- The text that a text with places comes to. -/
def expandDocument (run : Substitution) (w : Word) : Shell Octets :=
  expandText run { quoted := true } w

end Shell
end PackageCensus.Script
