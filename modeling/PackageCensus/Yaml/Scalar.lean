import PackageCensus.Yaml.Text

/-! # Scalars in YAML documents

A scalar is plain, quoted in one of two ways, or a block of lines.  Within the first three, blanks
around line ends fold: one line end becomes a space, and each further one stays.  In a block,
lines are kept or folded as its header says.

Each kind is read one character at a time by a machine with a few modes, so that every reading
ends with the text. -/

namespace PackageCensus.Yaml

/-- How a scalar is written. -/
inductive Style where
  | plain
  | singleQuoted
  | doubleQuoted
  | literal
  | folded
deriving DecidableEq, Repr

/-- The text of a scalar, how it is written, and what follows. -/
structure Scanned where
  text : List Char
  /-- Whether a line end was read behind the last character of the scalar. -/
  brokeLine : Bool
  rest : List Placed

/-! ### Folding -/

/-- The blanks between two words of a scalar. -/
structure Gap where
  /-- Blanks before the first line end, the last first. -/
  spaces : List Char := []
  /-- Whether there is a line end. -/
  broken : Bool := false
  /-- The first line end, unless it was escaped. -/
  first : Option Char := none
  /-- The further line ends, the last first. -/
  further : List Char := []

/-- A gap with one more blank or line end. -/
def Gap.add (g : Gap) (c : Char) : Gap :=
  if isBreak c then
    if g.broken then { g with further := c :: g.further }
    else { spaces := [], broken := true, first := some c }
  else if g.broken then g
  else { g with spaces := c :: g.spaces }

/-- What a gap comes to in the text of a scalar. -/
def Gap.fold (g : Gap) : List Char :=
  if ! g.broken then g.spaces.reverse
  else if g.first == some '\n' then
    if g.further.isEmpty then [' '] else g.further.reverse
  else g.first.toList ++ g.further.reverse

/-! ### Plain scalars -/

/-- Where the reading of a plain scalar stands. -/
inductive PlainMode where
  /-- At the start. -/
  | start
  /-- In a word. -/
  | word
  /-- Between words. -/
  | gap

/-- Whether a character ends a plain scalar inside a flow collection. -/
def isFlowMark (c : Char) : Bool :=
  c == ',' || c == '[' || c == ']' || c == '\x7b' || c == '\x7d'

/-- Reads a plain scalar, given the text so far in reverse.  Lines that go on with it stand at
the column `indent` or further right, unless it stands in a flow collection. -/
def scanPlain (inFlow : Bool) (indent : Nat) :
    PlainMode → List Char → Gap → List Placed → Option Scanned
  | _, text, gap, [] => some ⟨text.reverse, gap.broken, []⟩
  | mode, text, gap, p :: rest =>
    let c := p.char
    if isSeparator c then
      if gap.broken && p.column < indent && c == '\t' then none
      else scanPlain inFlow indent .gap text (gap.add c) rest
    else
      let ends := match mode with
        | .start => atDocumentIndicator (p :: rest) || c == '#'
        | .word => false
        | .gap =>
          (! inFlow && gap.broken && p.column < indent) || atDocumentIndicator (p :: rest) ||
            c == '#'
      let next := rest.head?.map (·.char)
      if ends then some ⟨text.reverse, gap.broken, p :: rest⟩
      else if inFlow && c == ':' && next.any (fun d => isFlowMark d || d == '?') then none
      else if (c == ':' && atSeparator rest) || (inFlow && isFlowMark c) then
        some ⟨text.reverse, gap.broken, p :: rest⟩
      else scanPlain inFlow indent .word (c :: (gap.fold.reverse ++ text)) {} rest

/-! ### Quoted scalars -/

/-- Where the reading of a quoted scalar stands. -/
inductive QuotedMode where
  | word
  | gap
  /-- After a single quote that ends the scalar or begins a doubled one. -/
  | quote
  /-- After a backslash. -/
  | escape
  /-- In a number in base sixteen, with the digits still to come, at least one. -/
  | number (more value : Nat)

/-- The character that a letter after a backslash stands for. -/
def escapeChar? : Char → Option Char
  | '0' => some '\x00'
  | 'a' => some '\x07'
  | 'b' => some '\x08'
  | 't' | '\t' => some '\t'
  | 'n' => some '\n'
  | 'v' => some '\x0b'
  | 'f' => some '\x0c'
  | 'r' => some '\r'
  | 'e' => some '\x1b'
  | ' ' => some ' '
  | '"' => some '"'
  | '/' => some '/'
  | '\\' => some '\\'
  | 'N' => some '\u0085'
  | '_' => some '\u00a0'
  | 'L' => some '\u2028'
  | 'P' => some '\u2029'
  | _ => none

/-- The number of digits that a letter after a backslash announces. -/
def escapeDigits? : Char → Option Nat
  | 'x' => some 2
  | 'u' => some 4
  | 'U' => some 8
  | _ => none

/-- The value of a digit in base sixteen. -/
def hexDigit? (c : Char) : Option Nat :=
  if '0' ≤ c ∧ c ≤ '9' then some (c.toNat - 48)
  else if 'a' ≤ c ∧ c ≤ 'f' then some (c.toNat - 87)
  else if 'A' ≤ c ∧ c ≤ 'F' then some (c.toNat - 55)
  else none

/-- Reads a quoted scalar behind its opening quote, given the text so far in reverse. -/
def scanQuoted (single : Bool) :
    QuotedMode → List Char → Gap → List Placed → Option Scanned
  | .quote, text, _, [] => some ⟨text.reverse, false, []⟩
  | _, _, _, [] => none
  | mode, text, gap, p :: rest =>
    let c := p.char
    match mode with
    | .quote =>
      if c == '\'' then scanQuoted single .word (c :: text) {} rest
      else some ⟨text.reverse, false, p :: rest⟩
    | .escape =>
      if isBreak c then scanQuoted single .gap text { broken := true } rest
      else match escapeChar? c, escapeDigits? c with
        | some plain, _ => scanQuoted single .word (plain :: text) {} rest
        | none, some more => scanQuoted single (.number more 0) text {} rest
        | none, none => none
    | .number more value =>
      match hexDigit? c with
      | none => none
      | some d =>
        let value := value * 16 + d
        if 1 < more then scanQuoted single (.number (more - 1) value) text {} rest
        else if (0xD800 ≤ value && value ≤ 0xDFFF) || 0x10FFFF < value then none
        else scanQuoted single .word (Char.ofNat value :: text) {} rest
    | mode =>
      if isSeparator c then scanQuoted single .gap text (gap.add c) rest
      else
        let text := gap.fold.reverse ++ text
        let between := match mode with
          | .gap => true
          | _ => false
        if between && atDocumentIndicator (p :: rest) then none
        else if single && c == '\'' then scanQuoted single .quote text {} rest
        else if ! single && c == '"' then some ⟨text.reverse, false, rest⟩
        else if ! single && c == '\\' then scanQuoted single .escape text {} rest
        else scanQuoted single .word (c :: text) {} rest

/-! ### Blocks -/

/-- What becomes of the line ends at the end of a block. -/
inductive Chomping where
  | strip
  | clip
  | keep
deriving DecidableEq, Repr

/-- The header of a block. -/
structure BlockHeader where
  literal : Bool
  chomping : Chomping := .clip
  /-- The depth of the lines below what surrounds the block, if it is given. -/
  increment : Option Nat := none

/-- Where the reading of a block stands. -/
structure BlockState where
  /-- The text so far, in reverse. -/
  text : List Char := []
  /-- The column of the lines; zero until it is known. -/
  indent : Nat
  /-- The rightmost column reached by blanks while the column of the lines is not known. -/
  reached : Nat := 0
  /-- Whether a line is being read, and not the blanks before one. -/
  inLine : Bool := false
  /-- The end of the last line. -/
  lineEnd : Option Char := none
  /-- The ends of the empty lines after it, in reverse. -/
  emptyLines : List Char := []
  /-- Whether the last line began with a blank. -/
  indentedLine : Bool := false

/-- The text of a block at its end. -/
def BlockState.finish (s : BlockState) (chomping : Chomping) : List Char :=
  let body := s.text.reverse
  match chomping with
  | .strip => body
  | .clip => body ++ s.lineEnd.toList
  | .keep => body ++ s.lineEnd.toList ++ s.emptyLines.reverse

/-- The state at the start of a line whose first character is given. -/
def BlockState.beginLine (s : BlockState) (literal : Bool) (c : Char) : BlockState :=
  let joined :=
    if ! literal && s.lineEnd == some '\n' && ! s.indentedLine && ! isGap c then
      if s.emptyLines.isEmpty then ' ' :: s.text else s.emptyLines ++ s.text
    else s.emptyLines ++ (s.lineEnd.toList ++ s.text)
  { s with
    text := c :: joined, inLine := true, lineEnd := none, emptyLines := [],
    indentedLine := isGap c }

/-- Reads the lines of a block, `least` being the leftmost column that they may have. -/
def scanLines (header : BlockHeader) (least : Nat) :
    BlockState → List Placed → Option Scanned
  | s, [] => some ⟨s.finish header.chomping, false, []⟩
  | s, p :: rest =>
    let c := p.char
    if s.inLine then
      if isBreak c then
        scanLines header least { s with inLine := false, lineEnd := some c } rest
      else scanLines header least { s with text := c :: s.text } rest
    else
      let early := s.indent == 0 || p.column < s.indent
      if early && c == ' ' then scanLines header least s rest
      else if early && c == '\t' then none
      else
        let reached := max s.reached p.column
        if isBreak c then
          scanLines header least { s with reached, emptyLines := c :: s.emptyLines } rest
        else
          let indent := if s.indent == 0 then max reached least else s.indent
          if p.column == indent then
            scanLines header least ({ s with reached, indent }.beginLine header.literal c) rest
          else some ⟨({ s with indent }).finish header.chomping, false, p :: rest⟩

/-- Reads the sign in a header, if there is one. -/
def scanChomping : List Placed → Option Chomping × List Placed
  | p :: rest =>
    if p.char == '+' then (some .keep, rest)
    else if p.char == '-' then (some .strip, rest)
    else (none, p :: rest)
  | [] => (none, [])

/-- Reads the depth in a header, if there is one; it is not zero. -/
def scanIncrement : List Placed → Option (Option Nat × List Placed)
  | p :: rest =>
    if p.char == '0' then none
    else if p.char.isDigit then some (some (p.char.toNat - 48), rest)
    else some (none, p :: rest)
  | [] => some (none, [])

/-- A text behind the blanks at its start. -/
def skipGaps (ps : List Placed) : List Placed := ps.dropWhile (isGap ·.char)

/-- A text behind a comment at its start. -/
def skipComment : List Placed → List Placed
  | p :: rest => if p.char == '#' then rest.dropWhile (! isBreak ·.char) else p :: rest
  | [] => []

/-- Reads the header of a block behind its mark: a sign and a depth in either order. -/
def scanHeader (literal : Bool) (ps : List Placed) : Option (BlockHeader × List Placed) := do
  match scanChomping ps with
  | (some chomping, ps) =>
    let (increment, ps) ← scanIncrement ps
    return ({ literal, chomping, increment }, ps)
  | (none, ps) =>
    let (increment, ps) ← scanIncrement ps
    match increment with
    | none => return ({ literal }, ps)
    | some _ =>
      let (chomping, ps) := scanChomping ps
      return ({ literal, chomping := chomping.getD .clip, increment }, ps)

/-- Reads a block behind its mark.  `indent` is the column of what surrounds it, or minus one. -/
def scanBlock (literal : Bool) (indent : Int) (ps : List Placed) : Option Scanned := do
  let (header, ps) ← scanHeader literal ps
  match skipComment (skipGaps ps) with
  | [] => some ⟨[], false, []⟩
  | p :: rest =>
    if isBreak p.char then
      let known := match header.increment with
        | some n => (max indent 0).toNat + n
        | none => 0
      scanLines header (max (indent + 1) 1).toNat { indent := known } rest
    else none

end PackageCensus.Yaml
