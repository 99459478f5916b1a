import PackageCensus.Text.Utf8
import PackageCensus.Yaml.Scalar

/-! # Tokens of YAML documents

`scanTokens?` cuts a document into tokens: marks, names, scalars, and tokens that stand for no
text but for a change of depth.  Depth is told by columns: a sequence or a mapping in block style
begins where a line stands further right than what surrounds it, and ends where one stands further
left.

That a scalar is a key of a mapping shows only at the colon behind it.  The scanner therefore
keeps, for each collection in flow style that is open and for the block around them, the place of
what may turn out to be a key on the same line, and puts the key's tokens in there when the colon
comes. -/

namespace PackageCensus.Yaml

/-- The octets of a tag.  They need not be those of a text, but there is no zero among them. -/
abbrev Tag := List UInt8

namespace Tag

/-- The tag of a text. -/
def ofText (text : String) : Tag := Text.encode text.toList

/-- The tag that octets make: a zero ends it. -/
def ofOctets (octets : List UInt8) : Tag := octets.takeWhile (· != 0)

/-- The tag that is an exclamation mark alone. -/
def bare : Tag := ofText "!"

end Tag

/-- A token. -/
inductive Token where
  | versionDirective (major minor : Nat)
  | tagDirective (handle : List Char) (expansion : Tag)
  | documentStart
  | documentEnd
  | blockSequenceStart
  | blockMappingStart
  | blockEnd
  | flowSequenceStart
  | flowSequenceEnd
  | flowMappingStart
  | flowMappingEnd
  | blockEntry
  | flowEntry
  | key
  | value
  | alias (name : List Char)
  | anchor (name : List Char)
  | tag (handle : List Char) (suffix : Tag)
  | scalar (style : Style) (text : List Char)
deriving DecidableEq

/-- What may turn out to be a key. -/
structure KeyPlace where
  /-- Whether nothing but a key may stand there. -/
  required : Bool
  /-- The number of tokens before it. -/
  before : Nat
  line : Nat
  column : Nat
  offset : Nat

/-- Where the scanner stands. -/
structure Scanner where
  rest : List Placed
  /-- The tokens so far, the last first, and their number. -/
  tokens : List Token := []
  count : Nat := 0
  /-- The column of the innermost block, minus one outside all blocks. -/
  indent : Int := -1
  /-- The columns of the blocks around it. -/
  outer : List Int := []
  /-- The number of open collections in flow style. -/
  depth : Nat := 0
  /-- The possible key in the innermost open collection. -/
  possible : Option KeyPlace := none
  /-- The possible keys around it. -/
  outerKeys : List (Option KeyPlace) := []
  /-- Whether a key may begin here. -/
  keyAllowed : Bool := true

namespace Scanner

/-- Adds a token. -/
def push (s : Scanner) (t : Token) : Scanner :=
  { s with tokens := t :: s.tokens, count := s.count + 1 }

/-- Puts a token in behind the first `before` ones. -/
def pushAt (s : Scanner) (before : Nat) (t : Token) : Scanner :=
  let later := s.count - before
  { s with tokens := s.tokens.take later ++ t :: s.tokens.drop later, count := s.count + 1 }

/-- Whether a flow collection is open. -/
def inFlow (s : Scanner) : Bool := s.depth != 0

/-- The column of the next character. -/
def column (s : Scanner) : Nat := (s.rest.head?.map (·.column)).getD 0

/-! ### Depth -/

/-- The column of the innermost block that stands no further right than a column, the columns
around it, and the number of blocks inside it. -/
def blocksTo (column : Int) : Int → List Int → Int × List Int × Nat
  | indent, [] => if column < indent then (-1, [], 1) else (indent, [], 0)
  | indent, next :: outer =>
    if column < indent then
      let (indent, outer, n) := blocksTo column next outer
      (indent, outer, n + 1)
    else (indent, next :: outer, 0)

/-- Ends the blocks that stand further right than a column. -/
def unroll (s : Scanner) (column : Int) : Scanner :=
  if s.inFlow then s
  else
    let (indent, outer, n) := blocksTo column s.indent s.outer
    { s with
      indent, outer, tokens := List.replicate n .blockEnd ++ s.tokens, count := s.count + n }

/-- Begins a block at a column, if it stands further right than the innermost one; its token goes
behind the first `before` ones. -/
def roll (s : Scanner) (column before : Nat) (t : Token) : Scanner :=
  if s.inFlow then s
  else if s.indent < column then
    { s with indent := column, outer := s.indent :: s.outer }.pushAt before t
  else s

/-- Begins a block at the next character. -/
def rollHere (s : Scanner) (t : Token) : Scanner := s.roll s.column s.count t

/-! ### Keys -/

/-- Whether a possible key lies too far back to be one: on another line, or too long. -/
def isStale (p : Placed) (k : KeyPlace) : Bool := k.line < p.line || k.offset + 1024 < p.offset

/-- Gives up the keys that lie too far back; one that is required is an error. -/
def dropStale (s : Scanner) : Option Scanner :=
  match s.rest with
  | [] => some s
  | p :: _ =>
    let stale (k : Option KeyPlace) := k.any (isStale p)
    if (s.possible :: s.outerKeys).any fun k => stale k && k.any (·.required) then none
    else some
      { s with
        possible := if stale s.possible then none else s.possible,
        outerKeys := s.outerKeys.map fun k => if stale k then none else k }

/-- Gives up the possible key in the innermost collection. -/
def dropKey (s : Scanner) : Option Scanner :=
  if s.possible.any (·.required) then none else some { s with possible := none }

/-- Notes that the next token may turn out to be a key. -/
def noteKey (s : Scanner) : Option Scanner :=
  match s.rest with
  | [] => some s
  | p :: _ =>
    if s.keyAllowed then
      let required := ! s.inFlow && s.indent == p.column
      (dropKey s).map fun s =>
        { s with possible := some ⟨required, s.count, p.line, p.column, p.offset⟩ }
    else some s

/-! ### Between tokens -/

/-- A text behind blanks, comments, line ends and the marks that may begin a line, and whether a
key may begin there. -/
def skipBetween (inFlow keyAllowed : Bool) : List Placed → Bool × List Placed
  | [] => (keyAllowed, [])
  | p :: rest =>
    if isByteOrderMark p || p.char == ' ' || ((inFlow || ! keyAllowed) && p.char == '\t') then
      skipBetween inFlow keyAllowed rest
    else if isBreak p.char then skipBetween inFlow (! inFlow || keyAllowed) rest
    else if p.char == '#' then skipComment keyAllowed rest
    else (keyAllowed, p :: rest)
where
  /-- A text behind a comment and what follows it. -/
  skipComment (keyAllowed : Bool) : List Placed → Bool × List Placed
    | [] => (keyAllowed, [])
    | p :: rest =>
      if isBreak p.char then skipBetween inFlow (! inFlow || keyAllowed) rest
      else skipComment keyAllowed rest

/-! ### Names, tags and directives -/

/-- Reads the name of an anchor or an alias; a separator or a mark follows it. -/
def scanName (ps : List Placed) : Option (List Char × List Placed) :=
  let name := ps.takeWhile (isNameChar ·.char)
  let rest := ps.dropWhile (isNameChar ·.char)
  let ended := atSeparator rest || (rest.head?.map (·.char)).any fun c =>
    c == '?' || c == ':' || c == ',' || c == ']' || c == '\x7d' || c == '%' || c == '@' ||
      c == '\x60'
  if name.isEmpty || ! ended then none else some (name.map (·.char), rest)

/-- Whether a character may stand in a tag; some only between angle brackets. -/
def isTagChar (verbatim : Bool) (c : Char) : Bool :=
  isNameChar c || [';', '/', '?', ':', '@', '&', '=', '+', '$', '.', '!', '~', '*', '\'', '(',
    ')', '%'].contains c || (verbatim && (c == ',' || c == '[' || c == ']'))

/-- How many octets of a character follow its first one, as the highest bits of that one tell;
none if no character begins with it. -/
def octetsBehind? (first : Nat) : Option Nat :=
  if first < 0x80 then some 0
  else if first < 0xC0 then none
  else if first < 0xE0 then some 1
  else if first < 0xF0 then some 2
  else if first < 0xF8 then some 3
  else none

/-- The octets that a run of characters stands for, two digits behind a percent sign being one
octet.  The octets of a character of more than one, of which `more` are still to come, stand one
behind the other in that way. -/
def tagOctets : Nat → List Char → Option (List UInt8)
  | more, [] => if more = 0 then some [] else none
  | more, '%' :: h :: l :: rest => do
    let octet := (← hexDigit? h) * 16 + (← hexDigit? l)
    let more ←
      if more = 0 then octetsBehind? octet
      else if 0x80 ≤ octet ∧ octet < 0xC0 then some (more - 1)
      else none
    let octets ← tagOctets more rest
    return .ofNat octet :: octets
  | more, c :: rest => do
    guard (more = 0 ∧ c ≠ '%')
    let octets ← tagOctets 0 rest
    return String.utf8EncodeChar c ++ octets

/-- Reads the octets of a tag. -/
def scanTagOctets (verbatim : Bool) (ps : List Placed) : Option (List UInt8 × List Placed) := do
  let octets ← tagOctets 0 ((ps.takeWhile (isTagChar verbatim ·.char)).map (·.char))
  return (octets, ps.dropWhile (isTagChar verbatim ·.char))

/-- Reads an exclamation mark, and a name and a second mark if they follow. -/
def scanHandle : List Placed → Option (List Char × List Placed)
  | [] => none
  | p :: ps =>
    if p.char == '!' then
      let name := (ps.takeWhile (isNameChar ·.char)).map (·.char)
      match ps.dropWhile (isNameChar ·.char) with
      | q :: rest =>
        if q.char == '!' then some ('!' :: (name ++ ['!']), rest) else some ('!' :: name, q :: rest)
      | [] => some ('!' :: name, [])
    else none

/-- Reads a tag: verbatim between angle brackets, with a handle, or local. -/
def scanTag (inFlow : Bool) (ps : List Placed) : Option (Token × List Placed) := do
  let (t, rest) ← match ps with
    | a :: b :: rest =>
      if a.char == '!' && b.char == '<' then
        let (octets, rest) ← scanTagOctets true rest
        match rest with
        | c :: rest =>
          if ! octets.isEmpty && c.char == '>' then some (Token.tag [] (.ofOctets octets), rest)
          else none
        | [] => none
      else scanShort ps
    | _ => scanShort ps
  if atSeparator rest || (inFlow && (rest.head?.map (·.char)) == some ',') then some (t, rest)
  else none
where
  /-- Reads a tag that is not verbatim. -/
  scanShort (ps : List Placed) : Option (Token × List Placed) := do
    let (handle, rest) ← scanHandle ps
    let (octets, rest) ← scanTagOctets false rest
    if 2 ≤ handle.length && handle.getLast? == some '!' then
      if octets.isEmpty then none else some (.tag handle (.ofOctets octets), rest)
    else
      let suffix := Tag.ofOctets (Text.encode (handle.drop 1) ++ octets)
      if suffix.isEmpty then some (.tag [] Tag.bare, rest) else some (.tag ['!'] suffix, rest)

/-- Reads one part of a version, of at most nine digits. -/
def scanVersionPart (ps : List Placed) : Option (Nat × List Placed) :=
  let digits := ps.takeWhile (·.char.isDigit)
  if digits.isEmpty || 9 < digits.length then none
  else some (digits.foldl (fun n p => n * 10 + (p.char.toNat - 48)) 0,
    ps.dropWhile (·.char.isDigit))

/-- Reads the rest of a directive's line: blanks, and a comment. -/
def endDirective (t : Token) (ps : List Placed) : Option (Token × List Placed) :=
  match Yaml.skipComment (skipGaps ps) with
  | [] => some (t, [])
  | p :: rest => if isBreak p.char then some (t, rest) else none

/-- Reads a directive behind its percent sign. -/
def scanDirective (ps : List Placed) : Option (Token × List Placed) := do
  let name := String.ofList ((ps.takeWhile (isNameChar ·.char)).map (·.char))
  let rest := ps.dropWhile (isNameChar ·.char)
  if ! atSeparator rest then none
  else if name == "YAML" then
    let (major, rest) ← scanVersionPart (skipGaps rest)
    match rest with
    | dot :: rest =>
      if dot.char == '.' then
        let (minor, rest) ← scanVersionPart rest
        endDirective (.versionDirective major minor) rest
      else none
    | [] => none
  else if name == "TAG" then
    let (handle, rest) ← scanHandle (skipGaps rest)
    if handle != ['!'] && ! (2 ≤ handle.length && handle.getLast? == some '!') then none
    else match rest with
      | [] => none
      | gap :: _ =>
        if isGap gap.char then
          let (octets, rest) ← scanTagOctets true (skipGaps rest)
          if octets.isEmpty || ! atSeparator rest then none
          else endDirective (.tagDirective handle (.ofOctets octets)) rest
        else none
  else none

/-! ### One token -/

/-- Goes on behind some text. -/
def moveTo (s : Scanner) (rest : List Placed) (keyAllowed : Bool) : Scanner :=
  { s with rest, keyAllowed }

/-- Begins a collection in flow style. -/
def openFlow (s : Scanner) (t : Token) : Option Scanner := do
  let s ← noteKey s
  return { s with
    depth := s.depth + 1, possible := none, outerKeys := s.possible :: s.outerKeys,
    rest := s.rest.drop 1, keyAllowed := true }.push t

/-- Ends a collection in flow style. -/
def closeFlow (s : Scanner) (t : Token) : Option Scanner := do
  let s ← dropKey s
  let s := s.moveTo (s.rest.drop 1) false
  match s.outerKeys with
  | k :: outer =>
    if s.inFlow then
      return { s with depth := s.depth - 1, possible := k, outerKeys := outer }.push t
    else return s.push t
  | [] => return s.push t

/-- The line that begins or ends a document. -/
def documentMark (s : Scanner) (t : Token) : Option Scanner := do
  let s ← dropKey (s.unroll (-1))
  return (s.moveTo (s.rest.drop 3) false).push t

/-- The mark of an entry of a sequence. -/
def blockEntry (s : Scanner) : Option Scanner := do
  if ! s.inFlow && ! s.keyAllowed then none
  else
    let s ← dropKey (s.rollHere .blockSequenceStart)
    return (s.moveTo (s.rest.drop 1) true).push .blockEntry

/-- The mark of a key. -/
def keyMark (s : Scanner) : Option Scanner := do
  if ! s.inFlow && ! s.keyAllowed then none
  else
    let s ← dropKey (s.rollHere .blockMappingStart)
    return (s.moveTo (s.rest.drop 1) (! s.inFlow)).push .key

/-- The mark of a value. -/
def valueMark (s : Scanner) : Option Scanner :=
  match s.possible with
  | some k =>
    let s := (s.pushAt k.before .key).roll k.column k.before .blockMappingStart
    some (({ s with possible := none }.moveTo (s.rest.drop 1) false).push .value)
  | none =>
    if ! s.inFlow && ! s.keyAllowed then none
    else
      let s := s.rollHere .blockMappingStart
      some ((s.moveTo (s.rest.drop 1) (! s.inFlow)).push .value)

/-- A scalar that may be a key. -/
def flowScalar (s : Scanner) (style : Style) (scan : List Placed → Option Scanned) :
    Option Scanner := do
  let s ← noteKey s
  let scanned ← scan s.rest
  return (s.moveTo scanned.rest scanned.brokeLine).push (.scalar style scanned.text)

/-- A block of lines. -/
def blockScalar (s : Scanner) (style : Style) : Option Scanner := do
  let s ← dropKey s
  let scanned ← scanBlock (style == .literal) s.indent (s.rest.drop 1)
  return (s.moveTo scanned.rest true).push (.scalar style scanned.text)

/-- A name behind its mark. -/
def nameToken (s : Scanner) (t : List Char → Token) : Option Scanner := do
  let s ← noteKey s
  let (name, rest) ← scanName (s.rest.drop 1)
  return (s.moveTo rest false).push (t name)

/-- A tag. -/
def tagToken (s : Scanner) : Option Scanner := do
  let s ← noteKey s
  let (t, rest) ← scanTag s.inFlow s.rest
  return (s.moveTo rest false).push t

/-- A directive. -/
def directive (s : Scanner) : Option Scanner := do
  let s ← dropKey (s.unroll (-1))
  let (t, rest) ← scanDirective (s.rest.drop 1)
  return (s.moveTo rest false).push t

/-- Whether a plain scalar may begin with a character. -/
def beginsPlain (inFlow : Bool) (c : Char) (rest : List Placed) : Bool :=
  let marks := ['-', '?', ':', ',', '[', ']', '\x7b', '\x7d', '#', '&', '*', '!', '|', '>', '\'',
    '"', '%', '@', '\x60']
  (! isSeparator c && ! marks.contains c) ||
    (c == '-' && ! (rest.head?.map (·.char)).any isGap) ||
    (! inFlow && (c == '?' || c == ':') && ! atSeparator rest)

/-- Reads the token at the next character. -/
def token (s : Scanner) (p : Placed) (rest : List Placed) : Option Scanner :=
  let c := p.char
  let stands := s.inFlow || atSeparator rest
  if p.column == 0 && c == '%' then s.directive
  else if atIndicator '-' (p :: rest) then s.documentMark .documentStart
  else if atIndicator '.' (p :: rest) then s.documentMark .documentEnd
  else if c == '[' then s.openFlow .flowSequenceStart
  else if c == '\x7b' then s.openFlow .flowMappingStart
  else if c == ']' then s.closeFlow .flowSequenceEnd
  else if c == '\x7d' then s.closeFlow .flowMappingEnd
  else if c == ',' then
    (dropKey s).map fun s => (s.moveTo rest true).push .flowEntry
  else if c == '-' && atSeparator rest then s.blockEntry
  else if c == '?' && stands then s.keyMark
  else if c == ':' && stands then s.valueMark
  else if c == '*' then s.nameToken .alias
  else if c == '&' then s.nameToken .anchor
  else if c == '!' then s.tagToken
  else if c == '|' && ! s.inFlow then s.blockScalar .literal
  else if c == '>' && ! s.inFlow then s.blockScalar .folded
  else if c == '\'' then
    s.flowScalar .singleQuoted fun ps => scanQuoted true .word [] {} (ps.drop 1)
  else if c == '"' then
    s.flowScalar .doubleQuoted fun ps => scanQuoted false .word [] {} (ps.drop 1)
  else if beginsPlain s.inFlow c rest then
    s.flowScalar .plain (scanPlain s.inFlow (s.indent + 1).toNat .start [] {})
  else none

/-- The number of octets before the next character, or in the whole document at its end. -/
def position (length : Nat) (s : Scanner) : Nat :=
  match s.rest with
  | [] => length
  | p :: _ => min p.offset length

theorem position_le (length : Nat) (s : Scanner) : s.position length ≤ length := by
  unfold position
  split <;> omega

/-- Reads all tokens of a document of some length in octets.  A token that would take no text is
none. -/
def run (length : Nat) (s : Scanner) : Option (List Token) :=
  let (keyAllowed, rest) := skipBetween s.inFlow s.keyAllowed s.rest
  match rest with
  | [] => (dropKey (s.unroll (-1))).map (·.tokens.reverse)
  | p :: ps =>
    match (dropStale { s with rest := p :: ps, keyAllowed }).bind fun s =>
        (s.unroll p.column).token p ps with
    | none => none
    | some next =>
      if s.position length < next.position length then run length next else none
termination_by length - s.position length
decreasing_by
  have := next.position_le length
  omega

end Scanner

/-- The tokens of a document. -/
def scanTokens? (document : String) : Option (List Token) :=
  (place? document).bind fun rest =>
    ({ rest } : Scanner).run (Text.octetCount document.toList)

end PackageCensus.Yaml
