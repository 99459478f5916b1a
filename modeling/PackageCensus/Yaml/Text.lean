/-! # Text of YAML documents

A document is read as characters with their places, after its line ends have been made one.  The
classes of characters that end words, lines and names stand here too. -/

namespace PackageCensus.Yaml

/-- A character and where it stands. -/
structure Placed where
  char : Char
  line : Nat
  column : Nat
  /-- The number of octets before it. -/
  offset : Nat

/-- Whether a document may hold a character. -/
def isAllowed (c : Char) : Bool :=
  let n := c.toNat
  n == 0x09 || n == 0x0A || n == 0x0D || (0x20 ≤ n && n ≤ 0x7E) || n == 0x85 ||
    (0xA0 ≤ n && n ≤ 0xFFFD) || 0x10000 ≤ n

/-- Whether a character ends a line, line ends having been made one. -/
def isBreak (c : Char) : Bool := c == '\n' || c == '\u2028' || c == '\u2029'

/-- Whether a character is a space or a tabulation. -/
def isGap (c : Char) : Bool := c == ' ' || c == '\t'

/-- Whether a character separates words. -/
def isSeparator (c : Char) : Bool := isGap c || isBreak c

/-- Whether a character may stand in the name of an anchor. -/
def isNameChar (c : Char) : Bool := c.isAlphanum || c == '_' || c == '-'

/-- A text whose line ends are all line feeds: a carriage return, alone or with a line feed after
it, and the next-line character count as one. -/
def unifyBreaks : List Char → List Char
  | '\r' :: '\n' :: rest => '\n' :: unifyBreaks rest
  | c :: rest => (if c == '\r' || c == '\u0085' then '\n' else c) :: unifyBreaks rest
  | [] => []

/-- The characters of a text with their places, the first standing at the given one. -/
def placeFrom (line column offset : Nat) : List Char → List Placed
  | [] => []
  | c :: rest =>
    ⟨c, line, column, offset⟩ ::
      (if isBreak c then placeFrom (line + 1) 0 (offset + c.utf8Size) rest
      else placeFrom line (column + 1) (offset + c.utf8Size) rest)

/-- The characters of a document with their places; none if the document holds a character that
it may not. -/
def place? (document : String) : Option (List Placed) :=
  let cs := document.toList
  if cs.all isAllowed then some (placeFrom 0 0 0 (unifyBreaks cs)) else none

/-- Whether a line begins with a byte order mark.  It takes a column, but means nothing. -/
def isByteOrderMark (p : Placed) : Bool := p.column == 0 && p.char == '\uFEFF'

/-- Whether a text is at its end or at a separator. -/
def atSeparator : List Placed → Bool
  | [] => true
  | p :: _ => isSeparator p.char

/-- Whether a line begins with three equal marks that stand alone. -/
def atIndicator (mark : Char) : List Placed → Bool
  | a :: b :: c :: rest =>
    a.column == 0 && a.char == mark && b.char == mark && c.char == mark && atSeparator rest
  | _ => false

/-- Whether a line begins or ends a document. -/
def atDocumentIndicator (ps : List Placed) : Bool := atIndicator '-' ps || atIndicator '.' ps

end PackageCensus.Yaml
