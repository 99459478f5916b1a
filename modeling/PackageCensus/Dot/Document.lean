import PackageCensus.Dot.Label
import PackageCensus.Graph.Storage
import PackageCensus.Text.Utf8

/-! # Graphs as dot documents

A graph is drawn from left to right: three lines of preamble, a line for each package in order of
ids, a line for each edge, and a closing brace.  Names of nodes are made of letters, digits and
underscores, labels stand between double quotes with control characters written as escapes, so
that nothing in an id or a template can end a statement.

`writeTo` gives the document to a writer, which takes octets and may refuse them: statement by
statement, and no more of it after a refusal.  `write` has a buffer of some size as its writer. -/

namespace PackageCensus.Dot

open Text (hexDigits)

/-! ### Names and labels -/

/-- How a character of an id stands in the name of a node. -/
def nameChar (c : Char) : Char := if c.isAlphanum then c else '_'

/-- The name of the node for an id. -/
def nodeName (id : String) : List Char := id.toList.map nameChar

/-- The digits of a number in base sixteen, with zeros before them up to a width. -/
def paddedHex (width n : Nat) : List Char :=
  let digits := hexDigits n
  List.replicate (width - digits.length) '0' ++ digits

/-- Whether a character is a control character, of either block. -/
def isControl (c : Char) : Bool :=
  let n := c.toNat
  n < 0x20 || (0x7F ≤ n && n < 0xA0)

/-- How a character stands in a label. -/
def labelChar (c : Char) : List Char :=
  if c = '"' then ['\\', '"']
  else if c = '\\' then ['\\', '\\']
  else if c = '\n' then ['\\', 'n']
  else if c = '\r' then ['\\', 'r']
  else if c = '\t' then ['\\', 't']
  else if isControl c then
    if c.toNat < 0x80 then ['\\', 'x'] ++ paddedHex 2 c.toNat
    else ['\\', 'u'] ++ paddedHex 4 c.toNat
  else [c]

/-- A label between double quotes. -/
def quote (label : List Char) : List Char := '"' :: (label.flatMap labelChar ++ ['"'])

/-! ### Statements -/

/-- The lines before the nodes. -/
def preamble : List (List Char) :=
  ["digraph G \x7b".toList, "    node [shape=rectangle];".toList, "    rankdir=LR;".toList]

/-- The line that declares a node. -/
def nodeLine (label : Label) (p : Package) : List Char :=
  "    ".toList ++ nodeName p.id ++ " [label=".toList ++ quote (label.render p) ++ "];".toList

/-- The line that draws an edge. -/
def edgeLine (e : String × String) : List Char :=
  "    ".toList ++ nodeName e.1 ++ " -> ".toList ++ nodeName e.2 ++ ";".toList

/-- The lines that draw packages and edges. -/
def draw (label : Label) (packages : List Package) (edges : List (String × String)) :
    List (List Char) :=
  preamble ++ packages.map (nodeLine label) ++ edges.map edgeLine ++ [['\x7d']]

/-- The lines of the document. -/
def lines (label : Label) (g : Graph) : List (List Char) := draw label g.packages g.edges

/-- A line with its line feed. -/
def endLine (line : List Char) : List Char := line ++ ['\n']

/-- The text of the document. -/
def document (label : Label) (g : Graph) : List Char := (lines label g).flatMap endLine

/-- The document as a string. -/
def render (label : Label) (g : Graph) : String := String.ofList (document label g)

/-- The document of a graph in storage. -/
def renderStored (label : Label) (s : Storage) : String :=
  String.ofList ((draw label s.sorted s.edges).flatMap endLine)

/-! ### Writers -/

/-- Something that takes octets, a piece at a time, and may refuse one.  Its state is what becomes of
it, also by a piece that it refuses. -/
abbrev Writer (σ ε : Type) := List UInt8 → ExceptT ε (StateM σ) Unit

variable {σ ε : Type}

/-- Writes a statement, which is made of some texts. -/
def Writer.statement (w : Writer σ ε) (texts : List (List Char)) : ExceptT ε (StateM σ) Unit :=
  texts.forM fun text => w (Text.encode text)

/-- The texts that make up the line of a node. -/
def nodeTexts (label : Label) (p : Package) : List (List Char) :=
  ["    ".toList, nodeName p.id, " [label=".toList, quote (label.render p), "];\n".toList]

/-- The texts that make up the line of an edge. -/
def edgeTexts (e : String × String) : List (List Char) :=
  ["    ".toList, nodeName e.1, " -> ".toList, nodeName e.2, ";\n".toList]

/-- Writes the document statement by statement.  The first piece that is refused ends it. -/
def writeTo (w : Writer σ ε) (label : Label) (g : Graph) : ExceptT ε (StateM σ) Unit := do
  preamble.forM fun line => w.statement [endLine line]
  g.packages.forM fun p => w.statement (nodeTexts label p)
  g.edges.forM fun e => w.statement (edgeTexts e)
  w.statement [endLine ['\x7d']]

/-- Why a document could not be written. -/
inductive WriteError where
  | noRoom
deriving DecidableEq, Repr

/-- The wording of the error. -/
def WriteError.message : WriteError → String
  | noRoom => "failed to write graph: failed to write whole buffer"

/-- Octets, and room for so many more. -/
structure Buffer where
  octets : List UInt8
  room : Nat
deriving DecidableEq, Repr

/-- Writes into a buffer.  The piece that does not fit is taken as far as it goes. -/
def Buffer.writer : Writer Buffer WriteError := fun piece => .mk fun b =>
  (if piece.length ≤ b.room then .ok () else .error .noRoom,
    ⟨b.octets ++ piece.take b.room, b.room - piece.length⟩)

/-- Writes the document into a buffer that has room for so many octets. -/
def write (room : Nat) (label : Label) (g : Graph) : List UInt8 × Except WriteError Unit :=
  let (result, b) := (writeTo Buffer.writer label g).run.run ⟨[], room⟩
  (b.octets, result)

end PackageCensus.Dot
