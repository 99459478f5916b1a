import PackageCensus.Host.Access
import PackageCensus.Log
import PackageCensus.Symbol.Line
import PackageCensus.Text.Utf8

/-! # Symbol tables

A table is a stream of octets with one symbol on each line.  It is read line after line, each up to
its line feed, which is dropped together with one carriage return before it; what is left is
decoded leniently and parsed.  The first line that does not parse ends the reading, and so does a
stream that breaks off: what stands after its last line feed is then never judged.

`read` keeps apart what becomes of the lines: the symbols kept, those of the compiler's own
tables, and the number of lines without a name.  `symbols` is the table, or the error. -/

namespace PackageCensus.SymbolTable

open Text (encode decodeLossy)

/-- Why a stream is not a symbol table. -/
inductive TableError where
  | malformedLine (number : Nat) (source : LineError)
  | stream (failure : AccessError)
deriving DecidableEq, Repr

/-- The wording of an error. -/
def TableError.message : TableError → String
  | malformedLine number source =>
    "failed to parse symbol table line " ++ toString number ++ ": " ++ source.message
  | stream failure => "failed to read symbol table: " ++ failure.message

/-! ### Lines of octets -/

/-- The octet that ends a line. -/
def lineFeed : UInt8 := 10

/-- The octet that may stand before the end of a line. -/
def carriageReturn : UInt8 := 13

/-- The octets up to the first line feed and with it, and the octets after it. -/
def nextPiece : List UInt8 → List UInt8 × List UInt8
  | [] => ([], [])
  | b :: rest =>
    if b = lineFeed then ([b], rest)
    else
      let (piece, after) := nextPiece rest
      (b :: piece, after)

/-- A line without one given octet at its end. -/
def dropEnd (b : UInt8) (line : List UInt8) : List UInt8 :=
  if line.getLast? = some b then line.dropLast else line

/-- The text of a line: without its line feed, and then without one carriage return. -/
def lineText (piece : List UInt8) : String :=
  String.ofList (decodeLossy (dropEnd carriageReturn (dropEnd lineFeed piece)))

theorem nextPiece_append : ∀ octets : List UInt8,
    (nextPiece octets).1 ++ (nextPiece octets).2 = octets
  | [] => rfl
  | b :: rest => by
    unfold nextPiece
    split
    · rfl
    · simp [nextPiece_append rest]

/-! ### What becomes of the lines -/

/-- What reading a table comes to. -/
structure Reading where
  kept : List Symbol
  synthetic : List Symbol
  unnamed : Nat
  error : Option TableError

namespace Reading

/-- Nothing read, and perhaps the reason. -/
def stop (error : Option TableError) : Reading := ⟨[], [], 0, error⟩

/-- A symbol read before the rest of the table: dropped if it has no name or is synthetic. -/
def add (s : Symbol) (r : Reading) : Reading :=
  if s.qualifiedName.isEmpty then { r with unnamed := r.unnamed + 1 }
  else if s.isSynthetic then { r with synthetic := s :: r.synthetic }
  else { r with kept := s :: r.kept }

/-- The symbols of the table, all or none. -/
def symbols (r : Reading) : Except TableError (List Symbol) :=
  match r.error with
  | some e => .error e
  | none => .ok r.kept

/-- What is told of a reading: each synthetic symbol, and at the end of the table the numbers. -/
def events (r : Reading) : List Log.Event :=
  (r.synthetic.map fun s =>
    ⟨.trace, .symbolTable, "skipping synthetic symbol", [("symbol", s.qualifiedName)]⟩) ++
  match r.error with
  | some _ => []
  | none => [⟨.debug, .symbolTable, "parsed symbol table", [("kept", toString r.kept.length),
      ("unnamed", toString r.unnamed), ("synthetic", toString r.synthetic.length)]⟩]

end Reading

/-- Reads line after line by a rule for one line, the next line having the given number, up to the
first that the rule refuses.  `failure` is met at the end of the octets, also within a line. -/
def readFrom (judge : List UInt8 → Except LineError Symbol) (failure : Option AccessError)
    (number : Nat) (octets : List UInt8) : Reading :=
  match next : nextPiece octets with
  | ([], _) => .stop (failure.map .stream)
  | (b :: piece, rest) =>
    if failure.isSome && ! (b :: piece).contains lineFeed then .stop (failure.map .stream)
    else
      have _shorter : rest.length < octets.length := by
        have := congrArg List.length (nextPiece_append octets)
        rw [next] at this
        simp only [List.length_append, List.length_cons] at this
        omega
      match judge (b :: piece) with
      | .error e => .stop (some (.malformedLine number e))
      | .ok s => (readFrom judge failure (number + 1) rest).add s
termination_by octets.length

/-- The symbol on a line. -/
def judge (piece : List UInt8) : Except LineError Symbol := Symbol.parse (lineText piece)

/-- Reads a table. -/
def read (s : Source) : Reading := readFrom judge s.failure 1 s.octets

/-- The symbols of a table. -/
def symbols (s : Source) : Except TableError (List Symbol) := (read s).symbols

end PackageCensus.SymbolTable
