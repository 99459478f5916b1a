import PackageCensus.Numeral
import PackageCensus.Symbol.Basic
import PackageCensus.Symbol.QualifiedName
import PackageCensus.Text.Blank
import PackageCensus.Text.Quoted

/-! # Lines of a symbol table

A line holds, between blanks, an address in base sixteen that may be missing, a size, the letter
for the kind of symbol, and then a name and remarks that may both be missing.  Which of the two
forms it has is told by where the letter stands: second or third.

`parse` reads one line.  The checks come in a fixed order (number of words, form, address, size)
and the first that fails is the error, which keeps the line and the word at fault. -/

namespace PackageCensus

/-- Where the columns of a line stand. -/
inductive Layout where
  | noAddress
  | withAddress
deriving DecidableEq, Repr

/-- Why a line is not a line of a symbol table. -/
inductive LineError where
  | malformed (line : String)
  | unrecognizedLayout (line : String)
  | invalidAddress (word line : String) (cause : Numeral.Fault)
  | invalidSize (word line : String) (cause : Numeral.Fault)
  | negativeSize (word line : String)
deriving DecidableEq, Repr

namespace LineError

open Text (quoted)

/-- The line at fault. -/
def line : LineError → String
  | malformed line | unrecognizedLayout line | invalidAddress _ line _ | invalidSize _ line _
  | negativeSize _ line => line

/-- The word at fault, where one is to blame. -/
def word? : LineError → Option String
  | malformed _ | unrecognizedLayout _ => none
  | invalidAddress word _ _ | invalidSize word _ _ | negativeSize word _ => some word

/-- What is wrong with the word as a numeral. -/
def cause? : LineError → Option Numeral.Fault
  | invalidAddress _ _ cause | invalidSize _ _ cause => some cause
  | _ => none

/-- The wording of an error. -/
def message : LineError → String
  | malformed line => "invalid symbol line: " ++ quoted line
  | unrecognizedLayout line => "unable to find symbol type in line: " ++ quoted line
  | invalidAddress word line _ =>
    "invalid address " ++ quoted word ++ " in line: " ++ quoted line
  | invalidSize word line _ => "invalid size " ++ quoted word ++ " in line: " ++ quoted line
  | negativeSize word line => "negative size " ++ quoted word ++ " in line: " ++ quoted line

end LineError

namespace Layout

/-- Whether a word is the letter for a kind of symbol: one letter of the ASCII alphabet. -/
def isCode (word : String) : Bool :=
  match word.toList with
  | [c] => c.isAlpha
  | _ => false

/-- The form of a line, told by its second word and then by its third. -/
def classify (words : List String) : Option Layout :=
  if words[1]?.any isCode then some noAddress
  else if words[2]?.any isCode then some withAddress
  else none

/-- The position of the letter for the kind of symbol. -/
def codeIndex : Layout → Nat
  | noAddress => 1
  | withAddress => 2

end Layout

namespace Symbol

/-- The size that stands for an unknown one: one past the largest number of thirty-two bits. -/
def unknownSize : Int := 4294967296

/-- An address, zero when the column is missing. -/
def readAddress (line : String) : Option String → Except LineError UInt64
  | none => .ok 0
  | some word =>
    match Numeral.readUnsigned 16 word.toList with
    | .ok n => .ok (UInt64.ofNat n)
    | .error cause => .error (.invalidAddress word line cause)

/-- A size, zero when it is the one that stands for an unknown size. -/
def readSize (line word : String) : Except LineError Int64 :=
  match Numeral.readSigned 10 word.toList with
  | .ok n =>
    if n = unknownSize then .ok 0
    else if n < 0 then .error (.negativeSize word line)
    else .ok (Int64.ofInt n)
  | .error cause => .error (.invalidSize word line cause)

/-- The symbol with these columns.  A name is divided into path and local name; without a name
both stay empty. -/
def ofColumns (address : UInt64) (size : Int64) (code qualifiedName : String)
    (remarks : List String) : Symbol :=
  let (path, name) :=
    if qualifiedName.isEmpty then ([], "") else QualifiedName.parts qualifiedName
  { address, size, code := code.toList.headD '\x00', qualifiedName,
    info := " ".intercalate remarks, path, name }

/-- The symbol that the words of a line in a given form describe. -/
def ofWords (line : String) (layout : Layout) (words : List String) :
    Except LineError Symbol := do
  let code := layout.codeIndex
  let address ← readAddress line (if layout = .withAddress then words[0]? else none)
  let size ← readSize line (words.getD (code - 1) "")
  return ofColumns address size (words.getD code "") (words.getD (code + 1) "")
    (words.drop (code + 2))

/-- The symbol on one line. -/
def parse (line : String) : Except LineError Symbol :=
  let words := Text.wordsOf line
  if words.length < 3 then .error (.malformed line)
  else match Layout.classify words with
    | none => .error (.unrecognizedLayout line)
    | some layout => ofWords line layout words

end Symbol
end PackageCensus
