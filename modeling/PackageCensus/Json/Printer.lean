import PackageCensus.Json.Text
import PackageCensus.Shape

/-! # Writing JSON documents

A value of a shape becomes a tree of JSON values, `Shape.value`, in which a field left out is
missing, and a tree is written in one of two layouts: without any blanks, or with each item and
each member on a line of its own, indented by its depth. -/

namespace PackageCensus.Json

/-- A value, its members in the order in which they are written. -/
inductive Value where
  | null
  | boolean (b : Bool)
  | integer (n : Int)
  | text (s : String)
  | list (items : List Value)
  | object (members : List (String × Value))

/-! ### Values of shapes -/

mutual

/-- The tree of a value of a shape. -/
def shapeValue : (s : Shape) → s.Carrier → Value
  | .text _, s => .text s
  | .letter, c => .text (String.singleton c)
  | .flag, b => .boolean b
  | .unsigned _, n => .integer n.toNat
  | .signed, n => .integer n.toInt
  | .list item, values => .list (values.map (shapeValue item))
  | .optional inner, value => match value with
    | none => .null
    | some value => shapeValue inner value
  | .record _ fields, value => .object (memberValues fields value)

/-- The members of a record. -/
def memberValues : (fields : Fields) → fields.Carrier → List (String × Value)
  | .nil, () => []
  | .required name shape rest, (value, values) =>
    (name, shapeValue shape value) :: memberValues rest values
  | .defaulted name shape rest, (value, values) =>
    match value with
    | none => memberValues rest values
    | some value => (name, shapeValue shape value) :: memberValues rest values

end

/-! ### Layouts -/

/-- The text of a number. -/
def integerText (n : Int) : List Char :=
  if n < 0 then '-' :: Nat.toDigits 10 n.natAbs else Nat.toDigits 10 n.natAbs

/-- The text of a truth value. -/
def booleanText (b : Bool) : List Char :=
  if b then ['t', 'r', 'u', 'e'] else ['f', 'a', 'l', 's', 'e']

/-- The word for no value. -/
def nullText : List Char := ['n', 'u', 'l', 'l']

mutual

/-- A value without blanks. -/
def compact : Value → List Char
  | .null => nullText
  | .boolean b => booleanText b
  | .integer n => integerText n
  | .text s => escaped s.toList
  | .list [] => ['[', ']']
  | .list (item :: items) => '[' :: (compact item ++ compactItems items)
  | .object [] => ['\x7b', '\x7d']
  | .object ((name, value) :: members) =>
    '\x7b' :: (escaped name.toList ++ ':' :: (compact value ++ compactMembers members))

/-- The items of a list after the first, and its end. -/
def compactItems : List Value → List Char
  | [] => [']']
  | item :: items => ',' :: (compact item ++ compactItems items)

/-- The members of an object after the first, and its end. -/
def compactMembers : List (String × Value) → List Char
  | [] => ['\x7d']
  | (name, value) :: members =>
    ',' :: (escaped name.toList ++ ':' :: (compact value ++ compactMembers members))

end

/-- The start of a line at a depth. -/
def newLine (depth : Nat) : List Char := '\n' :: List.replicate (2 * depth) ' '

mutual

/-- A value with its parts on lines of their own, the value itself standing at a depth. -/
def pretty (depth : Nat) : Value → List Char
  | .null => nullText
  | .boolean b => booleanText b
  | .integer n => integerText n
  | .text s => escaped s.toList
  | .list [] => ['[', ']']
  | .list (item :: items) =>
    '[' :: (newLine (depth + 1) ++ pretty (depth + 1) item ++ prettyItems depth items)
  | .object [] => ['\x7b', '\x7d']
  | .object ((name, value) :: members) =>
    '\x7b' :: (newLine (depth + 1) ++ escaped name.toList ++ ':' :: ' ' ::
      (pretty (depth + 1) value ++ prettyMembers depth members))

/-- The items of a list after the first, and its end. -/
def prettyItems (depth : Nat) : List Value → List Char
  | [] => newLine depth ++ [']']
  | item :: items =>
    ',' :: (newLine (depth + 1) ++ pretty (depth + 1) item ++ prettyItems depth items)

/-- The members of an object after the first, and its end. -/
def prettyMembers (depth : Nat) : List (String × Value) → List Char
  | [] => newLine depth ++ ['\x7d']
  | (name, value) :: members =>
    ',' :: (newLine (depth + 1) ++ escaped name.toList ++ ':' :: ' ' ::
      (pretty (depth + 1) value ++ prettyMembers depth members))

end

/-- A value of a shape as a document without blanks. -/
def writeCompact (s : Shape) (value : s.Carrier) : String :=
  String.ofList (compact (shapeValue s value))

/-- A value of a shape as a document of many lines. -/
def writePretty (s : Shape) (value : s.Carrier) : String :=
  String.ofList (pretty 0 (shapeValue s value))

end PackageCensus.Json
