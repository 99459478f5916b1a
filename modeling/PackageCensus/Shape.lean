/-! # Shapes of documents

A `Shape` describes what a document in a data format may hold: strings, numbers, lists, and
records with named fields.  A field is required, or it may be left out.  The values of a shape
make up its `Carrier`; a record's is the product of its fields', with `Option` for a field that
may be left out.  Each format reads and writes values by their shape, so that a record is
described once for all formats. -/

namespace PackageCensus

mutual

/-- What a document may hold. -/
inductive Shape where
  /-- A string; the words say what is expected in a message. -/
  | text (expected : String)
  /-- A string of exactly one character. -/
  | letter
  | flag
  /-- A whole number from zero, of sixty-four bits. -/
  | unsigned (expected : String)
  /-- A whole number of either sign, of sixty-four bits. -/
  | signed
  | list (item : Shape)
  /-- A value or nothing. -/
  | optional (inner : Shape)
  | record (title : String) (fields : Fields)

/-- The fields of a record, in the order of their declaration. -/
inductive Fields where
  | nil
  | required (name : String) (shape : Shape) (rest : Fields)
  | defaulted (name : String) (shape : Shape) (rest : Fields)

end

mutual

/-- The values of a shape. -/
@[reducible] def Shape.Carrier : Shape → Type
  | .text _ => String
  | .letter => Char
  | .flag => Bool
  | .unsigned _ => UInt64
  | .signed => Int64
  | .list item => List item.Carrier
  | .optional inner => Option inner.Carrier
  | .record _ fields => fields.Carrier

/-- The values of the fields of a record. -/
@[reducible] def Fields.Carrier : Fields → Type
  | .nil => Unit
  | .required _ shape rest => shape.Carrier × rest.Carrier
  | .defaulted _ shape rest => Option shape.Carrier × rest.Carrier

end

namespace Fields

/-- The values of the fields met so far while a record is read. -/
@[reducible] def Draft : Fields → Type
  | .nil => Unit
  | .required _ shape rest => Option shape.Carrier × rest.Draft
  | .defaulted _ shape rest => Option shape.Carrier × rest.Draft

/-- No field met yet. -/
def blank : (fields : Fields) → fields.Draft
  | .nil => ()
  | .required _ _ rest => (none, rest.blank)
  | .defaulted _ _ rest => (none, rest.blank)

/-- The record that a draft makes, or the first required field that it lacks. -/
def finish : (fields : Fields) → fields.Draft → Except String fields.Carrier
  | .nil, () => .ok ()
  | .required name _ rest, (value, draft) =>
    match value with
    | none => .error name
    | some value => (rest.finish draft).map (value, ·)
  | .defaulted _ _ rest, (value, draft) => (rest.finish draft).map (value, ·)

/-- The names of the fields. -/
def names : Fields → List String
  | .nil => []
  | .required name _ rest | .defaulted name _ rest => name :: rest.names

/-- The number of fields. -/
def count (fields : Fields) : Nat := fields.names.length

end Fields

/-- What is expected of a shape, in words. -/
def Shape.expected : Shape → String
  | .text expected | .unsigned expected => expected
  | .letter => "a character"
  | .flag => "a boolean"
  | .signed => "i64"
  | .list _ => "a sequence"
  | .optional inner => inner.expected
  | .record title _ => "struct " ++ title

/-- The shape of any string. -/
def Shape.string : Shape := .text "a string"

/-- The shape of a path. -/
def Shape.path : Shape := .text "path string"

end PackageCensus
