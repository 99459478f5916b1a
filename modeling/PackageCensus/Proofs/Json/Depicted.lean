import PackageCensus.Proofs.Json.Grammar

/-! # What documents say

A document depicts a value of a shape when it says the value with all that the shape asks for and
whatever else (`Shape.Depicts`): a record is an object with just one member for each field that is
not left out, at any place, and with any members of other names.

A shape is `clear` when nothing optional is optional once more, and no record has two fields of one
name. -/

namespace PackageCensus

/-! ### Clear shapes -/

/-- Whether a value of a shape may be written as `null`. -/
def Shape.nullable : Shape → Bool
  | .optional _ => true
  | _ => false

mutual

/-- Whether each value of a shape can be told from its document. -/
def Shape.clear : Shape → Bool
  | .text _ | .letter | .flag | .unsigned _ | .signed => true
  | .list item => item.clear
  | .optional inner => !inner.nullable && inner.clear
  | .record _ fields => fields.clear

/-- Whether the names of some fields differ and their shapes are clear. -/
def Fields.clear : Fields → Bool
  | .nil => true
  | .required name shape rest | .defaulted name shape rest =>
    !rest.names.contains name && shape.clear && rest.clear

end

namespace Json

/-! ### What documents say -/

/-- The members of an object. -/
abbrev Members := List (List Piece × Document)

/-- The values under a name. -/
def under (name : String) (ms : Members) : List Document :=
  (ms.filter fun m => joined? m.1 = some name.toList).map (·.2)

/-- Whether the names of some members are texts. -/
def Named (ms : Members) : Prop := ∀ m ∈ ms, (joined? m.1).isSome = true

instance (ms : Members) : Decidable (Named ms) :=
  inferInstanceAs (Decidable (∀ m ∈ ms, (joined? m.1).isSome = true))

section Under

variable {name : String} {pieces : List Piece} {d : Document} {ms : Members}

theorem under_cons (h : joined? pieces = some name.toList) :
    under name ((pieces, d) :: ms) = d :: under name ms := by
  simp [under, h]

theorem under_cons_other (h : joined? pieces ≠ some name.toList) :
    under name ((pieces, d) :: ms) = under name ms := by
  simp [under, h]

end Under

theorem closedText_of_joined {pieces : List Piece} {s : String}
    (h : joined? pieces = some s.toList) : closedText pieces = .ok s := by
  simp only [closedText, h, String.ofList_toList]

/-- Whether a document is a string with a text. -/
def IsText (d : Document) (s : String) : Prop :=
  ∃ pieces, d = .text pieces ∧ joined? pieces = some s.toList

/-- Whether members give what may be given under a name: a value once, or nothing. -/
def Given {α : Type} (depicts : Document → α → Prop) (name : String) (ms : Members) :
    Option α → Prop
  | none => under name ms = []
  | some value => ∃ d, under name ms = [d] ∧ depicts d value

theorem Given.congr {α : Type} {depicts : Document → α → Prop} {name : String} {ms ms' : Members}
    {value : Option α} (same : under name ms = under name ms') (h : Given depicts name ms value) :
    Given depicts name ms' value := by
  cases value with
  | none => exact same.symm.trans h
  | some value =>
    obtain ⟨d, given, depicts⟩ := h
    exact ⟨d, same.symm.trans given, depicts⟩

end Json

open Json in
mutual

/-- Whether a document says a value of a shape. -/
def Shape.Depicts : (s : Shape) → Document → s.Carrier → Prop
  | .text _, d, s => IsText d s
  | .letter, d, c => IsText d (String.singleton c)
  | .flag, d, b => d = .boolean b
  | .unsigned _, d, n => d = .number (.ofInt n.toNat)
  | .signed, d, n => d = .number (.ofInt n.toInt)
  | .list item, d, values => ∃ items, d = .list items ∧ List.Forall₂ item.Depicts items values
  | .optional _, d, none => d = .null
  | .optional inner, d, some value => inner.Depicts d value
  | .record _ fields, d, values =>
    ∃ members, d = .object members ∧ Named members ∧ fields.Depicted members values

/-- Whether members give the values of some fields. -/
def Fields.Depicted : (fields : Fields) → Members → fields.Carrier → Prop
  | .nil, _, () => True
  | .required name shape rest, ms, (value, values) =>
    Given shape.Depicts name ms (some value) ∧ rest.Depicted ms values
  | .defaulted name shape rest, ms, (value, values) =>
    Given shape.Depicts name ms value ∧ rest.Depicted ms values

end

/-- What depicts a value is not `null`, unless a value of the shape may be written so. -/
theorem Shape.Depicts.ne_null {s : Shape} {d : Json.Document} {value : s.Carrier}
    (h : s.nullable = false) (depicts : s.Depicts d value) : d ≠ .null := by
  rintro rfl
  cases s with
  | optional inner => cases h
  | text | letter =>
    obtain ⟨pieces, he, -⟩ := depicts
    cases he
  | list item =>
    obtain ⟨items, he, -⟩ := depicts
    cases he
  | record title fields =>
    obtain ⟨members, he, -⟩ := depicts
    cases he
  | _ => cases depicts

end PackageCensus
