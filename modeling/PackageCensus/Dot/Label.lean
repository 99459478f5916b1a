import PackageCensus.Graph.Basic
import PackageCensus.Text.Blank
import PackageCensus.Text.Quoted

/-! # Label templates

The label of a package is made from a template: text in which fields between double braces stand
for something about the package.  Blanks inside the braces do not count.  `Label.parse` cuts a
template into segments from left to right and refuses it at the first pair of opening braces that
is not closed or holds no field; `Label.render` puts the values in, once. -/

namespace PackageCensus.Dot

/-- What a template can say of a package. -/
inductive Field where
  | id
  | importCount
  | imports
deriving DecidableEq, Repr

/-- A piece of a template. -/
inductive Segment where
  | text (cs : List Char)
  | field (f : Field)
deriving DecidableEq, Repr

/-- A template, cut into pieces. -/
structure Label where
  segments : List Segment
deriving DecidableEq, Repr

/-- Why a template is refused. -/
inductive LabelFault where
  | unterminated
  | unknownField (text : String)
deriving DecidableEq, Repr

/-- The reason in words. -/
def LabelFault.reason : LabelFault → String
  | unterminated => "unterminated \x60\x7b\x7b\x60"
  | unknownField text => "unknown field " ++ Text.quoted text

/-- A refused template. -/
structure LabelError where
  format : String
  fault : LabelFault
deriving DecidableEq, Repr

/-- The wording of the error. -/
def LabelError.message (e : LabelError) : String :=
  "invalid label format " ++ Text.quoted e.format ++ ": " ++ e.fault.reason

/-! ### Reading a template -/

/-- What stands before and after the first pair of equal characters `c`. -/
def breakAtPair (c : Char) : List Char → Option (List Char × List Char)
  | a :: b :: rest =>
    if a = c ∧ b = c then some ([], rest)
    else (breakAtPair c (b :: rest)).map fun (before, after) => (a :: before, after)
  | _ => none

theorem length_of_breakAtPair {c : Char} : ∀ {cs before after : List Char},
    breakAtPair c cs = some (before, after) → cs.length = before.length + after.length + 2
  | [], _, _, h => by simp [breakAtPair] at h
  | [_], _, _, h => by simp [breakAtPair] at h
  | a :: b :: rest, before, after, h => by
    unfold breakAtPair at h
    split at h
    · simp only [Option.some.injEq, Prod.mk.injEq] at h
      obtain ⟨rfl, rfl⟩ := h
      simp
    · simp only [Option.map_eq_some_iff, Prod.exists, Prod.mk.injEq] at h
      obtain ⟨before', after', hb, rfl, rfl⟩ := h
      have := length_of_breakAtPair hb
      simp only [List.length_cons] at this ⊢
      omega

/-- The field of a name. -/
def Field.ofName? (name : List Char) : Option Field :=
  if name = ".ID".toList then some .id
  else if name = ".ImportCount".toList then some .importCount
  else if name = ".Imports".toList then some .imports
  else none

/-- A piece of text, unless there is none. -/
def Segment.ofText (cs : List Char) : List Segment := if cs.isEmpty then [] else [.text cs]

/-- The pieces of a template. -/
def readSegments (cs : List Char) : Except LabelFault (List Segment) :=
  match _opening : breakAtPair '\x7b' cs with
  | none => .ok (Segment.ofText cs)
  | some (text, inner) =>
    match _closing : breakAtPair '\x7d' inner with
    | none => .error .unterminated
    | some (name, rest) =>
      match Field.ofName? (Text.trim name) with
      | none => .error (.unknownField (String.ofList (Text.trim name)))
      | some field =>
        (readSegments rest).map fun more => Segment.ofText text ++ .field field :: more
termination_by cs.length
decreasing_by
  have := length_of_breakAtPair _opening
  have := length_of_breakAtPair _closing
  omega

namespace Label

/-- The template that shows the id. -/
def defaultFormat : String := "\x7b\x7b.ID\x7d\x7d"

/-- Reads a template. -/
def parse (format : String) : Except LabelError Label :=
  match readSegments format.toList with
  | .ok segments => .ok ⟨segments⟩
  | .error fault => .error ⟨format, fault⟩

/-- The label that shows the id. -/
def ofId : Label := ⟨[.field .id]⟩

end Label

/-! ### Filling a template in -/

/-- The value of a field for a package. -/
def Field.value (p : Package) : Field → List Char
  | id => p.id.toList
  | importCount => (toString p.imports.length).toList
  | imports => (", ".intercalate p.imports).toList

/-- The text of a piece for a package. -/
def Segment.render (p : Package) : Segment → List Char
  | text cs => cs
  | field f => f.value p

/-- The label of a package. -/
def Label.render (l : Label) (p : Package) : List Char := l.segments.flatMap (·.render p)

end PackageCensus.Dot
