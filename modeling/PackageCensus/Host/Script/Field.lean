import PackageCensus.Host.Script.Pattern

/-! # Words cut into fields

What a word comes to is a run of glyphs: characters that may mean something in a pattern, characters
that stand for themselves, and marks of quotes.  The run is made of segments.  Those that come from
values are cut where separators stand; blanks among these count together, and each of the others
ends a field of its own.  Arguments that are kept apart are cut nowhere but between them. -/

namespace PackageCensus.Script

/-- What a word is put together from. -/
inductive Glyph where
  | plain (c : Char)
  /-- A character that stands for itself. -/
  | exact (c : Char)
  /-- Where quotes begin or end. -/
  | quote
deriving DecidableEq, Repr

/-- The characters that are kept apart in quoted values. -/
def inertInValues : List Char := "!*?[=~:/-]\\".toList

namespace Glyph

/-- The text of glyphs. -/
def text (gs : List Glyph) : Octets := gs.filterMap fun
  | plain c | exact c => some c
  | quote => none

/-- Glyphs as the text of a pattern. -/
def pattern (gs : List Glyph) : List Char := gs.flatMap fun
  | plain c => [c]
  | exact c => ['\\', c]
  | quote => []

end Glyph

/-- Where a segment is cut. -/
inductive Cutting where
  | nowhere
  | atSeparators
  /-- Between arguments, where a null stands. -/
  | betweenArguments
deriving DecidableEq, Repr

/-- A part of what a word comes to. -/
structure Segment where
  glyphs : List Glyph
  cutting : Cutting := .nowhere
deriving DecidableEq, Repr

/-- The glyphs of some segments. -/
def glyphsOf (segments : List Segment) : List Glyph := segments.flatMap (·.glyphs)

/-! ### Cutting -/

/-- Whether a character is blank, so that several count as one separator. -/
def isSpace (c : Char) : Bool := c == ' ' || c == '\t' || c == '\n' || c == '\x00'

/-- The state of cutting. -/
structure Cutter where
  separators : Octets
  /-- How many fields are still to be ended, if their number is bounded. -/
  room : Option Nat
  /-- The field at hand, its last glyph first, and the fields before it, the last first. -/
  field : List Glyph := []
  fields : List (List Glyph) := []
  /-- Whether blanks have just ended a field. -/
  spaced : Bool := false
  /-- Whether the last segment was one of arguments, and the one before it. -/
  arguments : Bool := false
  before : Bool := false
  /-- How much of the field at hand is kept, if blanks stand at its end. -/
  kept : Option Nat := none

namespace Cutter

/-- Ends the field at hand. -/
def finish (k : Cutter) : Cutter :=
  { k with fields := k.field.reverse :: k.fields, field := [] }

/-- Takes a glyph behind which no field can end any more. -/
def stepLast (k : Cutter) (g : Glyph) (separates blank : Bool) : Cutter :=
  let more := { k with field := g :: k.field }
  if blank then { more with kept := k.kept.or (some k.field.length) }
  else { more with kept := if separates && k.spaced then k.kept else none, spaced := false }

/-- Takes a glyph of a segment that is cut. -/
def step (k : Cutter) (g : Glyph) : Cutter :=
  let separators := if k.arguments then [] else k.separators
  let (separates, blank) : Bool × Bool := match g with
    | .plain c | .exact c =>
      let separates := c == '\x00' || separators.contains c
      (separates, separates && isSpace c)
    | .quote => (false, false)
  if k.room = some 0 then k.stepLast g separates blank
  else if k.spaced && blank then k
  else if k.spaced && separates then { k with spaced := false }
  else
    let k := { k with spaced := false }
    if separates then
      let k := { k with spaced := ! (k.before || k.arguments) && blank }
      if k.field.isEmpty && k.spaced then { k with spaced := false }
      else match k.room with
        | some (n + 1) =>
          if n = 0 then
            { k with room := some 0, kept := some k.field.length, field := g :: k.field }
          else { k.finish with room := some n }
        | _ => k.finish
    else { k with field := g :: k.field }

/-- Takes a segment. -/
def take (k : Cutter) (s : Segment) : Cutter :=
  match s.cutting with
  | .nowhere => { k with field := s.glyphs.reverse ++ k.field }
  | cutting =>
    let k := { k with
      before := k.arguments, arguments := cutting = .betweenArguments, spaced := false }
    s.glyphs.foldl step k

end Cutter

/-- The fields of some segments, as many as told at most; the last one takes what is left. -/
def fieldsOf (separators : Octets) (room : Option Nat) (segments : List Segment) :
    List (List Glyph) :=
  let k := segments.foldl Cutter.take { separators, room }
  let last := (match k.kept with
    | some n => k.field.drop (k.field.length - n)
    | none => k.field).reverse
  (if k.arguments || ! last.isEmpty then last :: k.fields else k.fields).reverse

end PackageCensus.Script
