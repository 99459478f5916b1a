import PackageCensus.Log
import PackageCensus.Log.Pattern
import PackageCensus.Numeral
import PackageCensus.Text.Alphanumeric
import PackageCensus.Text.Blank
import PackageCensus.Text.Utf8

/-! # Filters of the log

A filter is made of directives.  Each sets the least level of the events that it is about: those
whose origin begins with some name, and perhaps those alone that tell of some field.  Of the
directives about an event the closest one decides, which is that with the longest name, and an
event that none is about is not let through.

A directive may also be about what happens within a span, or about a value.  The program knows no
spans, so such a directive is about nothing; but if one of the directives of a text is not sound,
the whole text is none.  The places of the parts of a directive are counted as if no blanks stood
before it.  With blanks there, a part can begin or end within a character; the program then cannot
go on. -/

namespace PackageCensus.Log

/-- The least level of events that are let through; none lets nothing through. -/
abbrev Threshold := Option Level

namespace Threshold

/-- Whether a level reaches a threshold. -/
def admits (t : Threshold) (l : Level) : Bool := t.any (·.rank ≤ l.rank)

/-- The threshold of a number of levels that are let through, the gravest first. -/
def ofNat? (n : Nat) : Option Threshold :=
  if n = 0 then some none else (Level.all.reverse[n - 1]?).map some

/-- The threshold of a word: the number of levels let through, the name of the least one in letters
of any case, or the word for none. -/
def ofWord? (word : String) : Option Threshold :=
  let name := word.toLower
  ((Numeral.readUnsigned 10 word.toList).toOption.bind ofNat?) <|>
    ((Level.ofName? name).map some) <|> (if name = "off" then some none else none)

end Threshold

/-- What a directive sets, and for which events. -/
structure Directive where
  /-- The beginning of the names of the origins that it is about. -/
  origin : String := ""
  /-- The field that the events tell of, if that matters. -/
  field : Option String := none
  /-- Whether it is about a span or a value. -/
  conditional : Bool := false
  threshold : Threshold := some .trace
deriving DecidableEq, Repr

namespace Directive

/-- Whether a directive is about an event. -/
def concerns (d : Directive) (e : Event) : Bool :=
  ! d.conditional && d.origin.toList.isPrefixOf e.origin.name.toList &&
    d.field.all (e.fields.contains ·)

/-- Whether the second of two directives about one event decides: it has the longer name, or the
same name and a field that does not come before that of the first. -/
def yields (c d : Directive) : Bool :=
  c.origin.length < d.origin.length ||
    (c.origin.length == d.origin.length && c.field.getD "" ≤ d.field.getD "")

/-- The directive that decides among several about one event. -/
def closest? (ds : List Directive) : Option Directive :=
  ds.foldl (fun best d => match best with
    | none => some d
    | some c => some (if c.yields d then d else c)) none

end Directive

/-- Directives in the order of a text. -/
structure Filter where
  directives : List Directive
deriving DecidableEq, Repr

namespace Filter

/-- Whether an event is let through. -/
def admits (f : Filter) (e : Event) : Bool :=
  (Directive.closest? (f.directives.filter (·.concerns e))).any (·.threshold.admits e.level)

/-- The filter that lets the events of a level through, and graver ones. -/
def atLeast (l : Level) : Filter := ⟨[{ threshold := some l }]⟩

end Filter

/-! ### Directives as text -/

/-- Why a text is no filter. -/
inductive FilterFault where
  | unsound
  /-- A part of a directive begins or ends within a character. -/
  | torn
deriving DecidableEq, Repr

/-- Where the reading of a directive stands, and where its part begins. -/
inductive DirectiveMode where
  | start
  /-- In the name of an origin, or in a level that stands alone. -/
  | word (first : Nat)
  | span (first : Nat)
  | field (first : Nat)
  | behindField
  | behindSpan
  | threshold (first : Nat)

namespace Directive

/-- The part of a text between two places, which are counted in octets. -/
def part (text : String) (first last : Nat) : Except FilterFault String :=
  match Text.decode? (((Text.encode text.toList).take last).drop first) with
  | some cs => .ok (String.ofList cs)
  | none => .error .torn

/-- A directive about the events that tell of a field, or about a value of it. -/
def withField (d : Directive) (field : String) : Except FilterFault Directive :=
  match field.toList.splitOnP (· == '=') with
  | [] | [[]] => .error .unsound
  | [name] => .ok { d with field := some (String.ofList name) }
  | _ :: value :: _ =>
    if isValuePattern (String.ofList value) then .ok { d with conditional := true }
    else .error .unsound

/-- A directive that lets everything through, or what a level says. -/
def withThreshold (d : Directive) (word : String) : Except FilterFault Directive :=
  if word.isEmpty then .ok d
  else match Threshold.ofWord? word with
    | some threshold => .ok { d with threshold }
    | none => .error .unsound

/-- The directive of a word alone: a level, or the name of an origin. -/
def ofWord (word : String) : Directive :=
  match Threshold.ofWord? word with
  | some threshold => { threshold }
  | none => { origin := word }

/-- Whether a character can begin a directive that is not about a span alone. -/
def begins (c : Char) : Bool := c == '-' || c == ':' || c == '_' || Text.isAlphanumeric c

/-- Reads a directive from some place on, the characters from there to the end given. -/
def read (text : String) (d : Directive) :
    DirectiveMode → Nat → List Char → Except FilterFault Directive
  | .word first, _, [] => (part text first text.utf8ByteSize).map ofWord
  | .threshold first, _, [] => (part text first text.utf8ByteSize).bind d.withThreshold
  | .behindSpan, _, [] => .ok d
  | _, _, [] => .error .unsound
  | mode, place, c :: rest =>
    let next := place + c.utf8Size
    match mode, c with
    | .start, '[' => read text d (.span next) next rest
    | .start, c => if begins c then read text d (.word place) next rest else .error .unsound
    | .word first, '=' => do
      read text { d with origin := ← part text first place } (.threshold next) next rest
    | .word first, '[' => do
      read text { d with origin := ← part text first place } (.span next) next rest
    | .span first, ']' => do
      let _ ← part text first place
      read text { d with conditional := true } .behindSpan next rest
    | .span first, '\x7b' => do
      let name ← part text first place
      read text { d with conditional := ! name.isEmpty } (.field next) next rest
    | .field first, '\x7d' => do
      read text (← d.withField (← part text first place)) .behindField next rest
    | .behindField, ']' => read text d .behindSpan next rest
    | .behindSpan, '=' => read text d (.threshold next) next rest
    | .behindField, _ | .behindSpan, _ => .error .unsound
    | mode, _ => read text d mode next rest

/-- The directive of a text.  Blanks around it are passed over, but the places of its parts are
counted as if those in front were not there. -/
def ofText (text : String) : Except FilterFault Directive :=
  read text {} .start 0 (Text.trim text.toList)

end Directive

/-- The filter of a text: directives parted by commas.  An empty list lets errors through. -/
def Filter.ofText (text : String) : Except FilterFault Filter := do
  let parts := (text.toList.splitOnP (· == ',')).filter (! ·.isEmpty)
  let directives ← parts.mapM fun part => Directive.ofText (String.ofList part)
  return if directives.isEmpty then .atLeast .error else ⟨directives⟩

end PackageCensus.Log
