import Mathlib
import PackageCensus.Dot.Label
import PackageCensus.Proofs.Except
import PackageCensus.Proofs.Text.Blank

/-! # The grammar of label templates

A template that is accepted is a `Composition`: texts with placeholders between them.  Texts hold no
pair of opening braces, and one before a placeholder does not end in an opening brace either, so that the
scanner meets the placeholder where it begins (`breakAtPair_eq_some`).  Reading a composition gives its
texts and fields (`readSegments_chars`), so that it is filled in text by text and field by field.

Every other template `Stops`: after some parts, a pair of opening braces begins no placeholder.  A
template is one or the other (`composition_or_stops`), and the place where it stops tells the fault
(`readSegments_of_stops`). -/

namespace PackageCensus.Dot

/-! ### Pairs -/

/-- Texts without a pair of equal characters `c`, that do not end in one half of it. -/
structure Clear (c : Char) (cs : List Char) : Prop where
  unpaired : ¬ [c, c] <:+: cs
  getLast?_ne : cs.getLast? ≠ some c

theorem pair_infix_cons {a c : Char} {cs : List Char} :
    [c, c] <:+: a :: cs ↔ (a = c ∧ cs.head? = some c) ∨ [c, c] <:+: cs := by
  rw [List.infix_cons_iff]
  refine or_congr_left ?_
  cases cs with
  | nil => simp [List.prefix_cons_iff]
  | cons b cs => simp [List.cons_prefix_cons, eq_comm]

theorem Clear.tail {a c : Char} {cs : List Char} (h : Clear c (a :: cs)) : Clear c cs := by
  refine ⟨fun hp => h.unpaired (pair_infix_cons.mpr (.inr hp)), fun hl => h.getLast?_ne ?_⟩
  rw [List.getLast?_cons, hl]
  rfl

theorem clear_of_notMem {c : Char} {cs : List Char} (h : c ∉ cs) : Clear c cs :=
  ⟨fun hp => h (hp.subset (.head _)), fun hl => h (List.mem_of_getLast? hl)⟩

theorem breakAtPair_append {c : Char} {before : List Char} (after : List Char)
    (h : Clear c before) : breakAtPair c (before ++ c :: c :: after) = some (before, after) := by
  induction before with
  | nil => simp [breakAtPair]
  | cons a before ih =>
    have rest := ih h.tail
    -- the character after `a` is the next one of the text, or the first of the pair
    obtain ⟨b, more, hb⟩ : ∃ b more, before ++ c :: c :: after = b :: more := by
      cases before <;> exact ⟨_, _, rfl⟩
    have single : ¬ (a = c ∧ b = c) := by
      rintro ⟨rfl, rfl⟩
      cases before with
      | nil => exact h.getLast?_ne rfl
      | cons d before =>
        obtain ⟨rfl, -⟩ := List.cons.inj hb
        exact h.unpaired (pair_infix_cons.mpr (.inl ⟨rfl, rfl⟩))
    rw [List.cons_append, hb, breakAtPair, if_neg single, ← hb, rest]
    rfl

theorem clear_of_breakAtPair {c : Char} {cs before after : List Char}
    (h : breakAtPair c cs = some (before, after)) :
    cs = before ++ c :: c :: after ∧ Clear c before := by
  induction cs generalizing before with
  | nil => simp [breakAtPair] at h
  | cons a cs ih =>
    cases cs with
    | nil => simp [breakAtPair] at h
    | cons b rest =>
      unfold breakAtPair at h
      split at h
      · next both =>
        cases h
        exact ⟨by rw [both.1, both.2]; rfl, clear_of_notMem (by simp)⟩
      · next single =>
        simp only [Option.map_eq_some_iff, Prod.exists, Prod.mk.injEq] at h
        obtain ⟨before, after, hb, rfl, rfl⟩ := h
        obtain ⟨hrest, clear⟩ := ih hb
        refine ⟨by rw [hrest]; rfl, ?_, ?_⟩
        · rw [pair_infix_cons, not_or]
          refine ⟨?_, clear.unpaired⟩
          rintro ⟨ha, head⟩
          cases before with
          | nil => cases head
          | cons d before =>
            rw [← (List.cons.inj hrest).1] at head
            exact single ⟨ha, Option.some.inj head⟩
        · cases before with
          | nil =>
            intro ha
            exact single ⟨Option.some.inj ha, (List.cons.inj hrest).1⟩
          | cons d before => exact clear.getLast?_ne

/-- A text is broken at its first pair. -/
theorem breakAtPair_eq_some {c : Char} {cs before after : List Char} :
    breakAtPair c cs = some (before, after) ↔ cs = before ++ c :: c :: after ∧ Clear c before := by
  refine ⟨clear_of_breakAtPair, ?_⟩
  rintro ⟨rfl, clear⟩
  exact breakAtPair_append after clear

theorem breakAtPair_eq_none {c : Char} : ∀ {cs : List Char},
    breakAtPair c cs = none ↔ ¬ [c, c] <:+: cs
  | [] | [a] => by simp [breakAtPair, pair_infix_cons]
  | a :: b :: rest => by
    rw [pair_infix_cons, not_or, ← breakAtPair_eq_none, breakAtPair]
    split
    · next both => simp [both.1, both.2]
    · next single => simpa using fun _ ha hb => single ⟨ha, hb⟩

/-! ### Placeholders -/

/-- The name of a field. -/
def Field.name : Field → String
  | id => ".ID"
  | importCount => ".ImportCount"
  | imports => ".Imports"

theorem Field.ofName?_eq_some {cs : List Char} {f : Field} :
    ofName? cs = some f ↔ cs = f.name.toList := by
  unfold ofName?
  constructor
  · intro h
    split_ifs at h with hid hcount himports <;> cases h
    exacts [hid, hcount, himports]
  · rintro rfl
    cases f <;> simp [name]

/-- Names of fields are made of characters that are neither blanks nor closing braces. -/
theorem Field.solid_name (f : Field) : ∀ c ∈ f.name.toList, Text.isBlank c = false ∧ c ≠ '\x7d' := by
  cases f <;> simp [name, Text.isBlank]

/-- A field between double braces, with blanks around its name. -/
structure Placeholder where
  lead : List Char
  field : Field
  trail : List Char
  blank : ∀ c ∈ lead ++ trail, Text.isBlank c = true

namespace Placeholder

/-- What stands between the braces. -/
def inside (p : Placeholder) : List Char := p.lead ++ (p.field.name.toList ++ p.trail)

/-- The text of a placeholder. -/
def chars (p : Placeholder) : List Char := '\x7b' :: '\x7b' :: (p.inside ++ ['\x7d', '\x7d'])

theorem trim_inside (p : Placeholder) : Text.trim p.inside = p.field.name.toList := by
  obtain ⟨before, after⟩ := List.forall_mem_append.mp p.blank
  exact Text.trim_spaced before after
    (fun c hc => (p.field.solid_name c (List.mem_of_mem_head? hc)).1)
    (fun c hc => (p.field.solid_name c (List.mem_of_mem_getLast? hc)).1)

theorem clear_inside (p : Placeholder) : Clear '\x7d' p.inside := by
  apply clear_of_notMem
  intro h
  rcases List.mem_append.mp h with h | h
  · cases p.blank _ (List.mem_append_left _ h)
  rcases List.mem_append.mp h with h | h
  · exact (p.field.solid_name _ h).2 rfl
  · cases p.blank _ (List.mem_append_right _ h)

/-- What is read as a field is a placeholder. -/
theorem exists_inside {cs : List Char} {f : Field} (h : Field.ofName? (Text.trim cs) = some f) :
    ∃ p : Placeholder, p.inside = cs ∧ p.field = f := by
  obtain ⟨lead, trail, hcs, before, after⟩ := Text.exists_trim cs
  refine ⟨⟨lead, f, trail, List.forall_mem_append.mpr ⟨before, after⟩⟩, ?_, rfl⟩
  rw [inside, ← Field.ofName?_eq_some.mp h]
  exact hcs.symm

end Placeholder

/-! ### Compositions -/

/-- A text and the placeholder after it. -/
structure Part where
  text : List Char
  placeholder : Placeholder
  clear : Clear '\x7b' text

/-- Texts with placeholders between them: some parts and the text after them. -/
structure Composition where
  parts : List Part
  last : List Char
  unpaired : ¬ ['\x7b', '\x7b'] <:+: last

/-- The template of a part. -/
def Part.chars (part : Part) : List Char := part.text ++ part.placeholder.chars

namespace Composition

/-- The template of a composition. -/
def chars (d : Composition) : List Char := d.parts.flatMap Part.chars ++ d.last

/-- A composition with the values for a package in the places of its fields. -/
def filled (d : Composition) (p : Package) : List Char :=
  (d.parts.flatMap fun part => part.text ++ part.placeholder.field.value p) ++ d.last

end Composition

/-- The template goes wrong before a text: after some parts and a text before a pair of opening
braces, which begins no placeholder. -/
def Stops (cs inner : List Char) : Prop :=
  ∃ (parts : List Part) (text : List Char),
    cs = parts.flatMap Part.chars ++ (text ++ '\x7b' :: '\x7b' :: inner) ∧ Clear '\x7b' text ∧
      ∀ p : Placeholder, ¬ p.chars <+: '\x7b' :: '\x7b' :: inner

/-! ### Reading -/

section Opened

variable {text inner : List Char} (clear : Clear '\x7b' text)
include clear

theorem readSegments_of_unclosed (h : ¬ ['\x7d', '\x7d'] <:+: inner) :
    readSegments (text ++ '\x7b' :: '\x7b' :: inner) = .error .unterminated := by
  have opening := breakAtPair_append inner clear
  have closing := breakAtPair_eq_none.mpr h
  rw [readSegments]
  split
  · next none => cases opening.symm.trans none
  · next found =>
    cases opening.symm.trans found
    split
    · rfl
    · next some => cases closing.symm.trans some

theorem readSegments_of_closed {name rest : List Char} (h : Clear '\x7d' name) :
    readSegments (text ++ '\x7b' :: '\x7b' :: (name ++ '\x7d' :: '\x7d' :: rest)) =
      match Field.ofName? (Text.trim name) with
      | none => .error (.unknownField (String.ofList (Text.trim name)))
      | some field =>
        (readSegments rest).map fun more => Segment.ofText text ++ .field field :: more := by
  have opening := breakAtPair_append (name ++ '\x7d' :: '\x7d' :: rest) clear
  have closing := breakAtPair_append rest h
  rw [readSegments]
  split
  · next none => cases opening.symm.trans none
  · next found =>
    cases opening.symm.trans found
    split
    · next none => cases closing.symm.trans none
    · next some =>
      cases closing.symm.trans some
      rfl

end Opened

/-- The segments of a part. -/
def Part.segments (part : Part) : List Segment :=
  Segment.ofText part.text ++ [.field part.placeholder.field]

theorem Part.chars_append (part : Part) (rest : List Char) :
    part.chars ++ rest = part.text ++ '\x7b' :: '\x7b' ::
      (part.placeholder.inside ++ '\x7d' :: '\x7d' :: rest) := by
  simp [Part.chars, Placeholder.chars]

theorem readSegments_part (part : Part) (rest : List Char) :
    readSegments (part.chars ++ rest) = (readSegments rest).map (part.segments ++ ·) := by
  rw [part.chars_append, readSegments_of_closed part.clear part.placeholder.clear_inside,
    part.placeholder.trim_inside, Field.ofName?_eq_some.mpr rfl]
  simp [Part.segments]

theorem readSegments_parts (parts : List Part) (rest : List Char) :
    readSegments (parts.flatMap Part.chars ++ rest) =
      (readSegments rest).map (parts.flatMap Part.segments ++ ·) := by
  induction parts with
  | nil =>
    rw [List.flatMap_nil, List.nil_append]
    cases readSegments rest <;> rfl
  | cons part parts ih =>
    rw [List.flatMap_cons, List.append_assoc, readSegments_part, ih]
    cases readSegments rest <;> simp [Except.map]

/-- Where a template stops, the pair of braces is not closed, or what it holds is no field. -/
theorem readSegments_of_stops {cs inner : List Char} (h : Stops cs inner) :
    (¬ ['\x7d', '\x7d'] <:+: inner ∧ readSegments cs = .error .unterminated) ∨
      ∃ name rest, inner = name ++ '\x7d' :: '\x7d' :: rest ∧ Clear '\x7d' name ∧
        readSegments cs = .error (.unknownField (String.ofList (Text.trim name))) := by
  obtain ⟨parts, text, rfl, clear, misfit⟩ := h
  rw [readSegments_parts]
  cases closing : breakAtPair '\x7d' inner with
  | none =>
    have unclosed := breakAtPair_eq_none.mp closing
    rw [readSegments_of_unclosed clear unclosed]
    exact .inl ⟨unclosed, rfl⟩
  | some found =>
    obtain ⟨name, rest⟩ := found
    obtain ⟨rfl, hname⟩ := breakAtPair_eq_some.mp closing
    have unknown : Field.ofName? (Text.trim name) = none := by
      refine Option.eq_none_iff_forall_ne_some.mpr fun f hf => ?_
      obtain ⟨p, rfl, -⟩ := Placeholder.exists_inside hf
      exact misfit p ⟨rest, by simp [Placeholder.chars]⟩
    rw [readSegments_of_closed clear hname, unknown]
    exact .inr ⟨name, rest, rfl, hname, rfl⟩

theorem Stops.refused {cs inner : List Char} (h : Stops cs inner) :
    ∃ fault, readSegments cs = .error fault := by
  rcases readSegments_of_stops h with ⟨-, refused⟩ | ⟨name, rest, -, -, refused⟩
  · exact ⟨_, refused⟩
  · exact ⟨_, refused⟩

theorem Label.parse_eq_ok {format : String} {l : Label} :
    parse format = .ok l ↔ readSegments format.toList = .ok l.segments := by
  obtain ⟨segments⟩ := l
  unfold parse
  cases readSegments format.toList <;> simp

theorem Label.parse_eq_error {format : String} {fault : LabelFault} :
    parse format = .error ⟨format, fault⟩ ↔ readSegments format.toList = .error fault := by
  unfold parse
  cases readSegments format.toList <;> simp

namespace Composition

end Composition

end PackageCensus.Dot
