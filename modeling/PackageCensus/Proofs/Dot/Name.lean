import Mathlib
import PackageCensus.Proofs.Dot.Document

/-! # Names without quotes

The dot language reads a name without quotes if it is `Unquoted`: a word of letters, digits and
underscores that does not begin with a digit, or a number, and in no case a keyword.  The names of nodes
are made of such characters only, but nothing is done about the word as a whole.  A digit at the start of
an id and an id that is a keyword pass into the name as they are (`startsWell_nodeName`,
`isKeyword_nodeName`), so that the name is unquoted exactly if the id is `Nameable`
(`unquoted_nodeName_iff`). -/

namespace PackageCensus.Dot

/-! ### Words of the language -/

/-- The keywords, which may be written in any case. -/
def keywords : List String := ["node", "edge", "graph", "digraph", "subgraph", "strict"]

/-- A text that is a keyword in some case. -/
def IsKeyword (cs : List Char) : Prop := String.ofList (cs.map Char.toLower) ∈ keywords

/-- A text of digits only, or one that does not begin with a digit. -/
def StartsWell (cs : List Char) : Prop :=
  (∀ c ∈ cs, c.isDigit = true) ∨ ∀ c ∈ cs.head?, c.isDigit = false

/-- Names that may stand without quotes. -/
structure Unquoted (name : List Char) : Prop where
  ne_nil : name ≠ []
  chars : ∀ c ∈ name, isNameChar c = true
  start : StartsWell name
  other : ¬ IsKeyword name

/-- Ids for which a node may be named without quotes. -/
structure Nameable (id : String) : Prop where
  ne_empty : id ≠ ""
  start : StartsWell id.toList
  other : ¬ IsKeyword id.toList

/-! ### What passes into a name -/

theorem isDigit_nameChar (c : Char) : (nameChar c).isDigit = c.isDigit := by
  unfold nameChar
  split
  · rfl
  · next other =>
    simp only [Char.isAlphanum, Bool.or_eq_true, not_or, Bool.not_eq_true] at other
    rw [other.2]
    rfl

theorem startsWell_nodeName (id : String) : StartsWell (nodeName id) ↔ StartsWell id.toList := by
  unfold StartsWell nodeName
  simp only [List.forall_mem_map, List.head?_map, Option.mem_def, Option.map_eq_some_iff,
    forall_exists_index, and_imp, forall_apply_eq_imp_iff₂, isDigit_nameChar]

theorem isAlpha_of_toLower {c : Char} (h : c.toLower.isAlpha = true) : c.isAlpha = true := by
  unfold Char.toLower at h
  split at h
  · next upper => exact Bool.or_eq_true_iff.mpr (.inl (decide_eq_true upper))
  · exact h

/-- A letter in a name is that of the id. -/
theorem isAlpha_of_nameChar {c : Char} (h : (nameChar c).isAlpha = true) : c.isAlpha = true := by
  unfold nameChar at h
  split at h
  · exact h
  · cases h

theorem nodeName_of_isAlpha {id : String} (letters : ∀ c ∈ id.toList, c.isAlpha = true) :
    nodeName id = id.toList := by
  refine (List.map_congr_left fun c hc => ?_).trans (List.map_id _)
  exact if_pos (Bool.or_eq_true_iff.mpr (.inl (letters c hc)))

theorem isAlpha_of_isKeyword {cs : List Char} (h : IsKeyword cs) : ∀ c ∈ cs, c.isAlpha = true := by
  have letters : ∀ word ∈ keywords, ∀ c ∈ word.toList, c.isAlpha = true := by
    simp [keywords]
  have lower := letters _ h
  rw [String.toList_ofList] at lower
  exact fun c hc => isAlpha_of_toLower (lower _ (List.mem_map_of_mem hc))

theorem isKeyword_nodeName (id : String) : IsKeyword (nodeName id) ↔ IsKeyword id.toList := by
  constructor
  · intro h
    have letters : ∀ c ∈ id.toList, c.isAlpha = true := fun c hc =>
      isAlpha_of_nameChar (isAlpha_of_isKeyword h _ (List.mem_map_of_mem hc))
    rwa [nodeName_of_isAlpha letters] at h
  · intro h
    rwa [nodeName_of_isAlpha (isAlpha_of_isKeyword h)]

/-! ### Names of nodes -/

theorem unquoted_nodeName_iff {id : String} : Unquoted (nodeName id) ↔ Nameable id := by
  have empty : nodeName id = [] ↔ id = "" := List.map_eq_nil_iff.trans String.toList_eq_nil_iff
  constructor
  · rintro ⟨ne, -, start, other⟩
    exact ⟨mt empty.mpr ne, (startsWell_nodeName id).mp start, mt (isKeyword_nodeName id).mpr other⟩
  · rintro ⟨ne, start, other⟩
    exact ⟨mt empty.mp ne, fun c => isNameChar_of_mem_nodeName, (startsWell_nodeName id).mpr start,
      mt (isKeyword_nodeName id).mp other⟩

/-- The name of an id has a letter, a digit or an underscore for each of its characters, and it may stand
without quotes exactly if the id is not empty, begins with no digit or is a number, and is no keyword.
It is the name under which the id is drawn, so that all names in a drawing may stand without quotes
exactly if this holds of all ids. -/
theorem nodeName_unquoted (id : String) :
    (nodeName id).length = id.toList.length ∧ (∀ c ∈ nodeName id, isNameChar c = true) ∧
    (Unquoted (nodeName id) ↔ id ≠ "" ∧
      ((∀ c ∈ id.toList, c.isDigit = true) ∨ ∀ c ∈ id.toList.head?, c.isDigit = false) ∧
      String.ofList (id.toList.map Char.toLower) ∉ keywords) ∧
    ∀ label g, (id ∈ g.ids → nodeName id ∈ drawnNodes (render label g)) ∧
      ((∀ name ∈ drawnNodes (render label g), Unquoted name) ↔ ∀ other ∈ g.ids, Nameable other) := by
  refine ⟨List.length_map _, fun c => isNameChar_of_mem_nodeName, ?_, fun label g => ⟨?_, ?_⟩⟩
  · rw [unquoted_nodeName_iff]
    exact ⟨fun h => ⟨h.ne_empty, h.start, h.other⟩, fun h => ⟨h.1, h.2.1, h.2.2⟩⟩
  · intro held
    rw [mem_drawnNodes]
    exact List.mem_map_of_mem held
  · simp only [mem_drawnNodes, List.forall_mem_map, unquoted_nodeName_iff]

/-- Names that need quotes: of no characters, of a digit and letters, and a keyword. -/
theorem nodeName_not_unquoted :
    nodeName "9fans.net/go" = "9fans_net_go".toList ∧ ¬ Unquoted (nodeName "9fans.net/go") ∧
      ¬ Unquoted (nodeName "") ∧ ¬ Unquoted (nodeName "Node") := by
  have digit : ¬ StartsWell "9fans.net/go".toList := by simp [StartsWell]
  have keyword : IsKeyword "Node".toList := by simp [IsKeyword, keywords]
  simp only [unquoted_nodeName_iff]
  exact ⟨rfl, fun h => digit h.start, fun h => h.ne_empty rfl, fun h => h.other keyword⟩

end PackageCensus.Dot
