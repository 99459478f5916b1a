import Mathlib
import PackageCensus.Proofs.Graph.Storage
import PackageCensus.Proofs.Text.Blank
import PackageCensus.Proofs.Text.Line
import PackageCensus.StandardList

/-! # What a list of standard packages lists

A text lists the ids that stand on its lines (`mem_names_iff`): reading cuts only at line feeds, but the
carriage return before one is a blank, and what stands after the last one is empty or a line
(`names_eq`).  A line feed between two texts is one of the places at which the whole is cut, so that it
lists what either of them lists (`names_append`).

As a graph a list is no more than the set of its ids (`get?_leaves`).  So lists one after the other make
the union (`leaves_append`), and the ids of the graph list it again (`leaves_ids`).

An id is `Listable` if it can stand on a line.  The ids that a text lists are, and so are the bundled
ones. -/

namespace PackageCensus.StandardList

open Text (isBlank trim IsTrimmed)

/-! ### Names -/

theorem isName_iff {line : List Char} : isName line = true ↔ line ≠ [] ∧ line.head? ≠ some '#' := by
  cases line <;> simp [isName]

theorem trim_withoutReturn (line : List Char) : trim (Text.withoutReturn line) = trim line := by
  unfold Text.withoutReturn
  split
  · next ends =>
    obtain ⟨front, rfl⟩ := List.getLast?_eq_some_iff.mp ends
    rw [List.dropLast_concat, Text.trim_concat (by decide)]
  · rfl

/-- The names on the lines are those between the line feeds. -/
theorem filter_linesOfPieces (pieces : List (List Char)) :
    ((Text.linesOfPieces pieces).map trim).filter isName = (pieces.map trim).filter isName := by
  induction pieces using Text.linesOfPieces.induct with
  | case1 => rfl
  | case2 => rfl
  | case3 rest some => rw [Text.linesOfPieces, if_neg some]
  | case4 piece next pieces ih =>
    rw [Text.linesOfPieces, List.map_cons, List.map_cons, List.filter_cons, List.filter_cons, ih,
      trim_withoutReturn]

theorem names_eq (text : String) :
    names text = (((Text.lines text.toList).map trim).filter isName).map String.ofList := by
  rw [Text.lines, filter_linesOfPieces, names]

example : Text.lines "#a\r\n\n b\r".toList = ["#a".toList, [], " b\r".toList] ∧
    names "#a\r\n\n b\r" = ["b"] := by decide

/-- The text has a line with the id, blanks around it apart, and the line is no comment. -/
structure Lists (text id : String) : Prop where
  nonempty : id ≠ ""
  no_comment : id.toList.head? ≠ some '#'
  trimmed : IsTrimmed id.toList
  line : ∃ lead trail, lead ++ (id.toList ++ trail) ∈ Text.lines text.toList ∧
    (∀ c ∈ lead, isBlank c = true) ∧ ∀ c ∈ trail, isBlank c = true

theorem mem_names_iff {text id : String} : id ∈ names text ↔ Lists text id := by
  rw [names_eq, List.mem_map]
  constructor
  · rintro ⟨name, named, rfl⟩
    obtain ⟨trimmed, isName⟩ := List.mem_filter.mp named
    obtain ⟨line, hline, rfl⟩ := List.mem_map.mp trimmed
    obtain ⟨nonempty, no_comment⟩ := isName_iff.mp isName
    obtain ⟨lead, trail, cut, blanks⟩ := Text.exists_trim line
    have left : (String.ofList (trim line)).toList = trim line := String.toList_ofList
    refine ⟨?_, left.symm ▸ no_comment, left.symm ▸ Text.isTrimmed_trim line, lead, trail, ?_, blanks⟩
    · rw [Ne, ← String.toList_eq_nil_iff, left]
      exact nonempty
    · rw [left, ← cut]
      exact hline
  · rintro ⟨nonempty, no_comment, trimmed, lead, trail, hline, blanks⟩
    have left : trim (lead ++ (id.toList ++ trail)) = id.toList :=
      Text.trim_eq_iff.mpr ⟨trimmed, lead, trail, rfl, blanks⟩
    have name : isName id.toList = true :=
      isName_iff.mpr ⟨mt String.toList_eq_nil_iff.mp nonempty, no_comment⟩
    have listed : id.toList ∈ (Text.lines text.toList).map trim := List.mem_map.mpr ⟨_, hline, left⟩
    exact ⟨id.toList, List.mem_filter.mpr ⟨listed, name⟩, String.ofList_toList⟩

theorem names_append (a b : String) : names (a ++ "\n" ++ b) = names a ++ names b := by
  have feed : "\n".toList = ['\n'] := rfl
  simp only [names, String.toList_append, feed, List.append_assoc, List.singleton_append]
  rw [List.splitOnP_append_cons _ _ (by rfl), List.map_append, List.filter_append, List.map_append]

/-! ### Packages without imports -/

section Leaves

variable {ids others : List String} {id : String}

theorem get?_leaves : (Graph.ofList (ids.map leaf)).get? id =
    if id ∈ ids then some (leaf id) else none := by
  induction ids using List.reverseRecOn with
  | nil => rfl
  | append_singleton ids last ih =>
    rw [List.map_append, List.map_singleton, Graph.ofList_append, Graph.get?_insert, ih]
    by_cases same : last = id
    · simp [leaf, same]
    · simp [leaf, same, Ne.symm same]

theorem contains_leaves : (Graph.ofList (ids.map leaf)).contains id = true ↔ id ∈ ids := by
  rw [Graph.contains_ofList]
  simp [leaf]

theorem mem_ids_leaves : id ∈ (Graph.ofList (ids.map leaf)).ids ↔ id ∈ ids := by
  rw [Graph.ids, List.mem_map, ← Graph.contains_iff, contains_leaves]

/-- The ids of a graph of packages without imports make it again. -/
theorem leaves_ids : Graph.ofList ((Graph.ofList (ids.map leaf)).ids.map leaf) =
    .ofList (ids.map leaf) :=
  Graph.ext_get? fun id => by simp only [get?_leaves, mem_ids_leaves]

theorem leaves_append : Graph.ofList ((ids ++ others).map leaf) =
    (Graph.ofList (ids.map leaf)).union (.ofList (others.map leaf)) := by
  refine Graph.ext_get? fun id => ?_
  simp only [Graph.get?_union, get?_leaves, List.mem_append]
  by_cases first : id ∈ ids <;> by_cases second : id ∈ others <;>
    simp [first, second, Graph.joined_self]

theorem imports_leaves {p : Package} (h : p ∈ (Graph.ofList (ids.map leaf)).packages) :
    p.imports = [] := by
  have found := Graph.get?_of_mem h
  rw [get?_leaves] at found
  split at found
  · exact Option.some.inj found ▸ rfl
  · cases found

end Leaves

/-! ### The packages of a text -/

theorem holds_store (text : String) : (store text).Holds (parse text) := Storage.Holds.ofList _

theorem mem_ids_parse {text id : String} : id ∈ (parse text).ids ↔ Lists text id := by
  rw [parse, mem_ids_leaves, mem_names_iff]

theorem parse_append (a b : String) : parse (a ++ "\n" ++ b) = (parse a).union (parse b) := by
  rw [parse, names_append, leaves_append, parse, parse]

theorem store_append (a b : String) :
    (store (a ++ "\n" ++ b)).equal ((store a).union (store b)) = true := by
  have whole := holds_store (a ++ "\n" ++ b)
  rw [parse_append] at whole
  exact whole.equal ((holds_store a).union (holds_store b))

/-! ### Ids on lines -/

/-- The id can stand on a line of a list. -/
structure Listable (id : String) : Prop where
  trimmed : IsTrimmed id.toList
  name : isName id.toList = true
  one_line : '\n' ∉ id.toList

theorem listable_of_mem_names {text id : String} (h : id ∈ names text) : Listable id := by
  obtain ⟨name, named, rfl⟩ := List.mem_map.mp h
  obtain ⟨trimmed, isName⟩ := List.mem_filter.mp named
  obtain ⟨piece, hpiece, rfl⟩ := List.mem_map.mp trimmed
  have left : (String.ofList (trim piece)).toList = trim piece := String.toList_ofList
  refine ⟨left.symm ▸ Text.isTrimmed_trim piece, left.symm ▸ isName, fun feed => ?_⟩
  have solid := Text.solid_of_mem_splitOnP hpiece '\n' (Text.trim_subset piece (left ▸ feed))
  cases solid

/-- A text of characters of ASCII beyond the number sign, none of which is blank. -/
def isPlain (cs : List Char) : Bool :=
  ! cs.isEmpty && cs.all fun c => Nat.blt 0x23 c.toNat && Nat.blt c.toNat 0x80

theorem listable_of_isPlain {cs : List Char} (h : isPlain cs = true) :
    Listable (String.ofList cs) := by
  simp only [isPlain, Bool.and_eq_true, Bool.not_eq_true', List.isEmpty_eq_false_iff,
    List.all_eq_true, Nat.blt_eq] at h
  obtain ⟨nonempty, plain⟩ := h
  have solid : ∀ c ∈ cs, isBlank c = false := fun c hc =>
    Text.isBlank_of_ascii (Nat.lt_trans (by decide) (plain c hc).1) (plain c hc).2
  have other {c : Char} (hc : c.toNat ≤ 0x23) : c ∉ cs := fun mem =>
    absurd (plain c mem).1 (Nat.not_lt.mpr hc)
  constructor <;> rw [String.toList_ofList]
  · exact Text.isTrimmed_of_solid solid
  · exact isName_iff.mpr ⟨nonempty, fun comment => other (by decide) (List.mem_of_head? comment)⟩
  · exact other (by decide)

theorem listable_bundled : ∀ id ∈ bundledIds, Listable id := by
  unfold bundledIds firstIds secondIds
  refine List.forall_mem_append.mpr ⟨?_, ?_⟩
  -- A literal is the text of its characters, so that these are checked without reading its octets.
  all_goals
    repeat' first
      | exact List.forall_mem_nil _
      | refine List.forall_mem_cons.mpr ⟨listable_of_isPlain rfl, ?_⟩

end PackageCensus.StandardList
