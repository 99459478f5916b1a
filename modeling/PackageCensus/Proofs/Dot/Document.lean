import Mathlib
import PackageCensus.Dot.Document
import PackageCensus.Proofs.Graph.Basic
import PackageCensus.Proofs.Numeral
import PackageCensus.Proofs.Text.Line

/-! # Reading drawings

The text of a drawing is read line by line as `statements`, each of which declares a node or links two.
Names end where a character stands that no name has, and no line feed comes from a label
(`not_isControl_of_mem_quote`), so that a drawing is read as exactly the nodes and the edges of its
graph, each under its name (`statements_document`).

Names are not one to one: ids that are `Alike`, of one length and different only where neither has
a letter or a digit, have the same name (`nodeName_eq_iff`).  A drawing keeps all other ids apart
(`alike_or_apart`). -/

namespace PackageCensus.Dot

/-! ### Names -/

/-- Two characters that are the same, or neither of which is an ASCII letter or digit. -/
def AlikeChar (c d : Char) : Prop := c = d ∨ c.isAlphanum = false ∧ d.isAlphanum = false

instance (c d : Char) : Decidable (AlikeChar c d) := inferInstanceAs (Decidable (_ ∨ _))

/-- Two ids of as many characters, that at every place are the same or neither of which is an ASCII
letter or digit. -/
def Alike (a b : String) : Prop := List.Forall₂ AlikeChar a.toList b.toList

instance (a b : String) : Decidable (Alike a b) :=
  inferInstanceAs (Decidable (List.Forall₂ AlikeChar _ _))

theorem nameChar_eq_iff {c d : Char} : nameChar c = nameChar d ↔ AlikeChar c d := by
  have underscore {e : Char} (h : e.isAlphanum = true) : e ≠ '_' := by
    rintro rfl
    cases h
  unfold nameChar AlikeChar
  cases hc : c.isAlphanum <;> cases hd : d.isAlphanum
  · simp
  · have other : c ≠ d := by
      rintro rfl
      cases hc.symm.trans hd
    simp [other, (underscore hd).symm]
  · have other : c ≠ d := by
      rintro rfl
      cases hc.symm.trans hd
    simp [other, underscore hc]
  · simp

/-- Two ids have one name exactly if they are alike. -/
theorem nodeName_eq_iff {a b : String} : nodeName a = nodeName b ↔ Alike a b := by
  unfold nodeName Alike
  rw [← List.forall₂_eq_eq_eq, List.forall₂_map_left_iff, List.forall₂_map_right_iff]
  simp only [nameChar_eq_iff]

/-- Whether a character may stand in a name. -/
def isNameChar (c : Char) : Bool := c.isAlphanum || c == '_'

theorem isNameChar_of_mem_nodeName {id : String} {c : Char} (h : c ∈ nodeName id) :
    isNameChar c = true := by
  obtain ⟨d, -, rfl⟩ := List.mem_map.mp h
  unfold nameChar isNameChar
  cases hd : d.isAlphanum with
  | true => simp [hd]
  | false => rfl

section Cut

variable {id : String} {c : Char} {rest : List Char} (stop : isNameChar c = false)
include stop

theorem takeWhile_nodeName : (nodeName id ++ c :: rest).takeWhile isNameChar = nodeName id := by
  rw [List.takeWhile_append_of_pos fun d hd => isNameChar_of_mem_nodeName hd]
  simp [stop]

theorem dropWhile_nodeName : (nodeName id ++ c :: rest).dropWhile isNameChar = c :: rest := by
  rw [List.dropWhile_append_of_pos fun d hd => isNameChar_of_mem_nodeName hd]
  simp [stop]

end Cut

/-! ### Labels -/

theorem digit_of_mem_paddedHex {width n : Nat} {c : Char} (h : c ∈ paddedHex width n) :
    ∃ d, Numeral.digit? 16 c = some d := by
  rcases List.mem_append.mp h with h | h
  · rw [(List.mem_replicate.mp h).2]
    exact ⟨0, rfl⟩
  · have spelled := Numeral.spelled_toDigits (by decide : 2 ≤ 16) (by decide) n
    exact spelled.digit_of_mem h

theorem not_isControl_of_mem_paddedHex {width n : Nat} {c : Char} (h : c ∈ paddedHex width n) :
    isControl c = false := by
  obtain ⟨d, hd⟩ := digit_of_mem_paddedHex h
  have place := Numeral.toNat_of_digit? hd
  unfold isControl
  simp only [Bool.or_eq_false_iff, Bool.and_eq_false_iff, decide_eq_false_iff_not]
  omega

/-- An escape of a visible character and what follows it hold no control character. -/
theorem not_isControl_of_mem_escape {c x : Char} {rest : List Char} (visible : isControl x = false)
    (more : ∀ d ∈ rest, isControl d = false) (h : c ∈ '\\' :: x :: rest) : isControl c = false := by
  rcases List.mem_cons.mp h with rfl | h
  · rfl
  rcases List.mem_cons.mp h with rfl | h
  · exact visible
  · exact more c h

theorem not_isControl_of_mem_labelChar {c d : Char} (h : c ∈ labelChar d) : isControl c = false := by
  have nothing : ∀ e ∈ ([] : List Char), isControl e = false := by
    intro e he
    cases he
  unfold labelChar at h
  split_ifs at h with _ _ _ _ _ control ascii
  -- five characters with letters of their own
  iterate 5 exact not_isControl_of_mem_escape rfl nothing h
  · exact not_isControl_of_mem_escape rfl (fun e => not_isControl_of_mem_paddedHex) h
  · exact not_isControl_of_mem_escape rfl (fun e => not_isControl_of_mem_paddedHex) h
  · rw [List.mem_singleton.mp h]
    simpa using control

/-- Labels are written without control characters. -/
theorem not_isControl_of_mem_quote {label : List Char} {c : Char} (h : c ∈ quote label) :
    isControl c = false := by
  rcases List.mem_cons.mp h with rfl | h
  · rfl
  rcases List.mem_append.mp h with h | h
  · obtain ⟨d, -, h⟩ := List.mem_flatMap.mp h
    exact not_isControl_of_mem_labelChar h
  · rw [List.mem_singleton.mp h]
    rfl

/-! ### Lines -/

theorem not_mem_of_not_isControl {cs : List Char} (h : ∀ c ∈ cs, isControl c = false) :
    '\n' ∉ cs := by
  intro hc
  cases h _ hc

theorem not_mem_nodeName (id : String) : '\n' ∉ nodeName id := by
  intro hc
  cases isNameChar_of_mem_nodeName hc

/-- No line of a drawing goes on beyond its line feed. -/
theorem not_mem_lines {label : Label} {g : Graph} {line : List Char} (h : line ∈ lines label g) :
    '\n' ∉ line := by
  have indent_solid : '\n' ∉ "    ".toList := by decide
  unfold lines draw at h
  simp only [List.mem_append, List.mem_map, List.mem_singleton] at h
  rcases h with ((h | ⟨p, -, rfl⟩) | ⟨e, -, rfl⟩) | rfl
  · revert line
    decide
  · have quoted : '\n' ∉ quote (label.render p) :=
      not_mem_of_not_isControl fun c => not_isControl_of_mem_quote
    have named := List.not_mem_append indent_solid (not_mem_nodeName p.id)
    have opened := List.not_mem_append named (by decide : '\n' ∉ " [label=".toList)
    exact List.not_mem_append (List.not_mem_append opened quoted) (by decide)
  · have named := List.not_mem_append indent_solid (not_mem_nodeName e.1)
    have arrow := List.not_mem_append named (by decide : '\n' ∉ " -> ".toList)
    exact List.not_mem_append (List.not_mem_append arrow (not_mem_nodeName e.2)) (by decide)
  · decide

/-! ### Statements -/

/-- What a line of a drawing says. -/
inductive Statement where
  /-- A node, with its label between double quotes. -/
  | node (name label : List Char)
  | edge (source target : List Char)
deriving DecidableEq

/-- The statement of a line, if it makes one: a name after four blanks, and then either a label in
brackets or an arrow and another name. -/
def statement? (line : List Char) : Option Statement :=
  let name := (line.drop 4).takeWhile isNameChar
  let rest := (line.drop 4).dropWhile isNameChar
  if line.take 4 ≠ "    ".toList then none
  else if rest.take 8 = " [label=".toList then some (.node name (rest.drop 8).dropLast.dropLast)
  else if rest.take 4 = " -> ".toList then some (.edge name ((rest.drop 4).takeWhile isNameChar))
  else none

/-- The statements of a drawing. -/
def statements (text : String) : List Statement :=
  (text.toList.splitOnP (· == '\n')).filterMap statement?

theorem statement?_nodeLine (label : Label) (p : Package) :
    statement? (nodeLine label p) = some (.node (nodeName p.id) (quote (label.render p))) := by
  have line : nodeLine label p = ' ' :: ' ' :: ' ' :: ' ' :: (nodeName p.id ++
      ' ' :: '[' :: 'l' :: 'a' :: 'b' :: 'e' :: 'l' :: '=' ::
        (quote (label.render p) ++ [']', ';'])) := by
    unfold nodeLine
    simp only [List.append_assoc]
    rfl
  have closing : (quote (label.render p) ++ [']', ';']).dropLast.dropLast =
      quote (label.render p) := by
    simp
  have stop : isNameChar ' ' = false := rfl
  rw [line, statement?]
  simp only [List.drop_succ_cons, List.drop_zero, takeWhile_nodeName stop, dropWhile_nodeName stop,
    closing]
  rfl

theorem statement?_edgeLine (e : String × String) :
    statement? (edgeLine e) = some (.edge (nodeName e.1) (nodeName e.2)) := by
  have line : edgeLine e = ' ' :: ' ' :: ' ' :: ' ' :: (nodeName e.1 ++
      ' ' :: '-' :: '>' :: ' ' :: (nodeName e.2 ++ ';' :: [])) := by
    unfold edgeLine
    simp only [List.append_assoc]
    rfl
  have stop : isNameChar ' ' = false := rfl
  have stop' : isNameChar ';' = false := rfl
  rw [line, statement?]
  simp only [List.drop_succ_cons, List.drop_zero, takeWhile_nodeName stop, dropWhile_nodeName stop,
    takeWhile_nodeName stop']
  rfl

/-- A drawing declares the packages in order and then links the edges in order, each id under its
name. -/
theorem statements_document (label : Label) (g : Graph) :
    statements (render label g) =
      g.packages.map (fun p => .node (nodeName p.id) (quote (label.render p))) ++
        g.edges.map fun e => .edge (nodeName e.1) (nodeName e.2) := by
  have cut : ((lines label g).flatMap endLine).splitOnP (· == '\n') = lines label g ++ [[]] :=
    Text.splitOnP_lines fun line => not_mem_lines
  have nodes : (g.packages.map (nodeLine label)).filterMap statement? =
      g.packages.map fun p => .node (nodeName p.id) (quote (label.render p)) := by
    rw [List.filterMap_map, ← List.filterMap_eq_map]
    exact congrArg (List.filterMap · g.packages) (funext (statement?_nodeLine label))
  have edges : (g.edges.map edgeLine).filterMap statement? =
      g.edges.map fun e => .edge (nodeName e.1) (nodeName e.2) := by
    rw [List.filterMap_map, ← List.filterMap_eq_map]
    exact congrArg (List.filterMap · g.edges) (funext statement?_edgeLine)
  have before : preamble.filterMap statement? = [] := by decide
  have after : [['\x7d'], []].filterMap statement? = [] := by decide
  rw [statements, render, String.toList_ofList, document, cut, lines, draw, List.append_assoc,
    List.filterMap_append, List.filterMap_append, List.filterMap_append, before, nodes, edges]
  simpa using after

/-! ### Nodes and edges -/

/-- The names in a statement. -/
def Statement.names : Statement → List (List Char)
  | node name _ => [name]
  | edge source target => [source, target]

/-- The name that a statement declares. -/
def Statement.declared? : Statement → Option (List Char)
  | node name _ => some name
  | edge _ _ => none

/-- The names that a statement links. -/
def Statement.linked? : Statement → Option (List Char × List Char)
  | node _ _ => none
  | edge source target => some (source, target)

/-- The names of the nodes that a drawing declares. -/
def declared (text : String) : List (List Char) := (statements text).filterMap Statement.declared?

/-- The edges of a drawing, each from one name to another. -/
def linked (text : String) : List (List Char × List Char) :=
  (statements text).filterMap Statement.linked?

/-- The nodes of a drawing: all names in it, each once. -/
def drawnNodes (text : String) : List (List Char) :=
  ((statements text).flatMap Statement.names).dedup

/-- The names of an edge. -/
def linkNames (e : String × String) : List Char × List Char := (nodeName e.1, nodeName e.2)

theorem declared_render (label : Label) (g : Graph) :
    declared (render label g) = g.ids.map nodeName := by
  rw [declared, statements_document, List.filterMap_append, List.filterMap_map, List.filterMap_map,
    Graph.ids, List.map_map]
  simp [Function.comp_def, Statement.declared?]

theorem linked_render (label : Label) (g : Graph) :
    linked (render label g) = g.edges.map linkNames := by
  rw [linked, statements_document, List.filterMap_append, List.filterMap_map, List.filterMap_map]
  simp [Function.comp_def, Statement.linked?, linkNames]

/-- Every node of a drawing is the name of a package. -/
theorem mem_drawnNodes {label : Label} {g : Graph} {name : List Char} :
    name ∈ drawnNodes (render label g) ↔ name ∈ g.ids.map nodeName := by
  rw [drawnNodes, List.mem_dedup, statements_document, List.flatMap_append, List.mem_append]
  constructor
  · rintro (h | h)
    · obtain ⟨statement, hs, hname⟩ := List.mem_flatMap.mp h
      obtain ⟨p, hp, rfl⟩ := List.mem_map.mp hs
      rw [List.mem_singleton.mp hname]
      exact List.mem_map_of_mem (List.mem_map_of_mem hp)
    · obtain ⟨statement, hs, hname⟩ := List.mem_flatMap.mp h
      obtain ⟨e, he, rfl⟩ := List.mem_map.mp hs
      obtain ⟨source, target⟩ := Graph.mem_ids_of_mem_edges he
      rcases List.mem_pair.mp hname with rfl | rfl
      · exact List.mem_map_of_mem source
      · exact List.mem_map_of_mem target
  · intro h
    obtain ⟨id, hid, rfl⟩ := List.mem_map.mp h
    obtain ⟨p, hp, rfl⟩ := List.mem_map.mp hid
    exact .inl (List.mem_flatMap.mpr ⟨_, List.mem_map_of_mem hp, List.mem_singleton.mpr rfl⟩)

/-- There are as many nodes as packages exactly if no two packages share a name. -/
theorem length_drawnNodes (label : Label) (g : Graph) :
    (drawnNodes (render label g)).length = g.size ↔ (g.ids.map nodeName).Nodup := by
  have perm : (drawnNodes (render label g)).Perm (g.ids.map nodeName).dedup := by
    refine (List.perm_ext_iff_of_nodup (List.nodup_dedup _) (List.nodup_dedup _)).mpr fun name => ?_
    exact mem_drawnNodes.trans List.mem_dedup.symm
  have size : g.size = (g.ids.map nodeName).length := by
    rw [Graph.size, Graph.ids, List.length_map, List.length_map]
  rw [perm.length_eq, size, ← List.dedup_eq_self]
  exact ⟨fun h => (List.dedup_sublist _).eq_of_length h, fun h => congrArg List.length h⟩

/-- Lists that a map makes equal are equal if it is one to one on their members. -/
theorem eq_of_map_eq {α β : Type} {f : α → β} : ∀ {l m : List α},
    (∀ a ∈ l, ∀ b ∈ m, f a = f b → a = b) → l.map f = m.map f → l = m
  | [], [], _, _ => rfl
  | a :: l, b :: m, h, same => by
    obtain ⟨first, others⟩ := List.cons.inj same
    rw [h a (.head _) b (.head _) first,
      eq_of_map_eq (fun a ha b hb => h a (.tail _ ha) b (.tail _ hb)) others]

/-- Two ids have one name exactly if they are alike.  A drawing declares the packages under their
names, in order of ids, and links them under their names, in order of edges; so its nodes are as
many as the packages exactly if no two different ids are alike, and of graphs without such ids the
edges are told by what is linked. -/
theorem alike_or_apart :
    (∀ a b : String, nodeName a = nodeName b ↔ Alike a b) ∧
    (∀ (label : Label) (g : Graph),
      declared (render label g) = g.ids.map nodeName ∧
      linked (render label g) = g.edges.map (fun e => (nodeName e.1, nodeName e.2)) ∧
      ((drawnNodes (render label g)).length = g.size ↔
        ∀ a ∈ g.ids, ∀ b ∈ g.ids, Alike a b → a = b)) ∧
    (∀ (label label' : Label) (g h : Graph),
      (∀ a ∈ g.ids ++ h.ids, ∀ b ∈ g.ids ++ h.ids, Alike a b → a = b) →
      linked (render label g) = linked (render label' h) → g.edges = h.edges) := by
  refine ⟨fun a b => nodeName_eq_iff, fun label g => ⟨declared_render label g,
    linked_render label g, ?_⟩, fun label label' g h apart same => ?_⟩
  · have nodup : g.ids.Nodup := g.nodup_ids
    rw [length_drawnNodes, List.nodup_map_iff_inj_on nodup]
    simp only [nodeName_eq_iff]
  · rw [linked_render, linked_render] at same
    refine eq_of_map_eq (fun d hd e he link => ?_) same
    obtain ⟨source, target⟩ := Graph.mem_ids_of_mem_edges hd
    obtain ⟨source', target'⟩ := Graph.mem_ids_of_mem_edges he
    obtain ⟨sources, targets⟩ := Prod.mk.inj link
    exact Prod.ext
      (apart _ (List.mem_append_left _ source) _ (List.mem_append_right _ source')
        (nodeName_eq_iff.mp sources))
      (apart _ (List.mem_append_left _ target) _ (List.mem_append_right _ target')
        (nodeName_eq_iff.mp targets))

/-- Two packages that differ in a letter only and in nothing else are kept apart. -/
theorem alike_or_apart_letter :
    let g := Graph.ofList [⟨"a-b", ["a-c"]⟩, ⟨"a-c", []⟩]
    let h := Graph.ofList [⟨"a-b", ["a-c"]⟩, ⟨"a-c", ["x"]⟩]
    (drawnNodes (render .ofId g)).length = 2 ∧
      linked (render .ofId g) = linked (render .ofId h) ∧ g.edges = h.edges := by
  intro g h
  have apart : ∀ a ∈ g.ids ++ h.ids, ∀ b ∈ g.ids ++ h.ids, Alike a b → a = b := by decide
  have same : linked (render .ofId g) = linked (render .ofId h) := by
    rw [linked_render, linked_render]
    decide
  obtain ⟨-, drawn, edges⟩ := alike_or_apart
  exact ⟨(drawn .ofId g).2.2.mpr (by decide), same, edges .ofId .ofId g h apart same⟩

/-- Two different packages with one name: they are drawn as one node, and which of them imports
the other is not told. -/
theorem alike_clash :
    let g := Graph.ofList [⟨"a-b", ["a.b"]⟩, ⟨"a.b", []⟩]
    let h := Graph.ofList [⟨"a-b", []⟩, ⟨"a.b", ["a-b"]⟩]
    g.ids = ["a-b", "a.b"] ∧ nodeName "a-b" = nodeName "a.b" ∧
      g.size = 2 ∧ (drawnNodes (render .ofId g)).length = 1 ∧
      linked (render .ofId g) = linked (render .ofId h) ∧ g.edges ≠ h.edges := by
  intro g h
  rw [drawnNodes, statements_document, linked_render, linked_render]
  decide

end PackageCensus.Dot
