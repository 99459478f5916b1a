import Mathlib
import PackageCensus.Proofs.Dot.Document

/-! # Labels between double quotes

In the body of a label, what follows a backslash belongs to it (`escaped_body`): a double quote stands
after an odd number of backslashes, and the body does not end in an odd number (`Escaped.odd_before`,
`Escaped.even_at_end`).  With the line feeds of the document nowhere but at the ends of its lines, a
drawing has the lines that it is to have and no others (`render_lines`).

`unquote` reads a label back (`unquote_quote`).  An escape is told from text that looks like one, since
the backslash of such text is itself escaped.  So the labels of a drawing are read back from its text
(`labels_render`). -/

namespace PackageCensus.Dot

/-! ### Escapes -/

/-- Texts in which each backslash is followed by a character that belongs to it, and no double quote
stands alone. -/
inductive Escaped : List Char → Prop
  | nil : Escaped []
  | plain {c : Char} {w : List Char} : c ≠ '"' → c ≠ '\\' → Escaped w → Escaped (c :: w)
  | pair {c : Char} {w : List Char} : Escaped w → Escaped ('\\' :: c :: w)

/-- The number of backslashes at the end of a text. -/
def backslashes (cs : List Char) : Nat := (cs.reverse.takeWhile (· == '\\')).length

theorem even_backslashes_nil : Even (backslashes []) := ⟨0, rfl⟩

theorem backslashes_concat (cs : List Char) (c : Char) :
    backslashes (cs ++ [c]) = if c = '\\' then backslashes cs + 1 else 0 := by
  unfold backslashes
  rw [List.reverse_append, List.reverse_singleton, List.singleton_append, List.takeWhile_cons]
  by_cases h : c = '\\' <;> simp [h]

theorem even_backslashes_pair {cs : List Char} (h : Even (backslashes cs)) (c : Char) :
    Even (backslashes (cs ++ ['\\', c])) := by
  rw [List.append_cons, backslashes_concat, backslashes_concat, if_pos rfl]
  split_ifs
  · exact h.add_one.add_one
  · exact ⟨0, rfl⟩

namespace Escaped

variable {body : List Char} (h : Escaped body)
include h

/-- After an even number of backslashes, an escaped text leaves an even number again. -/
theorem even_at_end {before : List Char} (even : Even (backslashes before)) :
    Even (backslashes (before ++ body)) := by
  induction h generalizing before with
  | nil => rwa [List.append_nil]
  | @plain c w quote backslash _ ih =>
    rw [List.append_cons]
    refine ih ?_
    rw [backslashes_concat, if_neg backslash]
    exact ⟨0, rfl⟩
  | @pair c w _ ih =>
    have step := ih (even_backslashes_pair even c)
    rwa [List.append_assoc] at step

/-- A double quote stands after an odd number of backslashes. -/
theorem odd_before {before u v : List Char} (even : Even (backslashes before))
    (quoted : body = u ++ '"' :: v) : Odd (backslashes (before ++ u)) := by
  induction h generalizing before u with
  | nil => simp at quoted
  | @plain c w quote backslash _ ih =>
    cases u with
    | nil => exact absurd (List.cons.inj quoted).1 quote
    | cons d u =>
      obtain ⟨rfl, rest⟩ := List.cons.inj quoted
      rw [List.append_cons]
      refine ih ?_ rest
      rw [backslashes_concat, if_neg backslash]
      exact ⟨0, rfl⟩
  | @pair c w _ ih =>
    match u with
    | [] => cases (List.cons.inj quoted).1
    | [d] =>
      obtain ⟨rfl, -⟩ := List.cons.inj quoted
      rw [backslashes_concat, if_pos rfl]
      exact even.add_one
    | d :: e :: u =>
      obtain ⟨rfl, tails⟩ := List.cons.inj quoted
      obtain ⟨rfl, rest⟩ := List.cons.inj tails
      have step := ih (even_backslashes_pair even c) rest
      rwa [List.append_assoc] at step

theorem append_plain {v : List Char} (plain : ∀ c ∈ v, c ≠ '"' ∧ c ≠ '\\') :
    Escaped (v ++ body) := by
  induction v with
  | nil => exact h
  | cons c v ih =>
    obtain ⟨here, rest⟩ := List.forall_mem_cons.mp plain
    exact .plain here.1 here.2 (ih rest)

end Escaped

/-- The digits of an escape are neither double quotes nor backslashes. -/
theorem plain_of_mem_paddedHex {width n : Nat} {c : Char} (h : c ∈ paddedHex width n) :
    c ≠ '"' ∧ c ≠ '\\' := by
  obtain ⟨d, hd⟩ := digit_of_mem_paddedHex h
  have place := Numeral.toNat_of_digit? hd
  constructor <;> rintro rfl <;> simp at place

theorem escaped_labelChar (c : Char) {rest : List Char} (h : Escaped rest) :
    Escaped (labelChar c ++ rest) := by
  unfold labelChar
  split_ifs with quote backslash feed ret tab control ascii
  iterate 5 exact .pair h
  · exact .pair (h.append_plain fun d => plain_of_mem_paddedHex)
  · exact .pair (h.append_plain fun d => plain_of_mem_paddedHex)
  · exact .plain quote backslash h

/-- The body of a label. -/
theorem escaped_body (label : List Char) : Escaped (label.flatMap labelChar) := by
  induction label with
  | nil => exact .nil
  | cons c label ih => exact escaped_labelChar c ih

/-! ### Lines of a drawing -/

/-- The body of a label that cannot be left: no control characters, each double quote after an odd
number of backslashes, and no odd number of them at the end. -/
structure Sealed (body : List Char) : Prop where
  visible : ∀ c ∈ body, ¬ (c.toNat ≤ 0x1F ∨ 0x7F ≤ c.toNat ∧ c.toNat ≤ 0x9F)
  odd_before : ∀ u v, body = u ++ '"' :: v → Odd (backslashes u)
  not_odd : ¬ Odd (backslashes body)

theorem sealed_body (label : List Char) : Sealed (label.flatMap labelChar) where
  visible c hc := by
    obtain ⟨d, -, hd⟩ := List.mem_flatMap.mp hc
    have unseen := not_isControl_of_mem_labelChar hd
    unfold isControl at unseen
    simp only [Bool.or_eq_false_iff, Bool.and_eq_false_iff, decide_eq_false_iff_not] at unseen
    omega
  odd_before u v quoted := (escaped_body label).odd_before even_backslashes_nil quoted
  not_odd := by
    rw [Nat.not_odd_iff_even]
    exact (escaped_body label).even_at_end even_backslashes_nil

/-- The line that declares a package: its name, and a body that cannot be left. -/
def Declares (p : Package) (line : List Char) : Prop :=
  (∀ c ∈ nodeName p.id, isNameChar c = true) ∧ ∃ body, Sealed body ∧
    line = "    ".toList ++ nodeName p.id ++ " [label=\"".toList ++ body ++ "\"];".toList

/-- The line that links two ids under their names. -/
def Links (e : String × String) (line : List Char) : Prop :=
  (∀ c ∈ nodeName e.1 ++ nodeName e.2, isNameChar c = true) ∧
    line = "    ".toList ++ nodeName e.1 ++ " -> ".toList ++ nodeName e.2 ++ ";".toList

theorem declares_nodeLine (label : Label) (p : Package) : Declares p (nodeLine label p) := by
  refine ⟨fun c => isNameChar_of_mem_nodeName, _, sealed_body (label.render p), ?_⟩
  have opened : " [label=\"".toList = " [label=".toList ++ ['"'] := rfl
  have closed : "\"];".toList = '"' :: "];".toList := rfl
  rw [opened, closed]
  unfold nodeLine quote
  simp only [List.append_assoc, List.cons_append, List.nil_append]

theorem links_edgeLine (e : String × String) : Links e (edgeLine e) := by
  refine ⟨fun c hc => ?_, rfl⟩
  rcases List.mem_append.mp hc with hc | hc <;> exact isNameChar_of_mem_nodeName hc

/-- Whatever ids, imports and labels hold, the octets of a drawing are its lines, each ended by a line
feed and without another: the preamble, a line for each package in order of ids, a line for each edge
in order, and a brace. -/
theorem render_lines (label : Label) (g : Graph) : ∃ nodes edges all : List (List Char),
    List.Forall₂ Declares g.packages nodes ∧ List.Forall₂ Links g.edges edges ∧
    all = ["digraph G \x7b".toList, "    node [shape=rectangle];".toList,
      "    rankdir=LR;".toList] ++ nodes ++ edges ++ [['\x7d']] ∧
    all.length = 4 + g.size + g.edges.length ∧
    Text.encode (render label g).toList = all.flatMap (fun line => Text.encode line ++ [10]) ∧
    ∀ line ∈ all, 10 ∉ Text.encode line := by
  refine ⟨g.packages.map (nodeLine label), g.edges.map edgeLine, lines label g, ?_, ?_, rfl, ?_, ?_,
    fun line hline hfeed => ?_⟩
  · rw [List.forall₂_map_right_iff, List.forall₂_same]
    exact fun p _ => declares_nodeLine label p
  · rw [List.forall₂_map_right_iff, List.forall₂_same]
    exact fun e _ => links_edgeLine e
  · simp only [lines, draw, preamble, List.length_append, List.length_map, List.length_cons,
      List.length_nil, Graph.size]
    omega
  · rw [render, String.toList_ofList, document, Text.encode, List.flatMap_assoc]
    refine List.flatMap_congr fun line _ => ?_
    exact Text.encode_append line ['\n']
  · exact not_mem_lines hline ((Text.mem_encode (by decide)).mp hfeed)

/-! ### Reading labels back -/

/-- The character of some digits in base sixteen, and what follows them. -/
def hexChar? (width : Nat) (cs : List Char) : Option (Char × List Char) :=
  if cs.length < width then none
  else (Numeral.valueFrom? 16 0 (cs.take width)).bind fun n =>
    if n.isValidChar then some (Char.ofNat n, cs.drop width) else none

/-- The character that an escape stands for, given what follows its backslash, and the text after
it. -/
def escape? : List Char → Option (Char × List Char)
  | '"' :: rest => some ('"', rest)
  | '\\' :: rest => some ('\\', rest)
  | 'n' :: rest => some ('\n', rest)
  | 'r' :: rest => some ('\r', rest)
  | 't' :: rest => some ('\t', rest)
  | 'x' :: rest => hexChar? 2 rest
  | 'u' :: rest => hexChar? 4 rest
  | _ => none

theorem length_hexChar? {width : Nat} {cs rest : List Char} {c : Char}
    (h : hexChar? width cs = some (c, rest)) : rest.length ≤ cs.length := by
  unfold hexChar? at h
  split_ifs at h
  rw [Option.bind_eq_some_iff] at h
  obtain ⟨n, -, h⟩ := h
  split_ifs at h
  cases h
  rw [List.length_drop]
  omega

theorem length_escape? {cs rest : List Char} {c : Char} (h : escape? cs = some (c, rest)) :
    rest.length ≤ cs.length := by
  unfold escape? at h
  split at h
  iterate 5
    cases h
    exact Nat.le_succ _
  · exact (length_hexChar? h).trans (Nat.le_succ _)
  · exact (length_hexChar? h).trans (Nat.le_succ _)
  · cases h

/-- A text with each escape replaced by its character; all else stands for itself. -/
def unescape : List Char → List Char
  | [] => []
  | c :: cs =>
    match _escape : if c = '\\' then escape? cs else none with
    | some (d, rest) => d :: unescape rest
    | none => c :: unescape cs
termination_by cs => cs.length
decreasing_by
  · have escape : escape? cs = some (d, rest) := by
      split_ifs at _escape
      exact _escape
    have := length_escape? escape
    simp only [List.length_cons]
    omega
  · simp

/-- What stands between double quotes, read as a label. -/
def unquote (quoted : List Char) : List Char := unescape (quoted.drop 1).dropLast

theorem unescape_plain {c : Char} (h : c ≠ '\\') (cs : List Char) :
    unescape (c :: cs) = c :: unescape cs := by
  rw [unescape]
  split
  · next escape =>
    rw [if_neg h] at escape
    cases escape
  · rfl

theorem unescape_escape {c : Char} {cs rest : List Char} (h : escape? cs = some (c, rest)) :
    unescape ('\\' :: cs) = c :: unescape rest := by
  rw [unescape]
  split
  · next escape =>
    rw [if_pos rfl, h] at escape
    cases escape
    rfl
  · next none =>
    rw [if_pos rfl, h] at none
    cases none

/-- The digits of a character give it back. -/
theorem hexChar?_paddedHex {width : Nat} (pos : 0 < width) {c : Char} (hc : c.toNat < 16 ^ width)
    (rest : List Char) : hexChar? width (paddedHex width c.toNat ++ rest) = some (c, rest) := by
  have length : (paddedHex width c.toNat).length = width := by
    have digits := Nat.toDigits_length 16 c.toNat width pos hc
    simp only [paddedHex, Text.hexDigits, List.length_append, List.length_replicate]
    omega
  have value : Numeral.valueFrom? 16 0 (paddedHex width c.toNat) = some c.toNat := by
    rw [paddedHex, Numeral.valueFrom?_zeros (by decide)]
    exact Numeral.valueFrom?_toDigits (by decide) (by decide) c.toNat
  have valid : c.toNat.isValidChar := c.valid
  rw [hexChar?, if_neg (by rw [List.length_append]; omega), List.take_left' length,
    List.drop_left' length, value, Option.bind_some, if_pos valid, Char.ofNat_toNat]

/-- What stands for a character is read as that character. -/
theorem unescape_labelChar (c : Char) (rest : List Char) :
    unescape (labelChar c ++ rest) = c :: unescape rest := by
  unfold labelChar
  split_ifs with quote backslash feed ret tab control ascii
  iterate 5
    subst c
    exact unescape_escape rfl
  · exact unescape_escape (hexChar?_paddedHex (by decide) (by omega) rest)
  · have bound : c.toNat < 0xA0 := by
      simp only [isControl, Bool.or_eq_true, Bool.and_eq_true, decide_eq_true_eq] at control
      omega
    exact unescape_escape (hexChar?_paddedHex (by decide) (by omega) rest)
  · exact unescape_plain backslash rest

theorem unescape_body (label : List Char) : unescape (label.flatMap labelChar) = label := by
  induction label with
  | nil => rw [List.flatMap_nil, unescape]
  | cons c label ih => rw [List.flatMap_cons, unescape_labelChar, ih]

/-- A label is read back from between its quotes. -/
theorem unquote_quote (label : List Char) : unquote (quote label) = label := by
  rw [unquote, quote, List.drop_succ_cons, List.drop_zero, List.dropLast_concat, unescape_body]

/-! ### Reading the labels of a drawing -/

/-- The label that a statement gives a node. -/
def Statement.label? : Statement → Option (List Char)
  | node _ quoted => some (unquote quoted)
  | edge _ _ => none

/-- The labels of a drawing, in order. -/
def labels (text : String) : List (List Char) := (statements text).filterMap Statement.label?

theorem labels_render (label : Label) (g : Graph) :
    labels (render label g) = g.packages.map label.render := by
  rw [labels, statements_document, List.filterMap_append, List.filterMap_map, List.filterMap_map]
  simp [Function.comp_def, Statement.label?, unquote_quote]

theorem render_ofId (p : Package) : Label.ofId.render p = p.id.toList := by
  simp [Label.render, Label.ofId, Segment.render, Field.value]

/-- Each label is read back from between its quotes, so that no two are quoted alike; and the labels
of a drawing are read back from its text, in order of ids.  With ids as labels, the text tells which
packages there are. -/
theorem quote_reversible :
    (∀ label, unquote (quote label) = label) ∧ Function.Injective quote ∧
    (∀ label g, labels (render label g) = g.packages.map label.render) ∧
    ∀ g h, render .ofId g = render .ofId h → g.ids = h.ids := by
  refine ⟨unquote_quote, Function.LeftInverse.injective unquote_quote, labels_render,
    fun g h same => ?_⟩
  have read : g.packages.map Label.ofId.render = h.packages.map Label.ofId.render := by
    rw [← labels_render, ← labels_render, same]
  simp only [funext render_ofId] at read
  have inverse : String.ofList ∘ (fun p : Package => p.id.toList) = (·.id) :=
    funext fun p => String.ofList_toList
  have ids := congrArg (List.map String.ofList) read
  rwa [List.map_map, List.map_map, inverse] at ids

/-- A backslash and the digits of a control character are not taken for that character, and an import
that is not held does not show. -/
theorem quote_reversible_backslash :
    let g := Graph.ofList [⟨"a\\x01", ["b"]⟩]
    let h := Graph.ofList [⟨"a\\x01", []⟩]
    render .ofId g = render .ofId h ∧ g.ids = h.ids ∧
      quote ['\\', 'x', '0', '1'] ≠ quote ['\x01'] := by
  intro g h
  obtain ⟨-, injective, -, ids⟩ := quote_reversible
  have line : nodeLine .ofId ⟨"a\\x01", ["b"]⟩ = nodeLine .ofId ⟨"a\\x01", []⟩ := by
    unfold nodeLine
    rw [render_ofId, render_ofId]
  have nodes : g.packages.map (nodeLine .ofId) = h.packages.map (nodeLine .ofId) :=
    congrArg (fun line => [line]) line
  have edges : g.edges = h.edges := by
    simp [g, h, Graph.ofList, Graph.insert, Graph.place, Graph.empty, Graph.edges, Graph.contains]
  have same : render .ofId g = render .ofId h := by
    rw [render, render, document, document, lines, lines, draw, draw, nodes, edges]
  exact ⟨same, ids g h same, injective.ne (by decide)⟩

end PackageCensus.Dot
