import PackageCensus.Yaml.Token

/-! # Nodes of YAML documents

A document is a node: a scalar, a sequence, a mapping, or an alias that stands for a node marked
by an anchor.  `document?` makes the one document of a token list into a node.  Where the grammar
asks for a node and none is written, an empty plain scalar stands.

Each reader of a part gives the tokens behind it together with the proof that they are no more
than before.  A node takes at least one token, and so does every entry of a collection, so the
readers end. -/

namespace PackageCensus.Yaml

/-- What may be written before a node. -/
structure Marks where
  anchor : Option (List Char) := none
  tag : Option Tag := none
deriving DecidableEq

/-- Whether nothing is written before a node. -/
def Marks.isEmpty (m : Marks) : Bool := m.anchor.isNone && m.tag.isNone

/-- A node. -/
inductive Node where
  | alias (name : List Char)
  | scalar (marks : Marks) (style : Style) (text : List Char)
  | sequence (marks : Marks) (items : List Node)
  | mapping (marks : Marks) (entries : List (Node × Node))

/-- The node that stands where none is written. -/
def Node.empty : Node := .scalar {} .plain []

/-- What the handles of tags stand for. -/
abbrev Handles := List (List Char × Tag)

/-- The handles that need no directive. -/
def defaultHandles : Handles :=
  [(['!'], .bare), (['!', '!'], .ofText "tag:yaml.org,2002:")]

/-- The full text of a tag; none if its handle is not known. -/
def resolveTag (handles : Handles) (handle : List Char) (suffix : Tag) : Option Tag :=
  if handle.isEmpty then some suffix
  else (handles.lookup handle).map (· ++ suffix)

/-- Tokens that are no more than some others. -/
abbrev Rest (ts : List Token) := { rest : List Token // rest.length ≤ ts.length }

/-- Tokens that are fewer than some others. -/
abbrev Fewer (ts : List Token) := { rest : List Token // rest.length < ts.length }

/-- The marks before a node, in either order, and the tokens behind them. -/
def readMarks (handles : Handles) (ts : List Token) : Option (Marks × Rest ts) :=
  match ts with
  | .anchor a :: .tag h s :: rest =>
    (resolveTag handles h s).map fun t => (⟨some a, some t⟩, ⟨rest, by simp; omega⟩)
  | .tag h s :: .anchor a :: rest =>
    (resolveTag handles h s).map fun t => (⟨some a, some t⟩, ⟨rest, by simp; omega⟩)
  | .anchor a :: rest => some (⟨some a, none⟩, ⟨rest, by simp⟩)
  | .tag h s :: rest =>
    (resolveTag handles h s).map fun t => (⟨none, some t⟩, ⟨rest, by simp⟩)
  | ts => some ({}, ⟨ts, Nat.le_refl _⟩)

/-- The marks of a scalar: the tag that is an exclamation mark alone is none. -/
def Marks.ofScalar (m : Marks) : Marks :=
  if m.tag = some .bare then { m with tag := none } else m

/-- Whether an entry of a block mapping has no node here. -/
def endsBlockEntry : List Token → Bool
  | .key :: _ | .value :: _ | .blockEnd :: _ => true
  | _ => false

/-- Whether an entry of a block sequence has no node here. -/
def endsSequenceEntry : List Token → Bool
  | .blockEntry :: _ | .blockEnd :: _ => true
  | _ => false

/-- Whether an entry of a sequence at the column of its mapping has no node here. -/
def endsIndentlessEntry (ts : List Token) : Bool := endsBlockEntry ts || endsSequenceEntry ts

/-- Whether an entry of a flow sequence has no node here. -/
def endsFlowItem : List Token → Bool
  | .flowEntry :: _ | .flowSequenceEnd :: _ => true
  | _ => false

/-- Whether an entry of a flow mapping has no node here. -/
def endsFlowEntry : List Token → Bool
  | .flowEntry :: _ | .flowMappingEnd :: _ => true
  | _ => false

/-- The tokens of an item of a flow collection: a comma stands before each item but the first. -/
def afterComma (first : Bool) (ts : List Token) : Option (Rest ts) :=
  if first then some ⟨ts, Nat.le_refl _⟩
  else match ts with
    | .flowEntry :: rest => some ⟨rest, by simp⟩
    | _ => none

/-- The kinds of nodes that a token can begin. -/
inductive NodeStart where
  | scalar (style : Style) (text : List Char)
  | flowSequence
  | flowMapping
  | blockSequence
  | blockMapping
  | indentless
  | none

/-- What a token begins where collections in block style, or a sequence without a start of its
own, are allowed or not. -/
def NodeStart.of (block indentless : Bool) : Token → NodeStart
  | .scalar style text => .scalar style text
  | .flowSequenceStart => .flowSequence
  | .flowMappingStart => .flowMapping
  | .blockSequenceStart => if block then .blockSequence else .none
  | .blockMappingStart => if block then .blockMapping else .none
  | .blockEntry => if indentless then .indentless else .none
  | _ => .none

mutual

/-- Reads a node.  `block` allows collections in block style, `indentless` a sequence without a
start of its own.  Behind marks the node itself may be missing. -/
def readNode (handles : Handles) (block indentless : Bool) (ts : List Token) :
    Option (Node × Fewer ts) :=
  match ts with
  | .alias name :: rest => some (.alias name, ⟨rest, by simp⟩)
  | ts =>
    match readMarks handles ts with
    | none => none
    | some (marks, ⟨rest, le⟩) =>
      match rest with
      | [] => if h : 0 < ts.length then some (.scalar marks .plain [], ⟨[], h⟩) else none
      | t :: more =>
        match NodeStart.of block indentless t with
        | .scalar style text =>
          some (.scalar marks.ofScalar style text,
            ⟨more, by simp only [List.length_cons] at le; omega⟩)
        | .flowSequence =>
          match readFlowItems handles true more with
          | none => none
          | some (items, ⟨after, h⟩) =>
            some (.sequence marks items, ⟨after, by simp only [List.length_cons] at le; omega⟩)
        | .flowMapping =>
          match readFlowEntries handles true more with
          | none => none
          | some (entries, ⟨after, h⟩) =>
            some (.mapping marks entries, ⟨after, by simp only [List.length_cons] at le; omega⟩)
        | .indentless =>
          match readIndentless handles more with
          | none => none
          | some (items, ⟨after, h⟩) =>
            some (.sequence marks items, ⟨after, by simp only [List.length_cons] at le; omega⟩)
        | .blockSequence =>
          match readItems handles more with
          | none => none
          | some (items, ⟨after, h⟩) =>
            some (.sequence marks items, ⟨after, by simp only [List.length_cons] at le; omega⟩)
        | .blockMapping =>
          match readEntries handles more with
          | none => none
          | some (entries, ⟨after, h⟩) =>
            some (.mapping marks entries, ⟨after, by simp only [List.length_cons] at le; omega⟩)
        | .none =>
          if h : (t :: more).length < ts.length then
            some (.scalar marks .plain [], ⟨t :: more, h⟩)
          else none
termination_by (ts.length, 0)
decreasing_by all_goals (simp only [List.length_cons] at le; exact Prod.Lex.left _ _ (by omega))

/-- Reads the entries of a block sequence and its end. -/
def readItems (handles : Handles) (ts : List Token) : Option (List Node × Rest ts) :=
  match ts with
  | .blockEnd :: rest => some ([], ⟨rest, by simp⟩)
  | .blockEntry :: more =>
    if endsSequenceEntry more then
      match readItems handles more with
      | none => none
      | some (items, ⟨after, h⟩) =>
        some (.empty :: items, ⟨after, by simp only [List.length_cons]; omega⟩)
    else match readNode handles true false more with
      | none => none
      | some (item, ⟨rest, lt⟩) =>
        match readItems handles rest with
        | none => none
        | some (items, ⟨after, h⟩) =>
          some (item :: items, ⟨after, by simp only [List.length_cons]; omega⟩)
  | _ => none
termination_by (ts.length, 0)
decreasing_by all_goals (exact Prod.Lex.left _ _ (by simp only [List.length_cons]; omega))

/-- Reads the entries of a sequence that stands at the column of its mapping, the mark of the
first entry being read. -/
def readIndentless (handles : Handles) (ts : List Token) : Option (List Node × Rest ts) :=
  if endsIndentlessEntry ts then
    match ts with
    | .blockEntry :: more =>
      match readIndentless handles more with
      | none => none
      | some (items, ⟨after, h⟩) =>
        some (.empty :: items, ⟨after, by simp only [List.length_cons]; omega⟩)
    | ts => some ([.empty], ⟨ts, Nat.le_refl _⟩)
  else match readNode handles true false ts with
    | none => none
    | some (item, ⟨[], lt⟩) => some ([item], ⟨[], Nat.le_of_lt lt⟩)
    | some (item, ⟨t :: more, lt⟩) =>
      if t == .blockEntry then
        match readIndentless handles more with
        | none => none
        | some (items, ⟨after, h⟩) =>
          some (item :: items, ⟨after, by simp only [List.length_cons] at lt; omega⟩)
      else some ([item], ⟨t :: more, Nat.le_of_lt lt⟩)
termination_by (ts.length, 1)
decreasing_by
  · exact Prod.Lex.left _ _ (by simp)
  · exact Prod.Lex.right _ (by omega)
  · simp only [List.length_cons] at lt
    exact Prod.Lex.left _ _ (by omega)

/-- Reads the entries of a block mapping and its end. -/
def readEntries (handles : Handles) (ts : List Token) : Option (List (Node × Node) × Rest ts) :=
  match ts with
  | .blockEnd :: rest => some ([], ⟨rest, by simp⟩)
  | .key :: more =>
    match readBlockPart handles more with
    | none => none
    | some (key, ⟨rest, le⟩) =>
      match readBlockValue handles rest with
      | none => none
      | some (value, ⟨after, le'⟩) =>
        match readEntries handles after with
        | none => none
        | some (entries, ⟨last, h⟩) =>
          some ((key, value) :: entries, ⟨last, by simp only [List.length_cons]; omega⟩)
  | _ => none
termination_by (ts.length, 0)
decreasing_by all_goals (exact Prod.Lex.left _ _ (by simp only [List.length_cons]; omega))

/-- Reads a key or a value of a block mapping behind its mark. -/
def readBlockPart (handles : Handles) (ts : List Token) : Option (Node × Rest ts) :=
  if endsBlockEntry ts then some (.empty, ⟨ts, Nat.le_refl _⟩)
  else match readNode handles true true ts with
    | none => none
    | some (n, ⟨rest, lt⟩) => some (n, ⟨rest, Nat.le_of_lt lt⟩)
termination_by (ts.length, 1)

/-- Reads the value of an entry of a block mapping, if one is written. -/
def readBlockValue (handles : Handles) (ts : List Token) : Option (Node × Rest ts) :=
  match ts with
  | .value :: more =>
    match readBlockPart handles more with
    | none => none
    | some (n, ⟨rest, le⟩) => some (n, ⟨rest, by simp only [List.length_cons]; omega⟩)
  | ts => some (.empty, ⟨ts, Nat.le_refl _⟩)
termination_by (ts.length, 2)

/-- Reads the items of a flow sequence and its end; an item may be a mapping of one entry. -/
def readFlowItems (handles : Handles) (first : Bool) (ts : List Token) :
    Option (List Node × Rest ts) :=
  match ts with
  | .flowSequenceEnd :: rest => some ([], ⟨rest, by simp⟩)
  | ts =>
    match afterComma first ts with
    | none => none
    | some ⟨[], _⟩ => none
    | some ⟨t :: more, le⟩ =>
      if t == .flowSequenceEnd then
        some ([], ⟨more, by simp only [List.length_cons] at le; omega⟩)
      else if t == .key then
        match readFlowPair handles more with
        | none => none
        | some (item, ⟨rest, le'⟩) =>
          match readFlowItems handles false rest with
          | none => none
          | some (items, ⟨after, h⟩) =>
            some (item :: items, ⟨after, by simp only [List.length_cons] at le; omega⟩)
      else
        match readNode handles false false (t :: more) with
        | none => none
        | some (item, ⟨rest, lt⟩) =>
          match readFlowItems handles false rest with
          | none => none
          | some (items, ⟨after, h⟩) => some (item :: items, ⟨after, by omega⟩)
termination_by (ts.length, 1)
decreasing_by
  · simp only [List.length_cons] at le
    exact Prod.Lex.left _ _ (by omega)
  · simp only [List.length_cons] at le
    exact Prod.Lex.left _ _ (by omega)
  · rcases Nat.lt_or_eq_of_le le with h | h
    · exact Prod.Lex.left _ _ h
    · rw [h]; exact Prod.Lex.right _ (by omega)
  · exact Prod.Lex.left _ _ (by omega)

/-- Reads the one entry of a mapping that is an item of a flow sequence, behind the mark of its
key.  Where the key is missing, the token in its place is lost. -/
def readFlowPair (handles : Handles) (ts : List Token) : Option (Node × Rest ts) :=
  if ts.head? == some .value || endsFlowItem ts then
    match readFlowValue handles endsFlowItem (ts.drop 1) with
    | none => none
    | some (value, ⟨rest, le⟩) =>
      some (.mapping {} [(.empty, value)], ⟨rest, by simp at le; omega⟩)
  else
    match readNode handles false false ts with
    | none => none
    | some (key, ⟨rest, lt⟩) =>
      match readFlowValue handles endsFlowItem rest with
      | none => none
      | some (value, ⟨after, le⟩) => some (.mapping {} [(key, value)], ⟨after, by omega⟩)
termination_by (ts.length, 2)
decreasing_by
  · rcases Nat.lt_or_eq_of_le (show (ts.drop 1).length ≤ ts.length by simp) with h | h
    · exact Prod.Lex.left _ _ h
    · rw [h]; exact Prod.Lex.right _ (by omega)
  · exact Prod.Lex.right _ (by omega)
  · exact Prod.Lex.left _ _ (by omega)

/-- Reads the value of an entry of a flow collection, if one is written; `ends` tells where a
value is missing behind its mark. -/
def readFlowValue (handles : Handles) (ends : List Token → Bool) (ts : List Token) :
    Option (Node × Rest ts) :=
  match ts with
  | .value :: more =>
    if ends more then some (.empty, ⟨more, by simp⟩)
    else match readNode handles false false more with
      | none => none
      | some (n, ⟨rest, lt⟩) => some (n, ⟨rest, by simp only [List.length_cons]; omega⟩)
  | ts => some (.empty, ⟨ts, Nat.le_refl _⟩)
termination_by (ts.length, 1)

/-- Reads the entries of a flow mapping and its end. -/
def readFlowEntries (handles : Handles) (first : Bool) (ts : List Token) :
    Option (List (Node × Node) × Rest ts) :=
  match ts with
  | .flowMappingEnd :: rest => some ([], ⟨rest, by simp⟩)
  | ts =>
    match afterComma first ts with
    | none => none
    | some ⟨[], _⟩ => none
    | some ⟨t :: more, le⟩ =>
      if t == .flowMappingEnd then
        some ([], ⟨more, by simp only [List.length_cons] at le; omega⟩)
      else if t == .key then
        match readFlowKey handles more with
        | none => none
        | some (key, ⟨rest, le'⟩) =>
          match readFlowValue handles endsFlowEntry rest with
          | none => none
          | some (value, ⟨last, le''⟩) =>
            match readFlowEntries handles false last with
            | none => none
            | some (entries, ⟨after, h⟩) =>
              some ((key, value) :: entries,
                ⟨after, by simp only [List.length_cons] at le; omega⟩)
      else
        match readNode handles false false (t :: more) with
        | none => none
        | some (key, ⟨rest, lt⟩) =>
          match readFlowEntries handles false rest with
          | none => none
          | some (entries, ⟨after, h⟩) => some ((key, .empty) :: entries, ⟨after, by omega⟩)
termination_by (ts.length, 1)
decreasing_by
  · simp only [List.length_cons] at le
    exact Prod.Lex.left _ _ (by omega)
  · simp only [List.length_cons] at le
    exact Prod.Lex.left _ _ (by omega)
  · simp only [List.length_cons] at le
    exact Prod.Lex.left _ _ (by omega)
  · rcases Nat.lt_or_eq_of_le le with h | h
    · exact Prod.Lex.left _ _ h
    · rw [h]; exact Prod.Lex.right _ (by omega)
  · exact Prod.Lex.left _ _ (by omega)

/-- Reads the key of an entry of a flow mapping behind its mark. -/
def readFlowKey (handles : Handles) (ts : List Token) : Option (Node × Rest ts) :=
  if endsFlowEntry ts || ts.head? == some .value then some (.empty, ⟨ts, Nat.le_refl _⟩)
  else match readNode handles false false ts with
    | none => none
    | some (n, ⟨rest, lt⟩) => some (n, ⟨rest, Nat.le_of_lt lt⟩)
termination_by (ts.length, 1)

end

/-! ### Documents -/

/-- Reads the directives before a document: at most one version, and no handle twice. -/
def readDirectives : Bool → Handles → List Token → Option (Handles × List Token)
  | versioned, handles, .versionDirective major minor :: rest =>
    if versioned || major != 1 || (minor != 1 && minor != 2) then none
    else readDirectives true handles rest
  | versioned, handles, .tagDirective handle expansion :: rest =>
    if handles.any (·.1 == handle) then none
    else readDirectives versioned (handles ++ [(handle, expansion)]) rest
  | _, handles, rest => some (handles ++ defaultHandles, rest)

/-- Whether a document has no node here. -/
def endsDocument : List Token → Bool
  | [] | .versionDirective .. :: _ | .tagDirective .. :: _ | .documentStart :: _
  | .documentEnd :: _ => true
  | _ => false

/-- What a text without a document gives, and one with a document. -/
inductive Content where
  | void
  | node (n : Node)

/-- The node of a document and what follows it. -/
def readDocument (ts : List Token) : Option (Node × List Token) :=
  match ts with
  | .versionDirective .. :: _ | .tagDirective .. :: _ | .documentStart :: _ =>
    match readDirectives false [] ts with
    | some (handles, .documentStart :: rest) =>
      if endsDocument rest then some (.empty, rest)
      else match readNode handles true false rest with
        | some (n, ⟨rest, _⟩) => some (n, rest)
        | none => none
    | _ => none
  | ts =>
    match readNode defaultHandles true false ts with
    | some (n, ⟨rest, _⟩) => some (n, rest)
    | none => none

/-- The document that a token list holds: none if it is not sound or holds more than one. -/
def document? (ts : List Token) : Option Content :=
  if ts.isEmpty then some .void
  else match readDocument ts with
    | some (n, rest) => if rest.all (· == .documentEnd) then some (.node n) else none
    | none => none

end PackageCensus.Yaml
