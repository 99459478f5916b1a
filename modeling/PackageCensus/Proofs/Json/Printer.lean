import PackageCensus.Proofs.Json.Reader

/-! # Reading back what is written

Both layouts of a tree of values are texts of one document (`written_compact`, `written_pretty`),
and the document of a value of a clear shape depicts the value (`depicts_shapeValue`).  So reading
undoes writing in both layouts (`readAs_writeCompact`, `readAs_writePretty`), and for a type with a
clear shape parsing gives what the type makes of its own carrier (`parse_compactText`,
`parse_prettyText`). -/

namespace PackageCensus.Json

/-! ### Strings and numbers -/

/-- The piece that a character is written as: a unit, if it is a control without a letter of its
own. -/
def writtenPiece (c : Char) : Piece :=
  if c.toNat < 0x20 ∧ c ∉ ['\x08', '\x0c', '\n', '\r', '\t'] then .unit c.toNat else .char c

theorem written_escapedChar (c : Char) : WrittenPiece (writtenPiece c) (escapedChar c) := by
  unfold escapedChar
  repeat' split
  iterate 7
    next h =>
      subst h
      exact .escape rfl
  · next h₃ h₄ h₅ h₆ h₇ control =>
    have key : ∀ n < 0x20, unit? '0' '0' (Nat.digitChar (n / 16)) (Nat.digitChar (n % 16))
        = some n := by decide
    rw [writtenPiece, if_pos ⟨control, by simp [*]⟩]
    exact .unit (key c.toNat control)
  · next quote backslash _ _ _ _ _ printed =>
    rw [writtenPiece, if_neg fun control => printed control.1]
    exact .plain quote backslash (Nat.not_lt.mp printed)

theorem written_pieces (cs : List Char) :
    WrittenPieces (cs.map writtenPiece) (cs.flatMap escapedChar ++ ['"']) := by
  induction cs with
  | nil => exact .close
  | cons c cs ih =>
    rw [List.map_cons, List.flatMap_cons, List.append_assoc]
    exact .cons (written_escapedChar c) ih

theorem joined?_cons (c : Char) (rest : List Piece) :
    joined? (writtenPiece c :: rest) = (joined? rest).map (c :: ·) := by
  unfold writtenPiece
  split
  · next control =>
    have leading : isLeading c.toNat = false := by
      simp only [isLeading, Bool.and_eq_false_iff, decide_eq_false_iff_not]
      omega
    have trailing : isTrailing c.toNat = false := by
      simp only [isTrailing, Bool.and_eq_false_iff, decide_eq_false_iff_not]
      omega
    rw [joined?.eq_def]
    simp [leading, trailing]
  · rfl

theorem joined?_writtenPiece (cs : List Char) : joined? (cs.map writtenPiece) = some cs := by
  induction cs with
  | nil => rfl
  | cons c cs ih =>
    rw [List.map_cons, joined?_cons, ih]
    rfl

theorem written_integerText (n : Int) : (NumberForm.ofInt n).Written (integerText n) := by
  have unsigned := NumberForm.writtenUnsigned_ofInt n
  unfold integerText
  split
  · next negative => exact .negative (decide_eq_true negative) unsigned
  · next negative => exact .positive (decide_eq_false negative) unsigned

/-! ### Trees of values -/

mutual

/-- The document that a value is written as. -/
def Value.document : Value → Document
  | .null => .null
  | .boolean b => .boolean b
  | .integer n => .number (.ofInt n)
  | .text s => .text (s.toList.map writtenPiece)
  | .list items => .list (itemDocuments items)
  | .object members => .object (memberDocuments members)

/-- The documents of the items of a list. -/
def itemDocuments : List Value → List Document
  | [] => []
  | item :: items => item.document :: itemDocuments items

/-- The documents of the members of an object. -/
def memberDocuments : List (String × Value) → Members
  | [] => []
  | (name, value) :: members =>
    (name.toList.map writtenPiece, value.document) :: memberDocuments members

end

mutual

/-- A value without blanks is a text of its document. -/
theorem written_compact : (v : Value) → Written v.document (compact v)
  | .null => .null
  | .boolean b => .boolean b
  | .integer n => .number (written_integerText n)
  | .text s => .text (written_pieces s.toList)
  | .list [] => .emptyList blank_nil
  | .list (item :: items) => .list (written_compactItems items (written_compact item))
  | .object [] => .emptyObject blank_nil
  | .object ((name, value) :: members) =>
    .object (written_compactMembers members (written_pieces name.toList) (written_compact value))

theorem written_compactItems : (items : List Value) → {d : Document} → {cs : List Char} →
    Written d cs → WrittenItems (d :: itemDocuments items) (cs ++ compactItems items)
  | [], _, _, written => .last blank_nil written blank_nil
  | item :: items, _, _, written =>
    .cons blank_nil written blank_nil (written_compactItems items (written_compact item))

theorem written_compactMembers : (members : List (String × Value)) → {name : List Piece} →
    {d : Document} → {ns cs : List Char} → WrittenPieces name ns → Written d cs →
    WrittenMembers ((name, d) :: memberDocuments members)
      ('"' :: (ns ++ ':' :: (cs ++ compactMembers members)))
  | [], _, _, _, _, name, written =>
    .last blank_nil name blank_nil blank_nil written blank_nil
  | (own, value) :: members, _, _, _, _, name, written =>
    .cons blank_nil name blank_nil blank_nil written blank_nil
      (written_compactMembers members (written_pieces own.toList) (written_compact value))

end

theorem blank_newLine (depth : Nat) : Blank (newLine depth) := by
  intro c hc
  rcases List.mem_cons.mp hc with rfl | hc
  · rfl
  · rw [(List.mem_replicate.mp hc).2]
    rfl

theorem blank_space : Blank [' '] := by
  intro c hc
  rw [List.mem_singleton.mp hc]
  rfl

mutual

/-- A value with its parts on lines of their own is a text of its document. -/
theorem written_pretty : (depth : Nat) → (v : Value) → Written v.document (pretty depth v)
  | _, .null => .null
  | _, .boolean b => .boolean b
  | _, .integer n => .number (written_integerText n)
  | _, .text s => .text (written_pieces s.toList)
  | _, .list [] => .emptyList blank_nil
  | depth, .list (item :: items) => by
    rw [pretty, List.append_assoc]
    exact .list (written_prettyItems depth items (written_pretty (depth + 1) item))
  | _, .object [] => .emptyObject blank_nil
  | depth, .object ((name, value) :: members) => by
    rw [pretty, List.append_assoc]
    exact .object (written_prettyMembers depth members (written_pieces name.toList)
      (written_pretty (depth + 1) value))

theorem written_prettyItems : (depth : Nat) → (items : List Value) → {d : Document} →
    {cs : List Char} → Written d cs → WrittenItems (d :: itemDocuments items)
      (newLine (depth + 1) ++ (cs ++ prettyItems depth items))
  | depth, [], _, _, written => .last (blank_newLine _) written (blank_newLine depth)
  | depth, item :: items, _, _, written => by
    rw [prettyItems, List.append_assoc]
    exact .cons (blank_newLine _) written blank_nil
      (written_prettyItems depth items (written_pretty (depth + 1) item))

theorem written_prettyMembers : (depth : Nat) → (members : List (String × Value)) →
    {name : List Piece} → {d : Document} → {ns cs : List Char} → WrittenPieces name ns →
    Written d cs → WrittenMembers ((name, d) :: memberDocuments members)
      (newLine (depth + 1) ++ '"' :: (ns ++ ':' :: ' ' :: (cs ++ prettyMembers depth members)))
  | depth, [], _, _, _, _, name, written =>
    .last (blank_newLine _) name blank_nil blank_space written (blank_newLine depth)
  | depth, (own, value) :: members, _, _, _, _, name, written => by
    rw [prettyMembers, List.append_assoc]
    exact .cons (blank_newLine _) name blank_nil blank_space written blank_nil
      (written_prettyMembers depth members (written_pieces own.toList)
        (written_pretty (depth + 1) value))

end

/-! ### Values of shapes -/

theorem isText_document (s : String) : IsText (Value.text s).document s :=
  ⟨_, rfl, joined?_writtenPiece s.toList⟩

theorem named_memberDocuments : (members : List (String × Value)) → Named (memberDocuments members)
  | [] => by
    intro m hm
    cases hm
  | (name, value) :: members => by
    intro m hm
    rcases List.mem_cons.mp hm with rfl | hm
    · exact Option.isSome_of_eq_some (joined?_writtenPiece name.toList)
    · exact named_memberDocuments members m hm

section Under

variable {own : String} {value : Value} {members : List (String × Value)}

theorem under_own : under own (memberDocuments ((own, value) :: members)) =
    value.document :: under own (memberDocuments members) :=
  under_cons (joined?_writtenPiece own.toList)

theorem under_other {name : String} (other : name ≠ own) :
    under own (memberDocuments ((name, value) :: members)) =
      under own (memberDocuments members) := by
  refine under_cons_other fun same => other ?_
  rw [joined?_writtenPiece] at same
  exact String.toList_inj.mp (Option.some.inj same)

/-- Nothing stands under a name that no member has. -/
theorem under_fresh (fresh : ∀ m ∈ members, m.1 ≠ own) :
    under own (memberDocuments members) = [] := by
  induction members with
  | nil => rfl
  | cons m members ih =>
    rw [under_other (fresh m (.head _)), ih fun m hm => fresh m (.tail _ hm)]

end Under

/-- The members of a record have names of its fields. -/
theorem name_mem_of_memberValues : (fields : Fields) → (values : fields.Carrier) →
    ∀ m ∈ memberValues fields values, m.1 ∈ fields.names
  | .nil, () => by
    intro m hm
    cases hm
  | .required _ shape rest, (value, values) => by
    intro m hm
    rcases List.mem_cons.mp hm with rfl | hm
    · exact .head _
    · exact .tail _ (name_mem_of_memberValues rest values m hm)
  | .defaulted _ shape rest, (none, values) => by
    intro m hm
    exact .tail _ (name_mem_of_memberValues rest values m hm)
  | .defaulted _ shape rest, (some value, values) => by
    intro m hm
    rcases List.mem_cons.mp hm with rfl | hm
    · exact .head _
    · exact .tail _ (name_mem_of_memberValues rest values m hm)


/-- A member of another name changes nothing for the fields of a record. -/
theorem depicted_cons {own : String} {v : Value} {members : List (String × Value)} :
    (fields : Fields) → own ∉ fields.names → {values : fields.Carrier} →
    fields.Depicted (memberDocuments members) values →
    fields.Depicted (memberDocuments ((own, v) :: members)) values
  | .nil, _, (), _ => trivial
  | .required name shape rest, fresh, (value, values), h
  | .defaulted name shape rest, fresh, (value, values), h => by
    obtain ⟨other, fresh⟩ := not_or.mp (List.mem_cons.not.mp fresh)
    exact ⟨h.1.congr (under_other other).symm, depicted_cons rest fresh h.2⟩

/-- Nothing stands under a name that no field has. -/
theorem under_memberValues {own : String} {fields : Fields} (values : fields.Carrier)
    (fresh : own ∉ fields.names) :
    under own (memberDocuments (memberValues fields values)) = [] := by
  refine under_fresh fun m hm same => fresh ?_
  rw [← same]
  exact name_mem_of_memberValues fields values m hm

/-- A field gives its value, where no other has its name. -/
theorem given_own {own : String} {shape : Shape} {rest : Fields} (value : shape.Carrier)
    (values : rest.Carrier) (fresh : own ∉ rest.names)
    (depicts : shape.Depicts (shapeValue shape value).document value) :
    Given shape.Depicts own
      (memberDocuments ((own, shapeValue shape value) :: memberValues rest values))
      (some value) := by
  refine ⟨_, under_own.trans ?_, depicts⟩
  rw [under_memberValues values fresh]

theorem itemDocuments_eq_map (items : List Value) :
    itemDocuments items = items.map Value.document := by
  induction items with
  | nil => rfl
  | cons item items ih => rw [itemDocuments, ih, List.map_cons]

mutual

/-- The document of a value of a clear shape depicts the value. -/
theorem depicts_shapeValue : (s : Shape) → s.clear = true → (value : s.Carrier) →
    s.Depicts (shapeValue s value).document value
  | .text _, _, s => isText_document s
  | .letter, _, c => isText_document (String.singleton c)
  | .flag, _, _ | .unsigned _, _, _ | .signed, _, _ => rfl
  | .list item, clear, values => by
    refine ⟨_, rfl, ?_⟩
    rw [itemDocuments_eq_map, List.map_map, List.forall₂_map_left_iff, List.forall₂_same]
    exact fun value _ => depicts_shapeValue item clear value
  | .optional inner, _, none => rfl
  | .optional inner, clear, some value => by
    simp only [Shape.clear, Bool.and_eq_true] at clear
    exact depicts_shapeValue inner clear.2 value
  | .record _ fields, clear, values =>
    ⟨_, rfl, named_memberDocuments _, depicted_memberValues fields clear values⟩

/-- The members of a record give its values. -/
theorem depicted_memberValues : (fields : Fields) → fields.clear = true →
    (values : fields.Carrier) →
    fields.Depicted (memberDocuments (memberValues fields values)) values
  | .nil, _, () => trivial
  | .required own shape rest, clear, (value, values)
  | .defaulted own shape rest, clear, (some value, values) => by
    obtain ⟨fresh, clear, clearRest⟩ := clear_required clear
    exact ⟨given_own value values fresh (depicts_shapeValue shape clear value),
      depicted_cons rest fresh (depicted_memberValues rest clearRest values)⟩
  | .defaulted own shape rest, clear, (none, values) => by
    obtain ⟨fresh, -, clearRest⟩ := clear_required clear
    exact ⟨under_memberValues values fresh, depicted_memberValues rest clearRest values⟩

end

/-! ### Documents -/

theorem holds_of_written {d : Document} {cs : List Char} (written : Written d cs) :
    Holds (String.ofList cs) d :=
  ⟨[], cs, [], blank_nil, written, blank_nil, by simp⟩

/-- A document without blanks is read as the value that it was written from. -/
theorem readAs_writeCompact {s : Shape} (clear : s.clear = true) (value : s.Carrier) :
    readAs s (writeCompact s value) = .ok value :=
  readAs_holds clear (holds_of_written (written_compact _)) (depicts_shapeValue s clear value)

/-- A document of many lines is read as the value that it was written from. -/
theorem readAs_writePretty {s : Shape} (clear : s.clear = true) (value : s.Carrier) :
    readAs s (writePretty s value) = .ok value :=
  readAs_holds clear (holds_of_written (written_pretty 0 _)) (depicts_shapeValue s clear value)

variable {α : Type} [Shaped α]

/-- Parsing a document without blanks gives what its type makes of its own carrier. -/
theorem parse_compactText (clear : (Shaped.shape α).clear = true) (a : α) :
    parse α (compactText a) = .ok (Shaped.ofCarrier (Shaped.toCarrier a)) := by
  rw [parse, compactText, readAs_writeCompact clear]
  rfl

/-- Parsing a document of many lines gives what its type makes of its own carrier. -/
theorem parse_prettyText (clear : (Shaped.shape α).clear = true) (a : α) :
    parse α (prettyText a) = .ok (Shaped.ofCarrier (Shaped.toCarrier a)) := by
  rw [parse, prettyText, readAs_writePretty clear]
  rfl

end PackageCensus.Json
