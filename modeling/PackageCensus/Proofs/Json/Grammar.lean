import PackageCensus.Json.Printer
import PackageCensus.Json.Token
import PackageCensus.Proofs.Json.Number

/-! # The grammar of JSON documents

A `Document` is what a text says, with its numbers and strings as they are written: numbers by their
digits, strings by their pieces, the members of an object in their order, whatever their names.  Its
texts are those of the grammar, with blanks around every value and every name (`Written`).

Whatever stands behind a text of a document, and does not go on with a number, the text is cut into
the `tokens` of the document (`spells_written`). -/

namespace PackageCensus.Json

/-- What a text says. -/
inductive Document where
  | null
  | boolean (b : Bool)
  | number (form : NumberForm)
  | text (pieces : List Piece)
  | list (items : List Document)
  | object (members : List (List Piece × Document))

/-! ### The texts of a document -/

/-- A text of blanks. -/
def Blank (cs : List Char) : Prop := ∀ c ∈ cs, isSpace c = true

/-- The texts of a piece of a string: a character as it is, or an escape. -/
inductive WrittenPiece : Piece → List Char → Prop
  | plain {c : Char} : c ≠ '"' → c ≠ '\\' → 0x20 ≤ c.toNat → WrittenPiece (.char c) [c]
  | escape {letter c : Char} : escape? letter = some c → WrittenPiece (.char c) ['\\', letter]
  | unit {h₁ h₂ h₃ h₄ : Char} {n : Nat} : unit? h₁ h₂ h₃ h₄ = some n →
    WrittenPiece (.unit n) ['\\', 'u', h₁, h₂, h₃, h₄]

/-- The texts of a string behind its opening quote. -/
inductive WrittenPieces : List Piece → List Char → Prop
  | close : WrittenPieces [] ['"']
  | cons {piece : Piece} {pieces : List Piece} {cs ds : List Char} :
    WrittenPiece piece cs → WrittenPieces pieces ds → WrittenPieces (piece :: pieces) (cs ++ ds)

mutual

/-- The texts of a document. -/
inductive Written : Document → List Char → Prop
  | null : Written .null nullText
  | boolean (b : Bool) : Written (.boolean b) (booleanText b)
  | number {form : NumberForm} {cs : List Char} : form.Written cs → Written (.number form) cs
  | text {pieces : List Piece} {cs : List Char} :
    WrittenPieces pieces cs → Written (.text pieces) ('"' :: cs)
  | emptyList {gap : List Char} : Blank gap → Written (.list []) ('[' :: (gap ++ [']']))
  | list {items : List Document} {cs : List Char} :
    WrittenItems items cs → Written (.list items) ('[' :: cs)
  | emptyObject {gap : List Char} : Blank gap → Written (.object []) ('\x7b' :: (gap ++ ['\x7d']))
  | object {members : List (List Piece × Document)} {cs : List Char} :
    WrittenMembers members cs → Written (.object members) ('\x7b' :: cs)

/-- The texts of one or more items up to the end of their list. -/
inductive WrittenItems : List Document → List Char → Prop
  | last {item : Document} {before cs after : List Char} :
    Blank before → Written item cs → Blank after →
    WrittenItems [item] (before ++ (cs ++ (after ++ [']'])))
  | cons {item : Document} {items : List Document} {before cs after more : List Char} :
    Blank before → Written item cs → Blank after → WrittenItems items more →
    WrittenItems (item :: items) (before ++ (cs ++ (after ++ ',' :: more)))

/-- The texts of one or more members up to the end of their object. -/
inductive WrittenMembers : List (List Piece × Document) → List Char → Prop
  | last {name : List Piece} {value : Document}
    {before ns colon space cs after : List Char} :
    Blank before → WrittenPieces name ns → Blank colon → Blank space → Written value cs →
    Blank after → WrittenMembers [(name, value)]
      (before ++ '"' :: (ns ++ (colon ++ ':' :: (space ++ (cs ++ (after ++ ['\x7d']))))))
  | cons {name : List Piece} {value : Document} {members : List (List Piece × Document)}
    {before ns colon space cs after more : List Char} :
    Blank before → WrittenPieces name ns → Blank colon → Blank space → Written value cs →
    Blank after → WrittenMembers members more → WrittenMembers ((name, value) :: members)
      (before ++ '"' :: (ns ++ (colon ++ ':' :: (space ++ (cs ++ (after ++ ',' :: more))))))

end

theorem WrittenItems.ne_nil {items : List Document} {cs : List Char} (h : WrittenItems items cs) :
    items ≠ [] := by
  cases h <;> exact List.cons_ne_nil _ _

theorem WrittenMembers.ne_nil {members : List (List Piece × Document)} {cs : List Char}
    (h : WrittenMembers members cs) : members ≠ [] := by
  cases h <;> exact List.cons_ne_nil _ _

/-! ### Blanks -/

theorem blank_nil : Blank [] := by
  intro c hc
  cases hc

theorem parted_blank {cs rest : List Char} (blank : Blank cs) (parted : Parted rest) :
    Parted (cs ++ rest) := by
  cases cs with
  | nil => exact parted
  | cons c cs =>
    have space := blank c (.head _)
    simp only [isSpace, Bool.or_eq_true, decide_eq_true_eq] at space
    rcases space with ((rfl | rfl) | rfl) | rfl <;> exact parted_cons rfl

/-! ### One token -/

theorem lex_nil : lex [] = [] := by rw [lex]

theorem lex_space {c : Char} {rest : List Char} (space : isSpace c = true) :
    lex (c :: rest) = lex rest := by
  rw [lex, if_pos space]

theorem lex_blank {cs : List Char} (blank : Blank cs) (rest : List Char) :
    lex (cs ++ rest) = lex rest := by
  induction cs with
  | nil => rfl
  | cons c cs ih =>
    rw [List.cons_append, lex_space (blank c (.head _))]
    exact ih fun d hd => blank d (.tail _ hd)

theorem lex_cons {c : Char} {rest more : List Char} {token : Token} (solid : isSpace c = false)
    (step : lexOne c rest = (token, some more)) : lex (c :: rest) = token :: lex more := by
  rw [lex, if_neg (by simp [solid])]
  split
  · next step' =>
    cases step.symm.trans step'
    rfl
  · next step' => cases step.symm.trans step'

theorem lex_openList (rest : List Char) : lex ('[' :: rest) = .openList :: lex rest :=
  lex_cons rfl rfl

theorem lex_closeList (rest : List Char) : lex (']' :: rest) = .closeList :: lex rest :=
  lex_cons rfl rfl

theorem lex_openObject (rest : List Char) : lex ('\x7b' :: rest) = .openObject :: lex rest :=
  lex_cons rfl rfl

theorem lex_closeObject (rest : List Char) : lex ('\x7d' :: rest) = .closeObject :: lex rest :=
  lex_cons rfl rfl

theorem lex_comma (rest : List Char) : lex (',' :: rest) = .comma :: lex rest := lex_cons rfl rfl

theorem lex_colon (rest : List Char) : lex (':' :: rest) = .colon :: lex rest := lex_cons rfl rfl

theorem lex_null (rest : List Char) : lex (nullText ++ rest) = .null :: lex rest :=
  lex_cons rfl rfl

theorem lex_boolean (b : Bool) (rest : List Char) :
    lex (booleanText b ++ rest) = .boolean b :: lex rest := by
  cases b with
  | false => exact lex_cons rfl rfl
  | true => exact lex_cons rfl rfl

/-- A digit begins a number. -/
theorem lexOne_digit {c : Char} (digit : c.isDigit = true) (rest : List Char) :
    lexOne c rest = lexNumber false (c :: rest) := by
  unfold lexOne
  split
  iterate 11 cases digit
  rw [if_pos digit]

theorem isSpace_of_isDigit {c : Char} (digit : c.isDigit = true) : isSpace c = false := by
  rw [← Bool.not_eq_true]
  intro space
  simp only [isSpace, Bool.or_eq_true, decide_eq_true_eq] at space
  rcases space with ((rfl | rfl) | rfl) | rfl <;> cases digit

theorem lex_number {form : NumberForm} {cs rest : List Char} (written : form.Written cs)
    (parted : Parted rest) : lex (cs ++ rest) = .number form.value :: lex rest := by
  have step {cs : List Char} (unsigned : form.WrittenUnsigned cs) :
      lexNumber form.negative (cs ++ rest) = (.number form.value, some rest) := by
    rw [lexNumber, NumberForm.scan_written unsigned parted]
  cases written with
  | negative sign unsigned =>
    have step := step unsigned
    rw [sign] at step
    exact lex_cons rfl step
  | positive sign unsigned =>
    have step := step unsigned
    obtain ⟨c, tail, rfl, digit⟩ := unsigned.head
    rw [sign] at step
    exact lex_cons (isSpace_of_isDigit digit) ((lexOne_digit digit _).trans step)

/-- The pieces of a string are scanned one after the other. -/
theorem scanText_written {pieces : List Piece} {cs : List Char} (written : WrittenPieces pieces cs)
    (rest : List Char) : scanText (cs ++ rest) = (pieces, .ok rest) := by
  induction written with
  | close =>
    rw [scanText.eq_def]
    rfl
  | cons piece _ ih =>
    rw [List.append_assoc]
    cases piece with
    | plain quote backslash printed =>
      rw [List.cons_append, List.nil_append, scanText.eq_def]
      simp only [if_neg quote, if_neg backslash, if_neg (Nat.not_lt.mpr printed), ih]
    | escape plain =>
      rw [List.cons_append, scanText.eq_def]
      simp [plain, ih]
    | unit value =>
      rw [List.cons_append, scanText.eq_def]
      simp [escape?, value, ih]

theorem lex_text {pieces : List Piece} {cs : List Char} (written : WrittenPieces pieces cs)
    (rest : List Char) : lex ('"' :: (cs ++ rest)) = .text (closedText pieces) :: lex rest := by
  have step : lexOne '"' (cs ++ rest) = (.text (closedText pieces), some rest) := by
    show lexText _ = _
    rw [lexText, scanText_written written]
  exact lex_cons rfl step

/-! ### The tokens of a document -/

mutual

/-- The tokens of a document. -/
def Document.tokens : Document → List Token
  | .null => [.null]
  | .boolean b => [.boolean b]
  | .number form => [.number form.value]
  | .text pieces => [.text (closedText pieces)]
  | .list items => .openList :: itemTokens items
  | .object members => .openObject :: memberTokens members

/-- The tokens of the items of a list up to its end. -/
def itemTokens : List Document → List Token
  | [] => [.closeList]
  | [item] => item.tokens ++ [.closeList]
  | item :: next :: items => item.tokens ++ .comma :: itemTokens (next :: items)

/-- The tokens of the members of an object up to its end. -/
def memberTokens : List (List Piece × Document) → List Token
  | [] => [.closeObject]
  | [(name, value)] => .text (closedText name) :: .colon :: (value.tokens ++ [.closeObject])
  | (name, value) :: next :: members =>
    .text (closedText name) :: .colon :: (value.tokens ++ .comma :: memberTokens (next :: members))

end

theorem itemTokens_cons {item : Document} {items : List Document} (more : items ≠ []) :
    itemTokens (item :: items) = item.tokens ++ .comma :: itemTokens items := by
  cases items with
  | nil => exact absurd rfl more
  | cons next items => rfl

theorem memberTokens_cons {name : List Piece} {value : Document}
    {members : List (List Piece × Document)} (more : members ≠ []) :
    memberTokens ((name, value) :: members) =
      .text (closedText name) :: .colon :: (value.tokens ++ .comma :: memberTokens members) := by
  cases members with
  | nil => exact absurd rfl more
  | cons next members => rfl

/-- A document begins with a token that does not end a list, and it is nothing if that token is
`null`. -/
theorem tokens_cons (d : Document) :
    ∃ t ts, d.tokens = t :: ts ∧ t ≠ .closeList ∧ (t = .null → d = .null) := by
  cases d with
  | null => exact ⟨_, _, rfl, nofun, fun _ => rfl⟩
  | boolean | number | text | list | object => exact ⟨_, _, rfl, nofun, nofun⟩

theorem itemTokens_head (item : Document) (items : List Document) :
    ∃ t ts, itemTokens (item :: items) = t :: ts ∧ t ≠ .closeList := by
  obtain ⟨t, ts, hts, open_, -⟩ := tokens_cons item
  cases items with
  | nil => exact ⟨t, _, by rw [itemTokens, hts]; rfl, open_⟩
  | cons next items => exact ⟨t, _, by rw [itemTokens, hts]; rfl, open_⟩

/-- A text that is cut into some tokens, whatever follows it that is parted from it. -/
def Spells (cs : List Char) (ts : List Token) : Prop :=
  ∀ rest, Parted rest → lex (cs ++ rest) = ts ++ lex rest

/-- What is cut into tokens is so up to a mark that no number goes on with. -/
theorem Spells.upTo {cs after rest : List Char} {ts : List Token} (h : Spells cs ts) (mark : Char)
    (stop : continues mark = false) (blank : Blank after) :
    lex (cs ++ (after ++ mark :: rest)) = ts ++ lex (mark :: rest) := by
  rw [h _ (parted_blank blank (parted_cons stop)), lex_blank blank]

mutual

/-- A text of a document is cut into the tokens of the document.  The induction is on the document;
each of its parts is followed by a blank or a mark, so that no number in it goes on. -/
theorem spells_written : (d : Document) → {cs : List Char} → Written d cs → Spells cs d.tokens
  | .null, _, .null => fun rest _ => lex_null rest
  | .boolean b, _, .boolean _ => fun rest _ => lex_boolean b rest
  | .number _, _, .number written => fun _ parted => lex_number written parted
  | .text _, _, .text written => fun rest _ => lex_text written rest
  | .list [], _, .emptyList gap => fun rest _ => by
    rw [List.cons_append, List.append_assoc, lex_openList, lex_blank gap]
    exact congrArg _ (lex_closeList rest)
  | .list items, _, .list written => fun rest _ => by
    rw [List.cons_append, lex_openList, lex_writtenItems items written, Document.tokens,
      List.cons_append]
  | .object [], _, .emptyObject gap => fun rest _ => by
    rw [List.cons_append, List.append_assoc, lex_openObject, lex_blank gap]
    exact congrArg _ (lex_closeObject rest)
  | .object members, _, .object written => fun rest _ => by
    rw [List.cons_append, lex_openObject, lex_writtenMembers members written,
      Document.tokens, List.cons_append]

theorem lex_writtenItems : (items : List Document) → {cs : List Char} → WrittenItems items cs →
    (rest : List Char) → lex (cs ++ rest) = itemTokens items ++ lex rest
  | [item], _, .last before written after, rest => by
    have spelled := spells_written item written
    simp only [List.append_assoc, List.cons_append, List.nil_append]
    rw [lex_blank before, spelled.upTo ']' rfl after, lex_closeList, itemTokens,
      List.append_assoc, List.singleton_append]
  | item :: items, _, .cons before written after others, rest => by
    have spelled := spells_written item written
    simp only [List.append_assoc, List.cons_append]
    rw [lex_blank before, spelled.upTo ',' rfl after, lex_comma, lex_writtenItems items others,
      itemTokens_cons others.ne_nil, List.append_assoc, List.cons_append]

theorem lex_writtenMembers : (members : List (List Piece × Document)) → {cs : List Char} →
    WrittenMembers members cs → (rest : List Char) →
    lex (cs ++ rest) = memberTokens members ++ lex rest
  | [(_, value)], _, .last before name colon space written after, rest => by
    have spelled := spells_written value written
    simp only [List.append_assoc, List.cons_append, List.nil_append]
    rw [lex_blank before, lex_text name, lex_blank colon, lex_colon, lex_blank space,
      spelled.upTo '\x7d' rfl after, lex_closeObject, memberTokens]
    simp only [List.append_assoc, List.cons_append, List.nil_append]
  | (_, value) :: members, _, .cons before name colon space written after others, rest => by
    have spelled := spells_written value written
    simp only [List.append_assoc, List.cons_append]
    rw [lex_blank before, lex_text name, lex_blank colon, lex_colon, lex_blank space,
      spelled.upTo ',' rfl after, lex_comma, lex_writtenMembers members others,
      memberTokens_cons others.ne_nil]
    simp only [List.append_assoc, List.cons_append]

end

end PackageCensus.Json
