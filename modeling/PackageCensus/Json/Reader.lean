import PackageCensus.Json.Token
import PackageCensus.Shape

/-! # Reading JSON documents by their shape

A `Reader` takes the tokens of one value and leaves those that follow, of which there are fewer:
the law is part of the type, and every loop ends by it.  `Shape.reader` reads a value of a shape
from left to right, and the first token that does not fit decides the fault: a value of another
kind is refused when it begins, a field named twice when its name returns, a missing field when
the record ends.  A field that the shape does not know is passed over, and only its grammar
counts. -/

namespace PackageCensus.Json

/-- Takes the tokens of one value. -/
structure Reader (α : Type) where
  run : List Token → Except Fault (α × List Token)
  shorter : ∀ {ts a rest}, run ts = .ok (a, rest) → rest.length < ts.length

namespace Reader

variable {α β : Type}

/-- A reader that refuses everything. -/
def refuse (fault : Fault) : Reader α where
  run _ := .error fault
  shorter h := by simp at h

/-- A reader whose values are put to another use. -/
def map (f : α → β) (r : Reader α) : Reader β where
  run ts := match r.run ts with
    | .ok (a, rest) => .ok (f a, rest)
    | .error fault => .error fault
  shorter {ts a rest} h := by
    split at h
    · next a' rest' hr =>
      simp only [Except.ok.injEq, Prod.mk.injEq] at h
      exact h.2 ▸ r.shorter hr
    · simp at h

/-- The fault of a value that begins with a token and is not what was asked for. -/
def unfit (expected : String) : Token → Fault
  | .null => .mismatch (.invalidType .null expected)
  | .boolean b => .mismatch (.invalidType (.boolean b) expected)
  | .number (.ok n) => .mismatch (.invalidType (.number n) expected)
  | .text (.ok s) => .mismatch (.invalidType (.text s) expected)
  | .openList => .mismatch (.invalidType .list expected)
  | .openObject => .mismatch (.invalidType .object expected)
  | .number (.error fault) | .text (.error fault) => fault
  | .brokenText wanted _ | .broken wanted _ => wanted
  | .closeList | .closeObject | .comma | .colon => .malformed

/-- A reader of values that are one token. -/
def token (f : Token → Except Fault α) : Reader α where
  run
    | [] => .error .truncated
    | t :: rest => match f t with
      | .ok a => .ok (a, rest)
      | .error fault => .error fault
  shorter {ts a rest} h := by
    split at h
    · simp at h
    · split at h
      · simp only [Except.ok.injEq, Prod.mk.injEq] at h
        simp [h.2]
      · simp at h

/-! ### Values of one token -/

/-- A string. -/
def string (expected : String) : Reader String := token fun
  | .text (.ok s) => .ok s
  | t => .error (unfit expected t)

/-- A string of one character. -/
def letter : Reader Char := token fun
  | .text (.ok s) =>
    match s.toList with
    | [c] => .ok c
    | _ => .error (.mismatch (.invalidValue (.text s) Shape.letter.expected))
  | t => .error (unfit Shape.letter.expected t)

/-- One of the two truth values. -/
def flag : Reader Bool := token fun
  | .boolean b => .ok b
  | t => .error (unfit Shape.flag.expected t)

/-- A whole number from zero. -/
def unsigned (expected : String) : Reader UInt64 := token fun
  | .number (.ok (.natural n)) => .ok (UInt64.ofNat n)
  | .number (.ok (.negative n)) =>
    .error (.mismatch (.invalidValue (.number (.negative n)) expected))
  | t => .error (unfit expected t)

/-- A whole number of either sign. -/
def signed : Reader Int64 := token fun
  | .number (.ok (.natural n)) =>
    if n < 9223372036854775808 then .ok (Int64.ofNat n)
    else .error (.mismatch (.invalidValue (.number (.natural n)) Shape.signed.expected))
  | .number (.ok (.negative n)) => .ok (Int64.ofInt n)
  | t => .error (unfit Shape.signed.expected t)

/-- A value, or nothing where the document says `null`. -/
def optional (r : Reader α) : Reader (Option α) where
  run
    | .null :: rest => .ok (none, rest)
    | ts => (r.map some).run ts
  shorter {ts a rest} h := by
    split at h
    · simp only [Except.ok.injEq, Prod.mk.injEq] at h
      simp [h.2]
    · exact (r.map some).shorter h

/-! ### Lists -/

/-- The items of a list from the next one on, up to the end of the list. -/
def items (r : Reader α) (ts : List Token) : Except Fault (List α × List Token) :=
  match _step : r.run ts with
  | .error fault => .error fault
  | .ok (a, .closeList :: rest) => .ok ([a], rest)
  | .ok (a, .comma :: rest) =>
    match rest with
    | [] => .error .truncated
    | .closeList :: _ => .error .malformed
    | t :: rest => (items r (t :: rest)).map fun (as, rest) => (a :: as, rest)
  | .ok (_, []) => .error .truncated
  | .ok (_, _ :: _) => .error .malformed
termination_by ts.length
decreasing_by
  have := r.shorter _step
  simp only [List.length_cons] at this ⊢
  omega

theorem length_items (r : Reader α) : ∀ {n : Nat} {ts : List Token} {as : List α}
    {rest : List Token}, ts.length ≤ n → items r ts = .ok (as, rest) → rest.length < ts.length := by
  intro n
  induction n with
  | zero =>
    intro ts as rest hn h
    unfold items at h
    split at h
    all_goals first
      | (next hr => have := r.shorter hr; omega)
      | simp at h
  | succ n ih =>
    intro ts as rest hn h
    unfold items at h
    split at h
    · simp at h
    · next hr =>
      simp only [Except.ok.injEq, Prod.mk.injEq] at h
      have := r.shorter hr
      simp only [List.length_cons] at this
      rw [← h.2]
      omega
    · next hr =>
      have hs := r.shorter hr
      simp only [List.length_cons] at hs
      split at h
      · simp at h
      · simp at h
      · next t tail _ _ =>
        simp only [List.length_cons] at hs
        cases hi : items r (t :: tail) with
        | error e => simp [hi, Except.map] at h
        | ok p =>
          simp only [hi, Except.map, Except.ok.injEq, Prod.mk.injEq] at h
          have := @ih _ p.1 p.2 (by simp only [List.length_cons]; omega) hi
          simp only [List.length_cons] at this
          rw [← h.2]
          omega
    · simp at h
    · simp at h

/-- A list. -/
def list (r : Reader α) : Reader (List α) where
  run
    | .openList :: .closeList :: rest => .ok ([], rest)
    | [.openList] => .error .truncated
    | .openList :: ts => items r ts
    | [] => .error .truncated
    | t :: _ => .error (unfit "a sequence" t)
  shorter {ts a rest} h := by
    split at h
    · simp only [Except.ok.injEq, Prod.mk.injEq] at h
      rw [← h.2]
      simp only [List.length_cons]
      omega
    · simp at h
    · next ts _ _ =>
      have := length_items r (Nat.le_refl _) h
      simp only [List.length_cons]
      omega
    · simp at h
    · simp at h

end Reader

/-! ### Passing over a value -/

/-- A list or an object that is open while values are passed over. -/
inductive Opened where
  | list
  | object

/-- What may come next while values are passed over. -/
inductive Expecting where
  /-- A value. -/
  | value
  /-- A value, or the end of the list that was just opened. -/
  | valueOrEnd
  /-- A name, or the end of the object that was just opened. -/
  | nameOrEnd
  /-- A name. -/
  | name
  /-- The colon after a name. -/
  | colon
  /-- A comma, or the end of what is open. -/
  | commaOrEnd

/-- What is open and what may come next; nothing once the outermost value has ended. -/
abbrev Passing := Option (List Opened × Expecting)

/-- A value has ended inside these lists and objects. -/
def valueEnded : List Opened → Passing
  | [] => none
  | outer => some (outer, .commaOrEnd)

/-- A token where a value is expected. -/
def passValue (opened : List Opened) : Token → Except Fault Passing
  | .null | .boolean _ | .number _ | .text _ => .ok (valueEnded opened)
  | .openList => .ok (some (.list :: opened, .valueOrEnd))
  | .openObject => .ok (some (.object :: opened, .nameOrEnd))
  | .brokenText _ passed | .broken _ passed => .error passed
  | .closeList | .closeObject | .comma | .colon => .error .malformed

/-- A token where a name is expected. -/
def passName (opened : List Opened) : Token → Except Fault Passing
  | .text _ => .ok (some (opened, .colon))
  | .brokenText _ passed => .error passed
  | _ => .error .malformed

/-- Passes over one token. -/
def passToken : List Opened → Expecting → Token → Except Fault Passing
  | .list :: outer, .valueOrEnd, .closeList => .ok (valueEnded outer)
  | opened, .value, t | opened, .valueOrEnd, t => passValue opened t
  | .object :: outer, .nameOrEnd, .closeObject => .ok (valueEnded outer)
  | opened, .name, t | opened, .nameOrEnd, t => passName opened t
  | opened, .colon, .colon => .ok (some (opened, .value))
  | .list :: outer, .commaOrEnd, .comma => .ok (some (.list :: outer, .value))
  | .object :: outer, .commaOrEnd, .comma => .ok (some (.object :: outer, .name))
  | .list :: outer, .commaOrEnd, .closeList => .ok (valueEnded outer)
  | .object :: outer, .commaOrEnd, .closeObject => .ok (valueEnded outer)
  | _, _, _ => .error .malformed

/-- Passes over the tokens of one value. -/
def passOver (opened : List Opened) (expecting : Expecting) :
    List Token → Except Fault (List Token)
  | [] => .error .truncated
  | t :: rest =>
    match passToken opened expecting t with
    | .error fault => .error fault
    | .ok none => .ok rest
    | .ok (some (opened, expecting)) => passOver opened expecting rest

theorem length_passOver : ∀ {ts rest : List Token} {opened : List Opened} {expecting : Expecting},
    passOver opened expecting ts = .ok rest → rest.length < ts.length
  | [], _, _, _, h => by simp [passOver] at h
  | t :: ts, rest, opened, expecting, h => by
    unfold passOver at h
    split at h
    · simp at h
    · simp only [Except.ok.injEq] at h
      simp [h]
    · exact Nat.lt_succ_of_lt (length_passOver h)

/-- A value that is only passed over. -/
def ignored : Reader Unit where
  run ts := match passOver [] .value ts with
    | .ok rest => .ok ((), rest)
    | .error fault => .error fault
  shorter {ts a rest} h := by
    split at h
    · next hp =>
      simp only [Except.ok.injEq, Prod.mk.injEq, true_and] at h
      exact h ▸ length_passOver hp
    · simp at h

/-! ### Records -/

namespace Reader

variable {α : Type}

/-- A value after the colon that follows its name. -/
def afterColon (r : Reader α) : Reader α where
  run
    | .colon :: rest => r.run rest
    | [] => .error .truncated
    | _ => .error .malformed
  shorter {ts a rest} h := by
    split at h
    · have := r.shorter h
      simp only [List.length_cons]
      omega
    · simp at h
    · simp at h

/-- The members of an object from the name that comes next, up to the end of the object.  The
reader of a member depends on its name. -/
def members (member : String → α → Reader α) (draft : α) (ts : List Token) :
    Except Fault (α × List Token) :=
  match ts with
  | [] => .error .truncated
  | .text (.error fault) :: _ => .error fault
  | .brokenText wanted _ :: _ => .error wanted
  | .text (.ok name) :: ts =>
    match _step : (member name draft).run ts with
    | .error fault => .error fault
    | .ok (result, .closeObject :: rest) => .ok (result, rest)
    | .ok (next, .comma :: rest) => members member next rest
    | .ok (_, []) => .error .truncated
    | .ok (_, _ :: _) => .error .malformed
  | _ :: _ => .error .malformed
termination_by ts.length
decreasing_by
  have := (member name draft).shorter _step
  simp only [List.length_cons] at this ⊢
  omega

theorem length_members (member : String → α → Reader α) : ∀ {n : Nat} {draft result : α}
    {ts rest : List Token}, ts.length ≤ n → members member draft ts = .ok (result, rest) →
      rest.length < ts.length := by
  intro n
  induction n with
  | zero =>
    intro draft result ts rest hn h
    have : ts = [] := List.length_eq_zero_iff.mp (Nat.le_zero.mp hn)
    subst this
    simp [members] at h
  | succ n ih =>
    intro draft result ts rest hn h
    unfold members at h
    split at h
    · simp at h
    · simp at h
    · simp at h
    · next name tail =>
      simp only [List.length_cons] at hn ⊢
      split at h
      · simp at h
      · next hr =>
        simp only [Except.ok.injEq, Prod.mk.injEq] at h
        have := (member name draft).shorter hr
        simp only [List.length_cons] at this
        rw [← h.2]
        omega
      · next hr =>
        have hs := (member name draft).shorter hr
        simp only [List.length_cons] at hs
        have := ih (by omega) h
        omega
      · simp at h
      · simp at h
    · simp at h

/-- The members of an object, its opening brace being read. -/
def object (member : String → α → Reader α) (blank : α) :
    List Token → Except Fault (α × List Token)
  | .closeObject :: rest => .ok (blank, rest)
  | ts => members member blank ts

theorem length_object {member : String → α → Reader α} {blank result : α} {ts rest : List Token}
    (h : object member blank ts = .ok (result, rest)) : rest.length ≤ ts.length := by
  unfold object at h
  split at h
  · simp only [Except.ok.injEq, Prod.mk.injEq] at h
    simp [← h.2]
  · exact Nat.le_of_lt (length_members member (Nat.le_refl _) h)

/-- The end of a record that is written as a list. -/
def endOfList (value : α) : List Token → Except Fault (α × List Token)
  | .closeList :: rest => .ok (value, rest)
  | [] => .error .truncated
  | _ => .error .malformed

/-- The next item of a record that is written as a list, if there is one; a comma stands before
each item but the first. -/
def item? (r : Reader α) (first : Bool) :
    List Token → Except Fault (Option α × List Token)
  | [] => .error .truncated
  | .closeList :: rest => .ok (none, .closeList :: rest)
  | t :: rest =>
    if first then
      match r.run (t :: rest) with
      | .ok (a, rest) => .ok (some a, rest)
      | .error fault => .error fault
    else match t, rest with
      | .comma, [] => .error .truncated
      | .comma, .closeList :: _ => .error .malformed
      | .comma, rest =>
        match r.run rest with
        | .ok (a, rest) => .ok (some a, rest)
        | .error fault => .error fault
      | _, _ => .error .malformed

theorem length_item? {r : Reader α} {first : Bool} {ts rest : List Token} {a : Option α}
    (h : item? r first ts = .ok (a, rest)) : rest.length ≤ ts.length := by
  unfold item? at h
  split at h
  · simp at h
  · simp only [Except.ok.injEq, Prod.mk.injEq] at h
    simp [← h.2]
  · split at h
    · split at h
      · next hr =>
        simp only [Except.ok.injEq, Prod.mk.injEq] at h
        rw [← h.2]
        exact Nat.le_of_lt (r.shorter hr)
      · simp at h
    · split at h
      · simp at h
      · simp at h
      · split at h
        · next hr =>
          simp only [Except.ok.injEq, Prod.mk.injEq] at h
          have := r.shorter hr
          rw [← h.2]
          simp only [List.length_cons]
          omega
        · simp at h
      · simp at h

end Reader

/-- The fields of a record from a list, with what follows them. -/
structure ItemsReader (α : Type) where
  run : Bool → List Token → Except Fault (α × List Token)
  noLonger : ∀ {first ts a rest}, run first ts = .ok (a, rest) → rest.length ≤ ts.length

namespace ItemsReader

variable {α β : Type}

/-- No more fields. -/
def done : ItemsReader Unit where
  run _ ts := .ok ((), ts)
  noLonger h := by
    simp only [Except.ok.injEq, Prod.mk.injEq, true_and] at h
    simp [h]

/-- What becomes of a field: its value, or what a missing one comes to. -/
def settle (missing : Except Fault β) (present : α → β) : Option α → Except Fault β
  | some a => .ok (present a)
  | none => missing

/-- One more field; `missing` says what becomes of it when the list ends before it. -/
def field (r : Reader α) (missing : Except Fault β) (present : α → β) {γ : Type}
    (rest : ItemsReader γ) : ItemsReader (β × γ) where
  run first ts := match r.item? first ts with
    | .error fault => .error fault
    | .ok (value, after) =>
      match settle missing present value with
      | .error fault => .error fault
      | .ok b => match rest.run (first && value.isNone) after with
        | .ok (c, after) => .ok ((b, c), after)
        | .error fault => .error fault
  noLonger {first ts a after} h := by
    split at h
    · simp at h
    · next hi =>
      have hl := Reader.length_item? hi
      split at h
      · simp at h
      · split at h
        · next hr =>
          simp only [Except.ok.injEq, Prod.mk.injEq] at h
          have := rest.noLonger hr
          rw [← h.2]
          omega
        · simp at h

end ItemsReader

namespace Reader

/-- A record, as an object or as the list of its fields. -/
def record {δ κ : Type} (expected : String) (member : String → δ → Reader δ) (blank : δ)
    (finish : δ → Except String κ) (items : ItemsReader κ) : Reader κ where
  run
    | .openObject :: ts =>
      match object member blank ts with
      | .error fault => .error fault
      | .ok (draft, rest) => match finish draft with
        | .ok value => .ok (value, rest)
        | .error name => .error (.mismatch (.missingField name))
    | .openList :: ts => match items.run true ts with
      | .error fault => .error fault
      | .ok (value, rest) => endOfList value rest
    | [] => .error .truncated
    | t :: _ => .error (unfit expected t)
  shorter {ts a rest} h := by
    split at h
    · next ts =>
      split at h
      · simp at h
      · next hm =>
        have := length_object hm
        split at h
        · simp only [Except.ok.injEq, Prod.mk.injEq] at h
          rw [← h.2]
          simp only [List.length_cons]
          omega
        · simp at h
    · next ts =>
      split at h
      · simp at h
      · next hi =>
        have hl := items.noLonger hi
        unfold endOfList at h
        split at h
        · simp only [Except.ok.injEq, Prod.mk.injEq] at h
          simp only [List.length_cons] at hl ⊢
          rw [← h.2]
          omega
        · simp at h
        · simp at h
    · simp at h
    · simp at h

end Reader

/-! ### Every shape -/

mutual

/-- The reader of a shape. -/
def shapeReader : (s : Shape) → Reader s.Carrier
  | .text expected => .string expected
  | .letter => .letter
  | .flag => .flag
  | .unsigned expected => .unsigned expected
  | .signed => .signed
  | .list item => (shapeReader item).list
  | .optional inner => (shapeReader inner).optional
  | .record title fields =>
    .record ("struct " ++ title)
      (fun name draft => match memberReader fields name with
        | some member => member draft
        | none => ignored.afterColon.map fun _ => draft)
      fields.blank fields.finish (itemsReader title fields.count 0 fields)

/-- The reader of a named member, which puts its value into a draft; none for a name that the
record does not know.  A member that the draft has already is refused. -/
def memberReader : (fields : Fields) → String → Option (fields.Draft → Reader fields.Draft)
  | .nil, _ => none
  | .required own shape rest, name =>
    if name = own then
      some fun (value, draft) => match value with
        | none => (shapeReader shape).afterColon.map fun value => (some value, draft)
        | some _ => .refuse (.mismatch (.duplicateField own))
    else (memberReader rest name).map fun member (value, draft) =>
      (member draft).map fun draft => (value, draft)
  | .defaulted own shape rest, name =>
    if name = own then
      some fun (value, draft) => match value with
        | none => (shapeReader shape).afterColon.map fun value => (some value, draft)
        | some _ => .refuse (.mismatch (.duplicateField own))
    else (memberReader rest name).map fun member (value, draft) =>
      (member draft).map fun draft => (value, draft)

/-- The reader of fields from a list, from the one at a position on. -/
def itemsReader (title : String) (count : Nat) : Nat → (fields : Fields) →
    ItemsReader fields.Carrier
  | _, .nil => .done
  | position, .required _ shape rest =>
    .field (shapeReader shape) (.error (.mismatch (.invalidLength position title count))) id
      (itemsReader title count (position + 1) rest)
  | position, .defaulted _ shape rest =>
    .field (shapeReader shape) (.ok none) some (itemsReader title count (position + 1) rest)

end

/-- The value that a document holds: one value of the shape and nothing after it. -/
def readAs (s : Shape) (document : String) : Except Fault s.Carrier :=
  match (shapeReader s).run (lex document.toList) with
  | .ok (value, []) => .ok value
  | .ok (_, _ :: _) => .error .malformed
  | .error fault => .error fault

end PackageCensus.Json
