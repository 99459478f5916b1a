import PackageCensus.Proofs.Json.Depicted
import PackageCensus.Shaped

/-! # Reading what documents say

A text of a document that depicts a value of a clear shape is read as that value (`readAs_holds`).

An object is read member by member: `Gathers` is the way of a draft through the members of an
object. A draft `Awaits` the values of a record when those that it lacks are depicted by the
members still to come; each member keeps this (`awaits_step`), and so the draft comes to the
values. -/

namespace PackageCensus

/-- The draft in which all fields of a record have been met that are not left out. -/
def Fields.drafted : (fields : Fields) → fields.Carrier → fields.Draft
  | .nil, () => ()
  | .required _ _ rest, (value, values) => (some value, rest.drafted values)
  | .defaulted _ _ rest, (value, values) => (value, rest.drafted values)

theorem Fields.finish_drafted : (fields : Fields) → (values : fields.Carrier) →
    fields.finish (fields.drafted values) = .ok values
  | .nil, () => rfl
  | .required _ _ rest, (value, values) => by
    rw [drafted, finish, rest.finish_drafted values]
    rfl
  | .defaulted _ _ rest, (value, values) => by
    rw [drafted, finish, rest.finish_drafted values]
    rfl

namespace Json

/-! ### Passing over -/

/-- Goes on passing over, if the outermost value has not ended. -/
def Passing.resume : Passing → List Token → Except Fault (List Token)
  | none, ts => .ok ts
  | some (opened, expecting), ts => passOver opened expecting ts

section Passing

variable {opened outer : List Opened} {expecting : Expecting} {t : Token} {rest : List Token}

theorem passOver_cons {next : Passing} (h : passToken opened expecting t = .ok next) :
    passOver opened expecting (t :: rest) = next.resume rest := by
  cases next with
  | none => simp only [passOver, h, Passing.resume]
  | some next => simp only [passOver, h, Passing.resume]

theorem passOver_value {next : Passing} (h : expecting = .value ∨ expecting = .valueOrEnd)
    (ht : t ≠ .closeList) (step : passValue opened t = .ok next) :
    passOver opened expecting (t :: rest) = next.resume rest := by
  refine passOver_cons (.trans ?_ step)
  unfold passToken
  rcases h with rfl | rfl <;> split <;> simp_all

theorem passOver_openList (h : expecting = .value ∨ expecting = .valueOrEnd) :
    passOver opened expecting (.openList :: rest) =
      passOver (.list :: opened) .valueOrEnd rest := by
  show _ = Passing.resume (some (.list :: opened, .valueOrEnd)) rest
  exact passOver_value h nofun rfl

theorem passOver_openObject (h : expecting = .value ∨ expecting = .valueOrEnd) :
    passOver opened expecting (.openObject :: rest) =
      passOver (.object :: opened) .nameOrEnd rest := by
  show _ = Passing.resume (some (.object :: opened, .nameOrEnd)) rest
  exact passOver_value h nofun rfl

theorem resume_closeList : (valueEnded (.list :: outer)).resume (.closeList :: rest) =
    (valueEnded outer).resume rest := passOver_cons rfl

theorem resume_closeObject : (valueEnded (.object :: outer)).resume (.closeObject :: rest) =
    (valueEnded outer).resume rest := passOver_cons rfl

/-- A name and its colon are passed over where a name is expected. -/
theorem passOver_name {name : Except Fault String}
    (h : expecting = .name ∨ expecting = .nameOrEnd) :
    passOver (.object :: outer) expecting (.text name :: .colon :: rest) =
      passOver (.object :: outer) .value rest := by
  rcases h with rfl | rfl <;> rfl

end Passing

mutual

/-- The tokens of a document are passed over where a value is expected. -/
theorem passOver_tokens : (d : Document) → (opened : List Opened) → (rest : List Token) →
    {expecting : Expecting} → expecting = .value ∨ expecting = .valueOrEnd →
    passOver opened expecting (d.tokens ++ rest) = (valueEnded opened).resume rest
  | .null, _, _, _, h | .boolean _, _, _, _, h | .number _, _, _, _, h | .text _, _, _, _, h =>
    passOver_value h nofun rfl
  | .list items, opened, rest, _, h => by
    rw [Document.tokens, List.cons_append, passOver_openList h]
    exact passOver_itemTokens items opened rest (.inl rfl)
  | .object members, opened, rest, _, h => by
    rw [Document.tokens, List.cons_append, passOver_openObject h]
    exact passOver_memberTokens members opened rest (.inl rfl)

/-- The items of a list are passed over; where the list may not end, there is an item. -/
theorem passOver_itemTokens : (items : List Document) → (outer : List Opened) →
    (rest : List Token) → {expecting : Expecting} →
    expecting = .valueOrEnd ∨ expecting = .value ∧ items ≠ [] →
    passOver (.list :: outer) expecting (itemTokens items ++ rest) = (valueEnded outer).resume rest
  | [], outer, rest, _, h => by
    obtain rfl | ⟨-, h⟩ := h
    · exact passOver_cons rfl
    · exact absurd rfl h
  | [item], outer, rest, _, h => by
    rw [itemTokens, List.append_assoc, passOver_tokens item _ _ (h.symm.imp_left And.left)]
    exact resume_closeList
  | item :: next :: items, outer, rest, _, h => by
    rw [itemTokens, List.append_assoc, passOver_tokens item _ _ (h.symm.imp_left And.left)]
    exact passOver_itemTokens (next :: items) outer rest (.inr ⟨rfl, List.cons_ne_nil _ _⟩)

/-- The members of an object are passed over; where the object may not end, there is a member. -/
theorem passOver_memberTokens : (members : Members) → (outer : List Opened) →
    (rest : List Token) → {expecting : Expecting} →
    expecting = .nameOrEnd ∨ expecting = .name ∧ members ≠ [] →
    passOver (.object :: outer) expecting (memberTokens members ++ rest) =
      (valueEnded outer).resume rest
  | [], outer, rest, _, h => by
    obtain rfl | ⟨-, h⟩ := h
    · exact passOver_cons rfl
    · exact absurd rfl h
  | [(name, value)], outer, rest, _, h => by
    rw [memberTokens, List.cons_append, List.cons_append,
      passOver_name (h.symm.imp_left And.left), List.append_assoc,
      passOver_tokens value _ _ (.inl rfl)]
    exact resume_closeObject
  | (name, value) :: next :: members, outer, rest, _, h => by
    rw [memberTokens, List.cons_append, List.cons_append,
      passOver_name (h.symm.imp_left And.left), List.append_assoc,
      passOver_tokens value _ _ (.inl rfl)]
    exact passOver_memberTokens (next :: members) outer rest (.inr ⟨rfl, List.cons_ne_nil _ _⟩)

end

/-! ### Readers -/

/-- A reader that takes some tokens as a value, whatever follows them. -/
def Reads {α : Type} (r : Reader α) (ts : List Token) (a : α) : Prop :=
  ∀ rest, r.run (ts ++ rest) = .ok (a, rest)

namespace Reader

variable {α β : Type} {r : Reader α} {a : α} {ts rest : List Token}

theorem reads_token {f : Token → Except Fault α} {t : Token} (h : f t = .ok a) :
    Reads (token f) [t] a := by
  intro rest
  simp only [token, List.cons_append, List.nil_append, h]

theorem reads_map (f : α → β) (h : Reads r ts a) : Reads (r.map f) ts (f a) := by
  intro rest
  simp only [map, h rest]

theorem reads_afterColon (h : Reads r ts a) : Reads r.afterColon (.colon :: ts) a := h

theorem reads_ignored (d : Document) : Reads ignored d.tokens () := by
  intro rest
  simp only [ignored, passOver_tokens d [] rest (.inl rfl), valueEnded, Passing.resume]

/-! ### Lists -/

theorem items_last (h : r.run ts = .ok (a, .closeList :: rest)) : items r ts = .ok ([a], rest) := by
  unfold items
  split
  · next step => cases step.symm.trans h
  · next step =>
    cases step.symm.trans h
    rfl
  · next step => cases step.symm.trans h
  · next step => cases step.symm.trans h
  · next other _ step =>
    cases step.symm.trans h
    exact absurd rfl other

theorem items_comma {t : Token} (h : r.run ts = .ok (a, .comma :: t :: rest))
    (ht : t ≠ .closeList) :
    items r ts = (items r (t :: rest)).map fun (as, rest) => (a :: as, rest) := by
  conv => lhs; unfold items
  split
  · next step => cases step.symm.trans h
  · next step => cases step.symm.trans h
  · split
    · next step => cases step.symm.trans h
    · next step =>
      cases step.symm.trans h
      exact absurd rfl ht
    · next step =>
      cases step.symm.trans h
      rfl
  · next step => cases step.symm.trans h
  · next other step =>
    cases step.symm.trans h
    exact absurd rfl other

/-- The items of a list are read one after the other, as each begins with a token that does not end
the list. -/
theorem items_tokens {d : Document} {ds : List Document} {as : List α}
    (h : List.Forall₂ (fun d a => Reads r d.tokens a) ds as) (first : Reads r d.tokens a) :
    items r (itemTokens (d :: ds) ++ rest) = .ok (a :: as, rest) := by
  induction h generalizing d a with
  | nil =>
    rw [itemTokens, List.append_assoc]
    exact items_last (first _)
  | @cons next b ds as second _ ih =>
    obtain ⟨t, ts, hts, open_⟩ := itemTokens_head next ds
    have others := ih second
    rw [hts, List.cons_append] at others
    rw [itemTokens, List.append_assoc, List.cons_append, hts, List.cons_append,
      items_comma (first _) open_, others]
    rfl

theorem reads_list {ds : List Document} {as : List α}
    (h : List.Forall₂ (fun d a => Reads r d.tokens a) ds as) :
    Reads r.list (Document.list ds).tokens as := by
  intro rest
  cases h with
  | nil => rfl
  | @cons d a ds as first others =>
    have read : items r (itemTokens (d :: ds) ++ rest) = .ok (a :: as, rest) :=
      items_tokens others first
    obtain ⟨t, ts, hts, open_⟩ := itemTokens_head d ds
    rw [Document.tokens, hts]
    rw [hts] at read
    unfold list
    simp only [List.cons_append] at read ⊢
    split
    · next he =>
      cases he
      exact absurd rfl open_
    · next he => cases he
    · next he =>
      cases he
      exact read
    · next he => cases he
    · next other he => exact (other (List.cons.inj he).1.symm).elim

theorem reads_optional_none (r : Reader α) : Reads r.optional Document.null.tokens none := by
  intro rest
  rfl

theorem reads_optional_some {d : Document} (h : Reads r d.tokens a) (hd : d ≠ .null) :
    Reads r.optional d.tokens (some a) := by
  intro rest
  have read := reads_map some h rest
  obtain ⟨t, ts, hts, -, null⟩ := tokens_cons d
  rw [hts] at read ⊢
  rw [List.cons_append] at read ⊢
  unfold optional
  simp only
  split
  · next he =>
    cases he
    exact absurd (null rfl) hd
  · exact read

/-! ### Records -/

/-- The way of a draft through the members of an object. -/
inductive Gathers (member : String → α → Reader α) : α → Members → α → Prop
  | nil (draft : α) : Gathers member draft [] draft
  | cons {pieces : List Piece} {name : String} {value : Document} {draft next result : α}
    {members : Members} : joined? pieces = some name.toList →
    Reads (member name draft) (.colon :: value.tokens) next →
    Gathers member next members result → Gathers member draft ((pieces, value) :: members) result

variable {member : String → α → Reader α}

theorem members_last {name : String} {draft result : α}
    (h : (member name draft).run ts = .ok (result, .closeObject :: rest)) :
    members member draft (.text (.ok name) :: ts) = .ok (result, rest) := by
  unfold members
  split
  · next step => cases step.symm.trans h
  · next step =>
    cases step.symm.trans h
    rfl
  · next step => cases step.symm.trans h
  · next step => cases step.symm.trans h
  · next other _ step =>
    cases step.symm.trans h
    exact absurd rfl other

theorem members_comma {name : String} {draft next : α}
    (h : (member name draft).run ts = .ok (next, .comma :: rest)) :
    members member draft (.text (.ok name) :: ts) = members member next rest := by
  conv => lhs; unfold members
  split
  · next step => cases step.symm.trans h
  · next step => cases step.symm.trans h
  · next step =>
    cases step.symm.trans h
    rfl
  · next step => cases step.symm.trans h
  · next other step =>
    cases step.symm.trans h
    exact absurd rfl other

/-- The members of an object are read one after the other. -/
theorem members_tokens {m : List Piece × Document} {ms : Members} {draft result : α}
    (h : Gathers member draft (m :: ms) result) :
    members member draft (memberTokens (m :: ms) ++ rest) = .ok (result, rest) := by
  induction ms generalizing m draft with
  | nil =>
    cases h with
    | cons name first others =>
      cases others
      have first := first (.closeObject :: rest)
      rw [memberTokens, closedText_of_joined name]
      simp only [List.cons_append, List.append_assoc, List.nil_append] at first ⊢
      exact members_last first
  | cons next ms ih =>
    cases h with
    | cons name first others =>
      have first := first (.comma :: (memberTokens (next :: ms) ++ rest))
      rw [memberTokens, closedText_of_joined name]
      simp only [List.cons_append, List.append_assoc] at first ⊢
      rw [members_comma first, ih others]

theorem reads_record {κ : Type} {expected : String} {blank result : α}
    {finish : α → Except String κ} {items : ItemsReader κ} {value : κ}
    {ms : Members} (h : Gathers member blank ms result) (finished : finish result = .ok value) :
    Reads (record expected member blank finish items) (Document.object ms).tokens value := by
  intro rest
  have read : object member blank (memberTokens ms ++ rest) = .ok (result, rest) := by
    cases ms with
    | nil =>
      cases h
      rfl
    | cons m ms =>
      refine .trans ?_ (members_tokens h)
      obtain ⟨name, value⟩ := m
      cases ms <;> rfl
  rw [Document.tokens, List.cons_append]
  unfold record
  simp only [read, finished]

/-- What each member keeps leads a draft through all of them. -/
theorem Gathers.of_invariant (holds : α → Members → Prop) {result : α}
    (step : ∀ {pieces : List Piece} {name : String} {value : Document} {ms : Members} {draft : α},
      joined? pieces = some name.toList → holds draft ((pieces, value) :: ms) →
      ∃ next, Reads (member name draft) (.colon :: value.tokens) next ∧ holds next ms)
    (last : ∀ draft, holds draft [] → draft = result) {ms : Members} (named : Named ms) :
    ∀ draft, holds draft ms → Gathers member draft ms result := by
  induction ms with
  | nil =>
    intro draft h
    rw [last draft h]
    exact .nil result
  | cons m ms ih =>
    intro draft h
    obtain ⟨cs, joined⟩ := Option.isSome_iff_exists.mp (named m (.head _))
    have name : joined? m.1 = some (String.ofList cs).toList := by
      rw [joined, String.toList_ofList]
    obtain ⟨next, first, others⟩ := step name h
    exact .cons name first (ih (fun m hm => named m (.tail _ hm)) next others)

end Reader

/-! ### Every clear shape -/

/-- The reader of a member, or of one that is passed over. -/
def memberOr {δ : Type} (known : Option (δ → Reader δ)) (draft : δ) : Reader δ :=
  match known with
  | some member => member draft
  | none => ignored.afterColon.map fun _ => draft

/-- A member that is read into a draft, or passed over, is so when a field stands before those of
the draft. -/
theorem reads_memberOr {γ δ : Type} {known : Option (δ → Reader δ)} {draft next : δ}
    {ts : List Token} (value : γ) (h : Reads (memberOr known draft) ts next) :
    Reads (memberOr (known.map fun member (value, draft) =>
      (member draft).map fun draft => (value, draft)) (value, draft)) ts (value, next) := by
  cases known with
  | some member => exact Reader.reads_map (fun draft => (value, draft)) h
  | none =>
    intro rest
    have read := h rest
    unfold memberOr Reader.map at read ⊢
    simp only [Option.map_none] at read ⊢
    split at read
    · next taken =>
      cases read
      rfl
    · cases read

theorem shapeReader_record (title : String) (fields : Fields) :
    shapeReader (.record title fields) =
      .record ("struct " ++ title) (fun name => memberOr (memberReader fields name)) fields.blank
        fields.finish (itemsReader title fields.count 0 fields) := by
  rw [shapeReader]
  congr 1
  funext name draft
  cases memberReader fields name <;> rfl

/-- Whether a field of a draft has its value, and no member of its name is still to come, or it
lacks the value that is still to come, if there is any. -/
def AwaitsField {α : Type} (depicts : Document → α → Prop) (name : String) (ms : Members)
    (value : Option α) : Option α → Prop
  | some met => value = some met ∧ under name ms = []
  | none => Given depicts name ms value

/-- Whether a draft becomes the values of some fields by the members still to come. -/
def Awaits : (fields : Fields) → fields.Draft → Members → fields.Carrier → Prop
  | .nil, (), _, () => True
  | .required name shape rest, (met, draft), ms, (value, values) =>
    AwaitsField shape.Depicts name ms (some value) met ∧ Awaits rest draft ms values
  | .defaulted name shape rest, (met, draft), ms, (value, values) =>
    AwaitsField shape.Depicts name ms value met ∧ Awaits rest draft ms values

theorem awaits_blank : (fields : Fields) → {ms : Members} → {values : fields.Carrier} →
    fields.Depicted ms values → Awaits fields fields.blank ms values
  | .nil, _, (), _ => trivial
  | .required _ _ rest, _, (_, _), h => ⟨h.1, awaits_blank rest h.2⟩
  | .defaulted _ _ rest, _, (_, _), h => ⟨h.1, awaits_blank rest h.2⟩

section AwaitsField

variable {α : Type} {depicts : Document → α → Prop} {own name : String} {pieces : List Piece}
  {d : Document} {ms : Members} {value met : Option α}

theorem AwaitsField.eq_of_nil (h : AwaitsField depicts own [] value met) : met = value := by
  cases met with
  | some met => exact h.1.symm
  | none =>
    cases value with
    | none => rfl
    | some value =>
      obtain ⟨d, given, -⟩ := h
      cases given

theorem AwaitsField.other (named : joined? pieces = some name.toList) (other : name ≠ own)
    (h : AwaitsField depicts own ((pieces, d) :: ms) value met) :
    AwaitsField depicts own ms value met := by
  have skip : under own ((pieces, d) :: ms) = under own ms := by
    refine under_cons_other fun own => other (String.toList_inj.mp ?_)
    exact Option.some.inj (named.symm.trans own)
  cases met with
  | some met => exact ⟨h.1, skip ▸ h.2⟩
  | none => exact Given.congr skip h

/-- A member of the name of a field is one that the draft lacks. -/
theorem AwaitsField.lacking (named : joined? pieces = some own.toList)
    (h : AwaitsField depicts own ((pieces, d) :: ms) value met) :
    met = none ∧ ∃ v, value = some v ∧ depicts d v ∧ under own ms = [] := by
  have first : under own ((pieces, d) :: ms) = d :: under own ms := under_cons named
  cases met with
  | some met => cases first.symm.trans h.2
  | none =>
    refine ⟨rfl, ?_⟩
    cases value with
    | none => cases first.symm.trans h
    | some value =>
      obtain ⟨d', given, depicts⟩ := h
      obtain ⟨rfl, left⟩ := List.cons.inj (first.symm.trans given)
      exact ⟨value, rfl, depicts, left⟩

end AwaitsField

/-- A draft that awaits values from no more members has them all. -/
theorem Awaits.eq_of_nil : (fields : Fields) → {draft : fields.Draft} → {values : fields.Carrier} →
    Awaits fields draft [] values → draft = fields.drafted values
  | .nil, (), (), _ => rfl
  | .required _ _ rest, (_, _), (_, _), h => Prod.ext h.1.eq_of_nil (Awaits.eq_of_nil rest h.2)
  | .defaulted _ _ rest, (_, _), (_, _), h => Prod.ext h.1.eq_of_nil (Awaits.eq_of_nil rest h.2)

/-- A member whose name is not one of some fields is nothing that they await. -/
theorem Awaits.other {name : String} {pieces : List Piece} {d : Document} {ms : Members}
    (named : joined? pieces = some name.toList) : (fields : Fields) → name ∉ fields.names →
    {draft : fields.Draft} → {values : fields.Carrier} →
    Awaits fields draft ((pieces, d) :: ms) values → Awaits fields draft ms values
  | .nil, _, (), (), _ => trivial
  | .required _ _ rest, fresh, (_, _), (_, _), h
  | .defaulted _ _ rest, fresh, (_, _), (_, _), h => by
    obtain ⟨own, fresh⟩ := not_or.mp (List.mem_cons.not.mp fresh)
    exact ⟨h.1.other named own, Awaits.other named rest fresh h.2⟩

section Fields

variable {own : String} {shape : Shape} {rest : Fields}

theorem reads_own {d : Document} {value : shape.Carrier} (draft : rest.Draft)
    (h : Reads (shapeReader shape) d.tokens value) :
    Reads (memberOr (memberReader (.required own shape rest) own) (none, draft))
      (.colon :: d.tokens) (some value, draft) := by
  have read := Reader.reads_map (fun value => (some value, draft)) (Reader.reads_afterColon h)
  simp only [memberReader]
  exact read

/-- A field that may be left out is read as one that may not. -/
theorem memberReader_defaulted (name : String) :
    memberReader (.defaulted own shape rest) name = memberReader (.required own shape rest) name :=
  rfl

theorem clear_required (h : (Fields.required own shape rest).clear = true) :
    own ∉ rest.names ∧ shape.clear = true ∧ rest.clear = true := by
  simpa [Fields.clear, and_assoc] using h

/-- One more member, where the shape of the first field and the other fields are read as they
should be. -/
theorem awaits_cons {name : String} {pieces : List Piece} {d : Document} {ms : Members}
    {value met : Option shape.Carrier} {draft : rest.Draft} {values : rest.Carrier}
    (named : joined? pieces = some name.toList) (fresh : own ∉ rest.names)
    (first : ∀ v, shape.Depicts d v → Reads (shapeReader shape) d.tokens v)
    (others : ∃ next, Reads (memberOr (memberReader rest name) draft) (.colon :: d.tokens) next ∧
      Awaits rest next ms values)
    (awaitsFirst : AwaitsField shape.Depicts own ((pieces, d) :: ms) value met)
    (awaits : Awaits rest draft ((pieces, d) :: ms) values) :
    ∃ next, Reads (memberOr (memberReader (.required own shape rest) name) (met, draft))
        (.colon :: d.tokens) next ∧
      AwaitsField shape.Depicts own ms value next.1 ∧ Awaits rest next.2 ms values := by
  by_cases same : name = own
  · -- The first field takes the member; none of the others has its name, so that none awaits it.
    subst same
    obtain ⟨rfl, v, rfl, depicts, left⟩ := awaitsFirst.lacking named
    exact ⟨(some v, draft), reads_own draft (first v depicts), ⟨rfl, left⟩,
      awaits.other named rest fresh⟩
  · -- The other fields take the member or pass over it, and the first one goes on to await.
    obtain ⟨next, read, awaits⟩ := others
    refine ⟨(met, next), ?_, awaitsFirst.other named same, awaits⟩
    simp only [memberReader, if_neg same]
    exact reads_memberOr met read

end Fields

theorem reads_unsigned (expected : String) (n : UInt64) :
    Reads (.unsigned expected) (Document.number (.ofInt n.toNat)).tokens n := by
  have range := n.toNat_lt
  have value := NumberForm.value_ofInt (n := n.toNat) (by omega) (by unfold NumberForm.most; omega)
  rw [Document.tokens, value]
  exact Reader.reads_token (by simp [Number.ofInt])

theorem reads_signed (n : Int64) : Reads .signed (Document.number (.ofInt n.toInt)).tokens n := by
  have most := n.toInt_lt
  have value := NumberForm.value_ofInt n.le_toInt (by unfold NumberForm.most; omega)
  have same := Int64.ofInt_toInt n
  rw [Document.tokens, value]
  refine Reader.reads_token ?_
  cases hn : n.toInt with
  | ofNat m =>
    rw [hn] at same most
    have small : m < 9223372036854775808 := by
      rw [Int.ofNat_eq_natCast] at most
      omega
    rw [Int.ofNat_eq_natCast, Int64.ofInt_eq_ofNat] at same
    simp only [Number.ofInt, if_pos small, same]
  | negSucc m =>
    rw [hn] at same
    simp only [Number.ofInt, same]

mutual

/-- The tokens of a document that depicts a value of a clear shape are read as the value. -/
theorem reads_shapeReader : (s : Shape) → s.clear = true → (d : Document) → (value : s.Carrier) →
    s.Depicts d value → Reads (shapeReader s) d.tokens value
  | .text _, _, _, s, ⟨pieces, rfl, joined⟩ => by
    rw [Document.tokens, closedText_of_joined joined]
    exact Reader.reads_token rfl
  | .letter, _, _, c, ⟨pieces, rfl, joined⟩ => by
    rw [Document.tokens, closedText_of_joined joined]
    exact Reader.reads_token (by simp)
  | .flag, _, _, b, rfl => Reader.reads_token rfl
  | .unsigned expected, _, _, n, rfl => reads_unsigned expected n
  | .signed, _, _, n, rfl => reads_signed n
  | .list item, clear, _, values, ⟨items, rfl, depicted⟩ =>
    Reader.reads_list (depicted.imp fun d value => reads_shapeReader item clear d value)
  | .optional inner, _, _, none, rfl => Reader.reads_optional_none (shapeReader inner)
  | .optional inner, clear, d, some value, depicts => by
    simp only [Shape.clear, Bool.and_eq_true, Bool.not_eq_true'] at clear
    exact Reader.reads_optional_some (reads_shapeReader inner clear.2 d value depicts)
      (Shape.Depicts.ne_null clear.1 depicts)
  | .record title fields, clear, _, values, ⟨ms, rfl, named, depicted⟩ => by
    -- `Awaits` is what each member keeps, whatever its name and its place.
    have gathered := Reader.Gathers.of_invariant (fun draft ms => Awaits fields draft ms values)
      (fun joined awaits => awaits_step fields clear joined awaits)
      (fun _ awaits => awaits.eq_of_nil fields) named fields.blank (awaits_blank fields depicted)
    rw [shapeReader_record]
    exact Reader.reads_record gathered (fields.finish_drafted values)

/-- What a record awaits is kept by one more member. -/
theorem awaits_step : (fields : Fields) → fields.clear = true → {pieces : List Piece} →
    {name : String} → {d : Document} → {ms : Members} → {draft : fields.Draft} →
    {values : fields.Carrier} → joined? pieces = some name.toList →
    Awaits fields draft ((pieces, d) :: ms) values →
    ∃ next, Reads (memberOr (memberReader fields name) draft) (.colon :: d.tokens) next ∧
      Awaits fields next ms values
  | .nil, _, _, _, d, _, (), (), _, _ =>
    ⟨(), Reader.reads_map (fun _ => ()) (Reader.reads_afterColon (Reader.reads_ignored d)), trivial⟩
  | .required own shape rest, clear, _, _, d, _, (_, _), (value, _), named, h => by
    obtain ⟨fresh, clear, clearRest⟩ := clear_required clear
    obtain ⟨next, read, awaits⟩ := awaits_cons named fresh
      (fun v => reads_shapeReader shape clear d v) (awaits_step rest clearRest named h.2) h.1 h.2
    exact ⟨next, read, awaits⟩
  | .defaulted own shape rest, clear, _, _, d, _, (_, _), (value, _), named, h => by
    obtain ⟨fresh, clear, clearRest⟩ := clear_required clear
    rw [memberReader_defaulted]
    obtain ⟨next, read, awaits⟩ := awaits_cons named fresh
      (fun v => reads_shapeReader shape clear d v) (awaits_step rest clearRest named h.2) h.1 h.2
    exact ⟨next, read, awaits⟩

end

/-! ### Texts -/

/-- Whether a text is one of a document, with blanks around it. -/
def Holds (text : String) (d : Document) : Prop :=
  ∃ before cs after, Blank before ∧ Written d cs ∧ Blank after ∧
    text.toList = before ++ (cs ++ after)

/-- A text of a document that depicts a value of a clear shape is read as the value. -/
theorem readAs_holds {s : Shape} (clear : s.clear = true) {text : String} {d : Document}
    {value : s.Carrier} (holds : Holds text d) (depicts : s.Depicts d value) :
    readAs s text = .ok value := by
  obtain ⟨before, cs, after, blank, written, blankAfter, htext⟩ := holds
  have parted : Parted after := by
    rw [← List.append_nil after]
    exact parted_blank blankAfter parted_nil
  have cut : lex text.toList = d.tokens ++ lex after := by
    rw [htext, lex_blank blank, spells_written d written _ parted]
  have ended : lex after = [] := by
    rw [← List.append_nil after, lex_blank blankAfter, lex_nil]
  have read := reads_shapeReader s clear d value depicts (lex after)
  rw [ended] at cut read
  rw [readAs, cut, read]

end Json
end PackageCensus
