import Mathlib
import PackageCensus.Text.Blank

/-! # Words of texts in columns

A text may be cut into words on either side of a blank (`words_append_blank`), and all else about
`words` follows from that.  `Spaced columns text` says that a text holds some columns, in order and
with blanks around them; its words are then those of the columns (`Spaced.words`).  So words joined
by single spaces are read back (`words_intercalate`).

Trimming drops blanks (`exists_trim`), and all that stand around a text which neither begins nor ends
with one (`trim_spaced`).  The two together tell what is left (`trim_eq_iff`): the one such text with
nothing but blanks around it. -/

namespace PackageCensus.Text

/-! ### Characters that are not blank -/

theorem isBlank_of_ascii {c : Char} (h : 0x20 < c.toNat) (h' : c.toNat < 0x80) :
    isBlank c = false := by
  rw [← Bool.not_eq_true]
  simp only [isBlank, Bool.or_eq_true, Bool.and_eq_true, decide_eq_true_eq, beq_iff_eq]
  omega

theorem toNat_of_isAlpha {c : Char} (h : c.isAlpha = true) :
    65 ≤ c.toNat ∧ c.toNat ≤ 90 ∨ 97 ≤ c.toNat ∧ c.toNat ≤ 122 := by
  simp only [Char.isAlpha, Char.isUpper, Char.isLower, ge_iff_le, UInt32.le_iff_toNat_le,
    Bool.or_eq_true, Bool.and_eq_true, decide_eq_true_eq, Char.reduceVal, UInt32.reduceToNat] at h
  exact h

/-! ### Words -/

/-- A run of characters that is one word. -/
def IsWord (w : List Char) : Prop := w ≠ [] ∧ ∀ c ∈ w, isBlank c = false

theorem words_append_blank {b : Char} (hb : isBlank b = true) (u v : List Char) :
    words (u ++ b :: v) = words u ++ words v := by
  unfold words
  rw [List.splitOnP_append_cons u v hb, List.filter_append]

theorem words_cons_blank {b : Char} (hb : isBlank b = true) (v : List Char) :
    words (b :: v) = words v := words_append_blank hb [] v

theorem words_of_isWord {w : List Char} (h : IsWord w) : words w = [w] := by
  unfold words
  rw [List.splitOnP_eq_singleton h.2, List.filter_eq_self]
  intro u hu
  rw [List.mem_singleton.mp hu]
  simpa using h.1

/-- Nothing at which a list is cut is in a piece. -/
theorem solid_of_mem_splitOnP {α : Type} {p : α → Bool} {l piece : List α}
    (h : piece ∈ l.splitOnP p) : ∀ a ∈ piece, p a = false := by
  induction l generalizing piece with
  | nil =>
    rw [List.splitOnP_nil, List.mem_singleton] at h
    simp [h]
  | cons b l ih =>
    rw [List.splitOnP_cons_eq_if_modifyHead] at h
    split at h
    · rcases List.mem_cons.mp h with rfl | h
      · exact List.forall_mem_nil _
      · exact ih h
    · next solid =>
      -- The item joins the first of the pieces that the rest is cut into.
      cases cut : l.splitOnP p with
      | nil => exact absurd cut (List.splitOnP_ne_nil p l)
      | cons first pieces =>
        rw [cut, List.modifyHead_cons, List.mem_cons] at h
        rw [cut] at ih
        rcases h with rfl | h
        · exact List.forall_mem_cons.mpr ⟨Bool.not_eq_true _ ▸ solid, ih (.head _)⟩
        · exact ih (.tail _ h)

/-- A word is never empty and holds no blank. -/
theorem mem_words {text w : List Char} (h : w ∈ words text) : IsWord w := by
  obtain ⟨piece, nonempty⟩ := List.mem_filter.mp h
  exact ⟨by simpa using nonempty, solid_of_mem_splitOnP piece⟩

theorem words_blanks_append {gap : List Char} (h : ∀ c ∈ gap, isBlank c = true) (v : List Char) :
    words (gap ++ v) = words v := by
  induction gap with
  | nil => rfl
  | cons b gap ih =>
    rw [List.cons_append, words_cons_blank (h b List.mem_cons_self)]
    exact ih fun c hc => h c (List.mem_cons_of_mem _ hc)

/-- A text may be cut into words before a blank or at its end. -/
theorem words_append {u v : List Char} (h : ∀ c ∈ v.head?, isBlank c = true) :
    words (u ++ v) = words u ++ words v := by
  cases v with
  | nil => simp
  | cons b v =>
    have hb : isBlank b = true := h b rfl
    rw [words_append_blank hb, words_cons_blank hb]

/-! ### Columns -/

/-- Texts that hold some columns with blanks before, between and after them.  A column may be
empty, and may itself have blanks within it. -/
inductive Spaced : List (List Char) → List Char → Prop
  | nil {gap : List Char} : (∀ c ∈ gap, isBlank c = true) → Spaced [] gap
  | cons {gap column rest : List Char} {columns : List (List Char)} :
    (∀ c ∈ gap, isBlank c = true) → (∀ c ∈ rest.head?, isBlank c = true) →
    Spaced columns rest → Spaced (column :: columns) (gap ++ (column ++ rest))

theorem Spaced.words {columns : List (List Char)} {text : List Char} (h : Spaced columns text) :
    words text = columns.flatMap words := by
  induction h with
  | nil hgap => simpa using words_blanks_append hgap []
  | cons hgap hrest _ ih =>
    rw [words_blanks_append hgap, words_append hrest, ih, List.flatMap_cons]

/-- A blank may be put before the columns. -/
theorem Spaced.blank {b : Char} (hb : isBlank b = true) {columns : List (List Char)}
    {text : List Char} (h : Spaced columns text) : Spaced columns (b :: text) := by
  have hcons {gap : List Char} (hgap : ∀ c ∈ gap, isBlank c = true) :
      ∀ c ∈ b :: gap, isBlank c = true := by
    intro c hc
    rcases List.mem_cons.mp hc with rfl | hc
    · exact hb
    · exact hgap c hc
  cases h with
  | nil hgap => exact .nil (hcons hgap)
  | cons hgap hrest h => exact .cons (hcons hgap) hrest h

/-- Columns may be joined by single spaces. -/
theorem spaced_intercalate : ∀ columns : List (List Char),
    Spaced columns ([' '].intercalate columns)
  | [] => .nil (by simp)
  | [column] => by
    have hlast := @Spaced.cons [] column [] [] (by simp) (by simp) (.nil (by simp))
    simpa using hlast
  | column :: next :: columns => by
    have hspace : isBlank ' ' = true := by decide
    have hrest := Spaced.blank hspace (spaced_intercalate (next :: columns))
    rw [List.intercalate_cons_cons]
    have hfirst := @Spaced.cons [] column _ _ (by simp) (by simp [hspace]) hrest
    simpa using hfirst

/-- Words joined by single spaces are read back. -/
theorem words_intercalate {ws : List (List Char)} (h : ∀ w ∈ ws, IsWord w) :
    words ([' '].intercalate ws) = ws := by
  rw [(spaced_intercalate ws).words]
  induction ws with
  | nil => rfl
  | cons w more ih =>
    have hw := words_of_isWord (h w List.mem_cons_self)
    have hmore := ih fun u hu => h u (List.mem_cons_of_mem _ hu)
    rw [List.flatMap_cons, hw, hmore, List.singleton_append]

/-! ### Trimming -/

theorem trimLeft_append {lead : List Char} (h : ∀ c ∈ lead, isBlank c = true) (w : List Char) :
    trimLeft (lead ++ w) = trimLeft w := List.dropWhile_append_of_pos h

theorem trimLeft_of_head {w : List Char} (h : ∀ c ∈ w.head?, isBlank c = false) :
    trimLeft w = w := by
  cases w with
  | nil => rfl
  | cons c w => exact List.dropWhile_cons_of_neg (by simp [h c rfl])

/-- Blanks around a text that neither begins nor ends with one are what trimming drops. -/
theorem trim_spaced {lead w trail : List Char} (before : ∀ c ∈ lead, isBlank c = true)
    (after : ∀ c ∈ trail, isBlank c = true) (first : ∀ c ∈ w.head?, isBlank c = false)
    (last : ∀ c ∈ w.getLast?, isBlank c = false) : trim (lead ++ (w ++ trail)) = w := by
  have after' : ∀ c ∈ trail.reverse, isBlank c = true := by simpa using after
  have left : trimLeft (w ++ trail) = w ++ trail ∨ w = [] := by
    cases w with
    | nil => exact .inr rfl
    | cons c w => exact .inl (trimLeft_of_head first)
  have right : trimRight (w ++ trail) = w := by
    rw [trimRight, List.reverse_append, trimLeft_append after', trimLeft_of_head (by simpa using last),
      List.reverse_reverse]
  rw [trim, trimLeft_append before]
  rcases left with left | rfl
  · rw [left, right]
  · have gone : trimLeft trail = [] := List.dropWhile_eq_nil_iff.mpr after
    rw [List.nil_append, gone]
    rfl

theorem exists_trimLeft (cs : List Char) :
    ∃ lead, cs = lead ++ trimLeft cs ∧ ∀ c ∈ lead, isBlank c = true :=
  ⟨cs.takeWhile isBlank, List.takeWhile_append_dropWhile.symm, fun _ hc => List.mem_takeWhile_imp hc⟩

theorem exists_trimRight (cs : List Char) :
    ∃ trail, cs = trimRight cs ++ trail ∧ ∀ c ∈ trail, isBlank c = true := by
  obtain ⟨lead, cut, blank⟩ := exists_trimLeft cs.reverse
  refine ⟨lead.reverse, ?_, fun c hc => blank c (List.mem_reverse.mp hc)⟩
  rw [trimRight, ← List.reverse_append, ← cut, List.reverse_reverse]

/-- Trimming drops blanks only. -/
theorem exists_trim (cs : List Char) : ∃ lead trail, cs = lead ++ (trim cs ++ trail) ∧
    (∀ c ∈ lead, isBlank c = true) ∧ ∀ c ∈ trail, isBlank c = true := by
  obtain ⟨lead, left, before⟩ := exists_trimLeft cs
  obtain ⟨trail, right, after⟩ := exists_trimRight (trimLeft cs)
  exact ⟨lead, trail, left.trans (congrArg _ right), before, after⟩

theorem trim_subset (cs : List Char) : trim cs ⊆ cs := by
  obtain ⟨lead, trail, cut, -⟩ := exists_trim cs
  intro c hc
  rw [cut]
  exact List.mem_append_right _ (List.mem_append_left _ hc)

/-- A text that neither begins nor ends with a blank. -/
structure IsTrimmed (w : List Char) : Prop where
  first : ∀ c ∈ w.head?, isBlank c = false
  last : ∀ c ∈ w.getLast?, isBlank c = false

theorem isTrimmed_of_solid {w : List Char} (h : ∀ c ∈ w, isBlank c = false) : IsTrimmed w :=
  ⟨fun c hc => h c (List.mem_of_head? hc), fun c hc => h c (List.mem_of_getLast? hc)⟩

theorem head?_trimLeft (w : List Char) : ∀ c ∈ (trimLeft w).head?, isBlank c = false := by
  intro c hc
  have kept := List.head?_dropWhile_not isBlank w
  rw [trimLeft] at hc
  rw [hc] at kept
  simpa using kept

theorem isTrimmed_trim (cs : List Char) : IsTrimmed (trim cs) := by
  have last : ∀ c ∈ (trim cs).getLast?, isBlank c = false := by
    rw [trim, trimRight, List.getLast?_reverse]
    exact head?_trimLeft _
  refine ⟨fun c hc => ?_, last⟩
  -- What is left begins where the text without its leading blanks does.
  obtain ⟨trail, cut, -⟩ := exists_trimRight (trimLeft cs)
  refine head?_trimLeft cs c ?_
  rw [cut, List.head?_append, ← trim, Option.mem_def.mp hc]
  rfl

/-- What trimming leaves is the text that neither begins nor ends with a blank and has nothing but
blanks around it. -/
theorem trim_eq_iff {cs w : List Char} : trim cs = w ↔ IsTrimmed w ∧ ∃ lead trail,
    cs = lead ++ (w ++ trail) ∧
      (∀ c ∈ lead, isBlank c = true) ∧ ∀ c ∈ trail, isBlank c = true := by
  constructor
  · rintro rfl
    exact ⟨isTrimmed_trim cs, exists_trim cs⟩
  · rintro ⟨trimmed, lead, trail, rfl, before, after⟩
    exact trim_spaced before after trimmed.first trimmed.last

theorem trim_of_isTrimmed {w : List Char} (h : IsTrimmed w) : trim w = w :=
  trim_eq_iff.mpr ⟨h, [], [], by simp, by simp, by simp⟩

/-- A blank at the end does not count. -/
theorem trim_concat {b : Char} (hb : isBlank b = true) (cs : List Char) :
    trim (cs ++ [b]) = trim cs := by
  obtain ⟨lead, trail, cut, before, after⟩ := exists_trim cs
  refine trim_eq_iff.mpr ⟨isTrimmed_trim cs, lead, trail ++ [b], ?_, before, ?_⟩
  · rw [← List.append_assoc (trim cs), ← List.append_assoc lead, ← cut]
  · simpa [or_imp, forall_and] using ⟨after, hb⟩

end PackageCensus.Text
