import PackageCensus.Proofs.Symbol.Offsets

/-! # Where a call signature begins

The call signature at the end of a local name is found from the right, by a scan that counts the
groups which are open.  `Scans` is this scan with an integer for its count, so that only the course
of the scan keeps the count from falling below zero.  The count is the `excess` of what has been
read (`Scans.excess_eq`), and since the scan ends where the count would come back to zero, each end
of what has been read closes more groups than it opens (`Scans.unopened`).  So a group is open
wherever the scan meets an opening parenthesis (`Scans.one_le_depth`), and the one at which the scan
ends begins the shortest end of the name with as many opening as closing parentheses
(`Scans.isLeastBalanced`).  `dropSignature` cuts the name there (`dropSignature_of_scans`), unless
nothing would be left, and so does `withoutSignature?`, whose count is a natural number. -/

namespace PackageCensus.QualifiedName

/-! ### Closed and opened groups -/

/-- How many more parentheses a text closes than it opens. -/
def excess (w : List Char) : Int := w.count ')' - w.count '('

@[simp] theorem excess_nil : excess [] = 0 := rfl

@[simp] theorem excess_append (u v : List Char) : excess (u ++ v) = excess u + excess v := by
  simp only [excess, List.count_append]
  omega

@[simp] theorem excess_closing (w : List Char) : excess (')' :: w) = excess w + 1 := by
  simp only [excess, List.count_cons_self, List.count_cons_of_ne (show ')' ≠ '(' by decide)]
  omega

@[simp] theorem excess_opening (w : List Char) : excess ('(' :: w) = excess w - 1 := by
  simp only [excess, List.count_cons_self, List.count_cons_of_ne (show '(' ≠ ')' by decide)]
  omega

theorem excess_eq_zero {w : List Char} : excess w = 0 ↔ w.count '(' = w.count ')' := by
  unfold excess
  omega

theorem excess_other {c : Char} (hclose : c ≠ ')') (hopen : c ≠ '(') (w : List Char) :
    excess (c :: w) = excess w := by
  rw [excess, excess, List.count_cons_of_ne hclose, List.count_cons_of_ne hopen]

/-- Texts of which each end, the empty one apart, closes more groups than it opens. -/
def Unopened (w : List Char) : Prop := ∀ t, t <:+ w → t ≠ [] → 0 < excess t

namespace Unopened

theorem nil : Unopened [] := fun _ ht hne => absurd (List.suffix_nil.mp ht) hne

theorem cons {c : Char} {w : List Char} (h : Unopened w) (hpos : 0 < excess (c :: w)) :
    Unopened (c :: w) := by
  intro t ht hne
  rcases List.suffix_cons_iff.mp ht with rfl | hw
  · exact hpos
  · exact h t hw hne

theorem of_suffix {t w : List Char} (h : Unopened w) (ht : t <:+ w) : Unopened t :=
  fun u hu => h u (hu.trans ht)

theorem pos {w : List Char} (h : Unopened w) (hne : w ≠ []) : 0 < excess w :=
  h w List.suffix_rfl hne

theorem nonneg {w : List Char} (h : Unopened w) : 0 ≤ excess w := by
  by_cases hw : w = []
  · rw [hw, excess_nil]
  · exact (h.pos hw).le

/-- The beginnings of a group open no fewer parentheses than they close. -/
theorem excess_le_zero {inner p : List Char} (h : Unopened inner)
    (hgroup : excess ('(' :: inner) = 0) (hp : p <+: '(' :: inner) : excess p ≤ 0 := by
  rcases List.prefix_cons_iff.mp hp with rfl | ⟨p', rfl, t, rfl⟩
  · exact excess_nil.le
  · have ht : 0 ≤ excess t := (h.of_suffix (List.suffix_append p' t)).nonneg
    rw [← List.cons_append, excess_append] at hgroup
    omega

end Unopened

/-- The shortest end of a name, the empty one apart, with as many opening as closing parentheses. -/
structure IsLeastBalanced (name s : List Char) : Prop where
  isSuffix : s <:+ name
  ne_nil : s ≠ []
  balanced : s.count '(' = s.count ')'
  least : ∀ t, t <:+ name → t ≠ [] → t.count '(' = t.count ')' → s.length ≤ t.length

namespace IsLeastBalanced

variable {name s t : List Char}

theorem unique (hs : IsLeastBalanced name s) (ht : IsLeastBalanced name t) : s = t := by
  have hst : s.length ≤ t.length := hs.least t ht.isSuffix ht.ne_nil ht.balanced
  have hts : t.length ≤ s.length := ht.least s hs.isSuffix hs.ne_nil hs.balanced
  have within : s <:+ t := List.suffix_of_suffix_length_le hs.isSuffix ht.isSuffix hst
  exact within.eq_of_length (Nat.le_antisymm hst hts)

theorem not_unopened (hs : IsLeastBalanced name s) : ¬ Unopened name := by
  intro h
  have hpos : 0 < excess s := h s hs.isSuffix hs.ne_nil
  exact hpos.ne' (excess_eq_zero.mpr hs.balanced)

end IsLeastBalanced

/-! ### The scan -/

/-- The scan of a name that ends in a closing parenthesis: what is left to read, the count of groups
that are open, and what has been read.  A parenthesis that opens the only open group ends it. -/
inductive Scans (name : List Char) : List Char → Int → List Char → Prop
  | start : name.getLast? = some ')' → Scans name name 0 []
  | closing {before read : List Char} {depth : Int} :
      Scans name (before ++ [')']) depth read → Scans name before (depth + 1) (')' :: read)
  | opening {before read : List Char} {depth : Int} : depth - 1 ≠ 0 →
      Scans name (before ++ ['(']) depth read → Scans name before (depth - 1) ('(' :: read)
  | other {c : Char} {before read : List Char} {depth : Int} : c ≠ ')' → c ≠ '(' →
      Scans name (before ++ [c]) depth read → Scans name before depth (c :: read)

namespace Scans

variable {name before read : List Char} {depth : Int}

theorem getLast?_eq (h : Scans name before depth read) : name.getLast? = some ')' := by
  induction h with
  | start hlast => exact hlast
  | closing _ ih => exact ih
  | opening _ _ ih => exact ih
  | other _ _ _ ih => exact ih

theorem append_eq (h : Scans name before depth read) : before ++ read = name := by
  induction h with
  | start _ => exact List.append_nil _
  | closing _ ih => rwa [List.append_cons]
  | opening _ _ ih => rwa [List.append_cons]
  | other _ _ _ ih => rwa [List.append_cons]

theorem excess_eq (h : Scans name before depth read) : excess read = depth := by
  induction h with
  | start _ => exact excess_nil
  | closing _ ih => rw [excess_closing, ih]
  | opening _ _ ih => rw [excess_opening, ih]
  | other hclose hopen _ ih => rw [excess_other hclose hopen, ih]

/-- What a scan reads first is the parenthesis that ends the name. -/
theorem read_ne_nil {c : Char} (h : Scans name (before ++ [c]) depth read) (hc : c ≠ ')') :
    read ≠ [] := by
  rintro rfl
  have hname : before ++ [c] = name := by rw [← h.append_eq, List.append_nil]
  have hlast := h.getLast?_eq
  rw [← hname, List.getLast?_concat, Option.some.injEq] at hlast
  exact hc hlast

/-- The invariant of the scan: it ends where its count would come back to zero. -/
theorem unopened (h : Scans name before depth read) : Unopened read := by
  induction h with
  | start _ => exact .nil
  | closing _ ih =>
    refine ih.cons ?_
    have := ih.nonneg
    rw [excess_closing]
    omega
  | @opening before read depth hgoes h ih =>
    refine ih.cons ?_
    have hread : 0 < excess read := ih.pos (h.read_ne_nil (by decide))
    rw [h.excess_eq] at hread
    rw [excess_opening, h.excess_eq]
    omega
  | @other c before read depth hclose hopen h ih =>
    refine ih.cons ?_
    rw [excess_other hclose hopen]
    exact ih.pos (h.read_ne_nil hclose)

/-- Wherever a scan meets an opening parenthesis, a group is open. -/
theorem one_le_depth (h : Scans name (before ++ ['(']) depth read) : 1 ≤ depth := by
  have hread : 0 < excess read := h.unopened.pos (h.read_ne_nil (by decide))
  rwa [h.excess_eq] at hread

/-- The parenthesis at which a scan ends begins the shortest balanced end of the name. -/
theorem isLeastBalanced (h : Scans name (before ++ ['(']) 1 read) :
    IsLeastBalanced name ('(' :: read) := by
  have hname : before ++ '(' :: read = name := by rw [List.append_cons, h.append_eq]
  have hzero : excess ('(' :: read) = 0 := by rw [excess_opening, h.excess_eq, sub_self]
  refine ⟨⟨before, hname⟩, List.cons_ne_nil _ _, excess_eq_zero.mp hzero, fun t ht hne ht0 => ?_⟩
  by_contra hshort
  have within : t <:+ '(' :: read := List.suffix_of_suffix_length_le ht ⟨before, hname⟩ (by omega)
  rcases List.suffix_cons_iff.mp within with rfl | inside
  · exact hshort le_rfl
  · have hpos : 0 < excess t := h.unopened t inside hne
    exact hpos.ne' (excess_eq_zero.mpr ht0)

/-- A scan goes on to a parenthesis that opens the only open group or to the beginning of the name,
and `openingOf` finds what it comes to. -/
theorem ends : ∀ {before read : List Char} {n : Nat}, Scans name before (n + 1) read →
    (∃ left inner, Scans name (left ++ ['(']) 1 inner ∧
      openingOf (n + 1) before.reverse = some left.reverse) ∨
    (∃ depth, Scans name [] depth name) ∧ openingOf (n + 1) before.reverse = none := by
  intro before
  induction before using List.reverseRecOn with
  | nil =>
    intro read n h
    have hread : read = name := h.append_eq
    exact .inr ⟨⟨_, hread ▸ h⟩, rfl⟩
  | append_singleton before c ih =>
    intro read n h
    rw [List.reverse_append, List.reverse_singleton, List.singleton_append, openingOf]
    by_cases hclose : c = ')'
    · subst hclose
      have hnext : Scans name before ((n + 1 : Nat) + 1) (')' :: read) := by
        exact_mod_cast h.closing
      rw [if_pos rfl]
      exact ih hnext
    · by_cases hopen : c = '('
      · subst hopen
        rw [if_neg hclose, if_pos rfl]
        cases n with
        | zero => exact .inl ⟨before, read, by exact_mod_cast h, if_pos le_rfl⟩
        | succ n =>
          have hcount : (((n + 1 : Nat) : Int) + 1) - 1 = (n : Int) + 1 := by omega
          have hnext : Scans name before ((n : Int) + 1) ('(' :: read) :=
            hcount ▸ h.opening (by omega)
          rw [if_neg (by omega)]
          exact ih hnext
      · rw [if_neg hclose, if_neg hopen]
        exact ih (h.other hclose hopen)

end Scans

/-! ### What is dropped -/

/-- A name is cut before the parenthesis at which the scan ends.  It is kept if nothing stands
before this parenthesis, and if there is none. -/
theorem dropSignature_of_scans {name : List Char} (hlast : name.getLast? = some ')') :
    (∃ left inner, Scans name (left ++ ['(']) 1 inner ∧
      dropSignature name = if left = [] then name else left) ∨
    (∃ depth, Scans name [] depth name) ∧ dropSignature name = name := by
  obtain ⟨body, rfl⟩ : ∃ body, name = body ++ [')'] := List.getLast?_eq_some_iff.mp hlast
  have first : Scans (body ++ [')']) body ((0 : Nat) + 1) [')'] := .closing (.start hlast)
  rw [dropSignature_concat]
  rcases first.ends with ⟨left, inner, hends, hfound⟩ | ⟨hends, hnone⟩
  · refine .inl ⟨left, inner, hends, ?_⟩
    rw [Nat.zero_add] at hfound
    cases left using List.reverseRecOn with
    | nil => simp [hfound]
    | append_singleton left c => simp [hfound]
  · rw [Nat.zero_add] at hnone
    exact .inr ⟨hends, by simp [hnone]⟩

/-- A name that ends in a closing parenthesis is cut before its shortest balanced end.  It is kept
if this end is all of it, and if each of its ends closes more groups than it opens. -/
theorem dropSignature_cases {name : List Char} (hlast : name.getLast? = some ')') :
    (∃ inner, IsLeastBalanced name ('(' :: inner) ∧ Unopened inner ∧ '(' :: inner ≠ name ∧
      name = dropSignature name ++ '(' :: inner) ∨
    IsLeastBalanced name name ∧ dropSignature name = name ∨
    Unopened name ∧ dropSignature name = name := by
  rcases dropSignature_of_scans hlast with ⟨left, inner, hends, hleft⟩ | ⟨⟨depth, hends⟩, hkept⟩
  · have hname : left ++ '(' :: inner = name := by rw [List.append_cons, hends.append_eq]
    by_cases hnil : left = []
    · rw [if_pos hnil] at hleft
      rw [hnil, List.nil_append] at hname
      exact .inr (.inl ⟨hname ▸ hends.isLeastBalanced, hleft⟩)
    · rw [if_neg hnil] at hleft
      refine .inl ⟨inner, hends.isLeastBalanced, hends.unopened, fun hall => ?_, ?_⟩
      · exact hnil (List.append_left_eq_self.mp (hname.trans hall.symm))
      · rw [hleft, hname]
  · exact .inr (.inr ⟨hends.unopened, hkept⟩)

/-- A name that ends in a closing parenthesis has no balanced end exactly if all its ends open too
few groups. -/
theorem forall_not_isLeastBalanced_iff {name : List Char} (hlast : name.getLast? = some ')') :
    (∀ s, ¬ IsLeastBalanced name s) ↔ Unopened name := by
  refine ⟨fun hnone => ?_, fun hopen s hs => hs.not_unopened hopen⟩
  rcases dropSignature_cases hlast with ⟨inner, hinner, -⟩ | ⟨hall, -⟩ | ⟨hopen, -⟩
  · exact absurd hinner (hnone _)
  · exact absurd hall (hnone _)
  · exact hopen

theorem dropSignature_ne_self {name s : List Char} (hs : s ≠ [])
    (hname : name = dropSignature name ++ s) : dropSignature name ≠ name := by
  intro hkept
  rw [hkept] at hname
  exact hs (List.append_right_eq_self.mp hname.symm)

theorem dropSignature_eq_self_iff {name : List Char} : dropSignature name = name ↔
    name.getLast? ≠ some ')' ∨ (∀ s, ¬ IsLeastBalanced name s) ∨ IsLeastBalanced name name := by
  by_cases hlast : name.getLast? = some ')'
  · rcases dropSignature_cases hlast with
      ⟨inner, hinner, -, hall, hcut⟩ | ⟨hall, hkept⟩ | ⟨hopen, hkept⟩
    · refine iff_of_false (dropSignature_ne_self (List.cons_ne_nil _ _) hcut) ?_
      rintro (hopen | hnone | hname)
      · exact hopen hlast
      · exact hnone _ hinner
      · exact hall (hinner.unique hname)
    · exact iff_of_true hkept (.inr (.inr hall))
    · exact iff_of_true hkept (.inr (.inl fun s hs => hs.not_unopened hopen))
  · exact iff_of_true (dropSignature_of_getLast? hlast) (.inl hlast)

theorem eq_dropSignature_append_iff {name s : List Char} (hs : s ≠ []) :
    name = dropSignature name ++ s ↔
      name.getLast? = some ')' ∧ IsLeastBalanced name s ∧ s ≠ name := by
  constructor
  · intro hname
    have hchanged : dropSignature name ≠ name := dropSignature_ne_self hs hname
    have hlast : name.getLast? = some ')' := by
      by_contra hnone
      exact hchanged (dropSignature_of_getLast? hnone)
    rcases dropSignature_cases hlast with
      ⟨inner, hinner, -, hall, hcut⟩ | ⟨-, hkept⟩ | ⟨-, hkept⟩
    · obtain rfl : s = '(' :: inner := List.append_cancel_left (hname.symm.trans hcut)
      exact ⟨hlast, hinner, hall⟩
    · exact absurd hkept hchanged
    · exact absurd hkept hchanged
  · rintro ⟨hlast, hleast, hall⟩
    rcases dropSignature_cases hlast with ⟨inner, hinner, -, -, hcut⟩ | ⟨hname, -⟩ | ⟨hopen, -⟩
    · rw [hleast.unique hinner]
      exact hcut
    · exact absurd (hleast.unique hname) hall
    · exact absurd hopen hleast.not_unopened

/-- What is dropped is a group: it begins with a parenthesis, which stays open up to its end. -/
theorem group_of_dropped {name s : List Char} (hs : s ≠ [])
    (hname : name = dropSignature name ++ s) :
    s.head? = some '(' ∧ ∀ p, p <+: s → p.count ')' ≤ p.count '(' := by
  obtain ⟨hlast, hleast, hall⟩ := (eq_dropSignature_append_iff hs).mp hname
  rcases dropSignature_cases hlast with ⟨inner, hinner, hopen, -⟩ | ⟨hself, -⟩ | ⟨hopen, -⟩
  · obtain rfl := hleast.unique hinner
    refine ⟨rfl, fun p hp => ?_⟩
    have hle : excess p ≤ 0 := hopen.excess_le_zero (excess_eq_zero.mpr hinner.balanced) hp
    unfold excess at hle
    omega
  · exact absurd (hleast.unique hself) hall
  · exact absurd hopen hleast.not_unopened

/-- Wherever the scan of a name from the right meets an opening parenthesis a group is open, so that
it may count with natural numbers and never gives up.  The name is cut where the scan ends: before
the shortest end of the name with as many opening as closing parentheses, if the name ends in a
closing parenthesis and this end is not all of it, and nowhere else.  There is no such end exactly
if each end of the name closes more groups than it opens.  What is dropped begins with an opening
parenthesis, and none of its beginnings closes more groups than it opens. -/
theorem dropSignature_least (name : List Char) :
    (∀ before depth read, Scans name (before ++ ['(']) depth read → 1 ≤ depth) ∧
    withoutSignature? name = some (dropSignature name) ∧
    (name.getLast? = some ')' →
      (∃ left inner, Scans name (left ++ ['(']) 1 inner ∧
        dropSignature name = if left = [] then name else left) ∨
      (∃ depth, Scans name [] depth name) ∧ dropSignature name = name) ∧
    (∀ s, s ≠ [] → (name = dropSignature name ++ s ↔
      name.getLast? = some ')' ∧ IsLeastBalanced name s ∧ s ≠ name)) ∧
    (dropSignature name = name ↔
      name.getLast? ≠ some ')' ∨ (∀ s, ¬ IsLeastBalanced name s) ∨ IsLeastBalanced name name) ∧
    (name.getLast? = some ')' → ((∀ s, ¬ IsLeastBalanced name s) ↔ Unopened name)) ∧
    ∀ s, s ≠ [] → name = dropSignature name ++ s →
      s.head? = some '(' ∧ ∀ p, p <+: s → p.count ')' ≤ p.count '(' :=
  ⟨fun _ _ _ h => h.one_le_depth, withoutSignature?_eq name, dropSignature_of_scans,
    fun _ => eq_dropSignature_append_iff, dropSignature_eq_self_iff, forall_not_isLeastBalanced_iff,
    fun _ => group_of_dropped⟩

/-- A method with a receiver and an argument. -/
theorem dropSignature_least_method :
    let name := "(*T).M(T)".toList
    Scans name ("(*T).M".toList ++ ['(']) 1 ['T', ')'] ∧ 1 ≤ (1 : Int) ∧
      (∃ left inner, Scans name (left ++ ['(']) 1 inner ∧
        dropSignature name = if left = [] then name else left) ∧
      IsLeastBalanced name "(T)".toList ∧ ¬ IsLeastBalanced name name ∧ ¬ Unopened name ∧
      "(T)".toList.head? = some '(' ∧ "(T".toList.count ')' ≤ "(T".toList.count '(' := by
  intro name
  have hlast : name.getLast? = some ')' := by decide
  have begun : Scans name (("(*T).M".toList ++ ['('] ++ ['T']) ++ [')']) 0 [] := .start hlast
  have hscan : Scans name ("(*T).M".toList ++ ['(']) 1 ['T', ')'] :=
    begun.closing.other (by decide) (by decide)
  have hcut : name = dropSignature name ++ "(T)".toList := by decide
  obtain ⟨counts, -, ends, least, kept, few, group⟩ := dropSignature_least name
  have hchanged : dropSignature name ≠ name := by decide
  have hleast : IsLeastBalanced name "(T)".toList := ((least _ (by decide)).mp hcut).2.1
  obtain ⟨hhead, hbeginnings⟩ := group "(T)".toList (by decide) hcut
  refine ⟨hscan, counts _ _ _ hscan, (ends hlast).resolve_right fun h => hchanged h.2, hleast,
    fun hall => hchanged (kept.mpr (.inr (.inr hall))), fun hopen => (few hlast).mpr hopen _ hleast,
    hhead, hbeginnings _ ⟨")".toList, rfl⟩⟩

/-- A receiver alone, a group that was never opened, and one behind such a group. -/
example : dropSignature "(*T)".toList = "(*T)".toList ∧
    dropSignature "f())".toList = "f())".toList ∧
    dropSignature "f)(T)".toList = "f)".toList := by decide

end PackageCensus.QualifiedName
