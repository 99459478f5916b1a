import PackageCensus.Proofs.Symbol.QualifiedName

/-! # Names made of a path and a local name

A path, a dot and a local name are divided where they were joined (`division_joined`), if no segment
of the path holds a slash or a parenthesis, the last of them no dot, and the local name no slash
before its first call.  The local name comes back without the call signature at its end, which is
the closing group that `dropSignature` finds from the right (`bare_iff`). -/

namespace PackageCensus.QualifiedName

/-! ### Local names without their signatures -/

/-- A local name and what is left of it without the call signature at its end.  A group that is all
of the name is no signature. -/
def Bare (name bare : List Char) : Prop :=
  (∃ s, Signature s ∧ bare ≠ [] ∧ name = bare ++ s) ∨
    bare = name ∧ ∀ before s, Signature s → name = before ++ s → before = []

/-- A text in which each parenthesis has its partner is passed over from the right. -/
theorem openingOf_nested {w : List Char} (h : Nested w) (depth : Nat) (rest : List Char) :
    openingOf (depth + 1) (w.reverse ++ rest) = openingOf (depth + 1) rest := by
  induction h generalizing depth rest with
  | nil => rfl
  | other hopen hclose _ ih =>
    rw [List.reverse_cons, List.append_assoc, ih, List.singleton_append, openingOf, if_neg hclose,
      if_neg hopen]
  | @group u v _ _ ihu ihv =>
    have hrev : ('(' :: (u ++ ')' :: v)).reverse ++ rest =
        v.reverse ++ ')' :: (u.reverse ++ '(' :: rest) := by simp
    rw [hrev, ihv, openingOf, if_pos rfl, ihu, openingOf, if_neg (by decide), if_pos rfl,
      if_neg (by omega)]
    rfl

theorem dropSignature_append {before s : List Char} (hs : Signature s) (hne : before ≠ []) :
    dropSignature (before ++ s) = before := by
  obtain ⟨inner, rfl, hinner⟩ := hs
  have hname : before ++ '(' :: (inner ++ [')']) = (before ++ '(' :: inner) ++ [')'] := by simp
  have hrev : (before ++ '(' :: inner).reverse = inner.reverse ++ '(' :: before.reverse := by simp
  have hfound : openingOf 1 (inner.reverse ++ '(' :: before.reverse) = some before.reverse := by
    rw [openingOf_nested hinner 0, openingOf, if_neg (by decide), if_pos rfl, if_pos (by omega)]
  rw [hname, dropSignature_concat, hrev, hfound]
  split
  · next h => cases h
  · next h => simp [hne] at h
  · next h =>
    cases h
    exact List.reverse_reverse _

theorem bare_iff {name bare : List Char} : Bare name bare ↔ bare = dropSignature name := by
  constructor
  · rintro (⟨s, hs, hne, rfl⟩ | ⟨rfl, hnone⟩)
    · exact (dropSignature_append hs hne).symm
    · rcases dropSignature_spec bare with h | ⟨s, hname, hs, hne⟩
      · exact h.symm
      · exact absurd (hnone _ s hs hname) hne
  · rintro rfl
    rcases dropSignature_spec name with h | ⟨s, hname, hs, hne⟩
    · refine .inr ⟨h, fun before s hs hname => ?_⟩
      by_contra hne
      rw [hname, dropSignature_append hs hne] at h
      obtain ⟨inner, rfl, -⟩ := hs
      simp at h
    · exact .inl ⟨s, hs, hne, hname⟩

/-! ### Paths that are joined -/

theorem notMem_intercalate {c d : Char} (hne : c ≠ d) : ∀ {segments : List (List Char)},
    (∀ s ∈ segments, c ∉ s) → c ∉ [d].intercalate segments
  | [], _ => by simp
  | [s], h => by simpa using h s
  | s :: s' :: segments, h => by
    have hrest := notMem_intercalate hne fun t ht => h t (List.mem_cons_of_mem s ht)
    rw [List.intercalate_cons_cons, List.mem_append, List.mem_append, List.mem_singleton]
    simp only [h s List.mem_cons_self, hne, hrest, or_self, not_false_iff]

/-- Segments that are joined end in the last of them, and before it there is nothing or one more
separator. -/
theorem intercalate_getLast (d : Char) : ∀ {segments : List (List Char)} (h : segments ≠ []),
    [d].intercalate segments = segments.getLast h ∨
      ∃ u, [d].intercalate segments = u ++ d :: segments.getLast h
  | [s], _ => .inl (List.intercalate_singleton ..)
  | s :: s' :: segments, _ => by
    rw [List.intercalate_cons_cons, List.getLast_cons_cons]
    rcases intercalate_getLast d (List.cons_ne_nil s' segments) with h | ⟨u, h⟩
    · exact .inr ⟨s, by rw [h, List.append_assoc]; rfl⟩
    · exact .inr ⟨s ++ d :: u, by rw [h]; simp⟩

theorem division_joined {path last name : List Char}
    (hpath : path = last ∨ ∃ u, path = u ++ '/' :: last) (hcall : '(' ∉ path) (hslash : '/' ∉ last)
    (hdot : '.' ∉ last) (hname : '/' ∉ beforeCall name) :
    division (path ++ '.' :: name) = path.length := by
  have hhead : beforeCall (path ++ '.' :: name) = path ++ '.' :: beforeCall name := by
    rw [beforeCall, List.takeWhile_append_of_pos (bne_of_notMem hcall)]
    rfl
  have hafter : '/' ∉ last ++ '.' :: beforeCall name := by
    simp [hslash, hname]
  unfold division
  rw [hhead]
  rcases hpath with rfl | ⟨u, rfl⟩
  · simp only [lastSlash_of_notMem hafter, List.drop_zero, firstDot_append hdot, Nat.zero_add]
  · have hfirst : firstDot ('/' :: (last ++ '.' :: beforeCall name)) = last.length + 1 :=
      firstDot_append (u := '/' :: last) (by simp [hdot])
    have hdrop : (u ++ '/' :: (last ++ '.' :: beforeCall name)).drop u.length =
        '/' :: (last ++ '.' :: beforeCall name) := List.drop_left
    simp only [List.append_assoc, List.cons_append, lastSlash_append hafter, hdrop, hfirst,
      List.length_append, List.length_cons]

/-- Segments and a local name that are joined are divided again. -/
theorem split_joined {segments : List (List Char)} {name : List Char} (h : segments ≠ [])
    (hslash : ∀ s ∈ segments, '/' ∉ s) (hcall : ∀ s ∈ segments, '(' ∉ s)
    (hdot : '.' ∉ segments.getLast h) (hne : ['/'].intercalate segments ≠ [])
    (hname : '/' ∉ beforeCall name) :
    split (['/'].intercalate segments ++ '.' :: name) = (segments, dropSignature name) := by
  have hdivision := division_joined (intercalate_getLast '/' h)
    (notMem_intercalate (by decide) hcall) (hslash _ (List.getLast_mem h)) hdot hname
  have hsegments : (['/'].intercalate segments).splitOnP (· == '/') = segments := by
    rw [← List.splitOn_eq_splitOnP]
    exact List.splitOn_intercalate '/' hslash h
  rw [split_of_division rfl hdivision.symm hne, hsegments]

/-- A path and a local name that are joined by a dot are divided again, and the local name is left
without the call signature at its end: if no segment of the path holds a slash or a parenthesis and
the last of them no dot, the path is not empty, and the local name has no slash before its first
call. -/
theorem parts_joined {path : List String} {name : String}
    (segments : ∀ s ∈ path, '/' ∉ s.toList ∧ '(' ∉ s.toList)
    (last : ∀ s ∈ path.getLast?, '.' ∉ s.toList) (nonempty : "/".intercalate path ≠ "")
    (call : '/' ∉ beforeCall name.toList) :
    ∃ bare, parts ("/".intercalate path ++ "." ++ name) = (path, bare) ∧
      Bare name.toList bare.toList := by
  have hpath : path.map String.toList ≠ [] := by
    intro hnil
    rw [List.map_eq_nil_iff.mp hnil] at nonempty
    exact nonempty rfl
  have hjoined : ("/".intercalate path).toList = ['/'].intercalate (path.map String.toList) :=
    String.toList_intercalate
  have hq : ("/".intercalate path ++ "." ++ name).toList =
      ['/'].intercalate (path.map String.toList) ++ '.' :: name.toList := by
    rw [← hjoined]
    simp
  have hdot : '.' ∉ (path.map String.toList).getLast hpath := by
    rw [List.getLast_map]
    exact last _ (List.getLast?_eq_some_getLast _)
  have hne : ['/'].intercalate (path.map String.toList) ≠ [] := by
    rw [← hjoined]
    exact mt String.toList_eq_nil_iff.mp nonempty
  have hsplit := split_joined hpath (by simpa using fun s hs => (segments s hs).1)
    (by simpa using fun s hs => (segments s hs).2) hdot hne call
  have hcompose : String.ofList ∘ String.toList = id := funext fun _ => String.ofList_toList
  refine ⟨String.ofList (dropSignature name.toList), ?_, ?_⟩
  · rw [parts_eq, hq, hsplit, List.map_map, hcompose, List.map_id]
  · rw [String.toList_ofList]
    exact bare_iff.mpr rfl

/-- A path with empty segments and a dot in one of them, and a local name with a receiver, further
dots and a signature full of slashes and dots. -/
theorem parts_joined_receiver :
    let path := ["", "x.y", "", "c"]
    let name := "(*T[a/b.X]).M.func1(x/y.Z, func(int))"
    (∀ s ∈ path, '/' ∉ s.toList ∧ '(' ∉ s.toList) ∧ (∀ s ∈ path.getLast?, '.' ∉ s.toList) ∧
      "/".intercalate path ≠ "" ∧ '/' ∉ beforeCall name.toList ∧
      ∃ bare, parts ("/".intercalate path ++ "." ++ name) = (path, bare) ∧
        Bare name.toList bare.toList ∧ bare = "(*T[a/b.X]).M.func1" := by
  intro path name
  have segments : ∀ s ∈ path, '/' ∉ s.toList ∧ '(' ∉ s.toList := by decide +kernel
  have last : ∀ s ∈ path.getLast?, '.' ∉ s.toList := by decide +kernel
  have nonempty : "/".intercalate path ≠ "" := by decide +kernel
  have call : '/' ∉ beforeCall name.toList := by decide +kernel
  obtain ⟨bare, divided, left⟩ := parts_joined segments last nonempty call
  refine ⟨segments, last, nonempty, call, bare, divided, left, ?_⟩
  have computed : (parts ("/".intercalate path ++ "." ++ name)).2 = "(*T[a/b.X]).M.func1" := by
    decide +kernel
  rw [← computed, divided]

end PackageCensus.QualifiedName
