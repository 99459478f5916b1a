import Mathlib
import PackageCensus.Symbol.QualifiedName

/-! # How qualified names divide

`division_spec` says where a name divides: at a dot or a slash, before any parenthesis.  What
`split` makes of it loses that character and a call signature, and nothing else (`split_spec`,
`dropSignature_spec`).  The path is its text cut at every slash, so that the text determines it
(`path_eq_of_intercalate`), and it is the path of no package only if the text is empty
(`intercalate_path_eq_nil`). -/

namespace PackageCensus.QualifiedName

/-! ### The place of the division -/

theorem bne_of_notMem {c : Char} {w : List Char} (hw : c ∉ w) : ∀ d ∈ w, (d != c) = true := by
  intro d hd
  simp only [bne_iff_ne]
  rintro rfl
  exact hw hd

theorem lastSlash_append {u v : List Char} (hv : '/' ∉ v) :
    lastSlash (u ++ '/' :: v) = u.length := by
  have hskip : ∀ c ∈ v.reverse, (c != '/') = true := bne_of_notMem (by simpa using hv)
  have hrev : (u ++ '/' :: v).reverse = v.reverse ++ '/' :: u.reverse := by simp
  rw [lastSlash, hrev, List.dropWhile_append_of_pos hskip]
  simp

theorem lastSlash_of_notMem {w : List Char} (hw : '/' ∉ w) : lastSlash w = 0 := by
  have : w.reverse.dropWhile (· != '/') = [] :=
    List.dropWhile_eq_nil_iff.mpr (bne_of_notMem (by simpa using hw))
  simp [lastSlash, this]

theorem takeWhile_ne_append {c : Char} {u v : List Char} (hu : c ∉ u) :
    (u ++ c :: v).takeWhile (· != c) = u := by
  rw [List.takeWhile_append_of_pos (bne_of_notMem hu)]
  simp

theorem firstDot_append {u v : List Char} (hu : '.' ∉ u) : firstDot (u ++ '.' :: v) = u.length := by
  simp [firstDot, takeWhile_ne_append hu]

theorem firstDot_of_notMem {w : List Char} (hw : '.' ∉ w) : firstDot w = 0 := by
  simp [firstDot, hw]

/-- The last slash of a text, if there is one, and what stands around it. -/
theorem lastSlash_spec (w : List Char) : '/' ∉ w ∧ lastSlash w = 0 ∨
    ∃ u v, w = u ++ '/' :: v ∧ '/' ∉ v ∧ lastSlash w = u.length := by
  by_cases h : '/' ∈ w
  · obtain ⟨v, u, hw, hv⟩ := List.eq_append_cons_of_mem (List.mem_reverse.mpr h)
    have hw : w = u.reverse ++ '/' :: v.reverse := by
      simpa using congrArg List.reverse hw
    have hv : '/' ∉ v.reverse := by simpa using hv
    exact .inr ⟨u.reverse, v.reverse, hw, hv, hw ▸ lastSlash_append hv⟩
  · exact .inl ⟨h, lastSlash_of_notMem h⟩

/-- The first dot of a text, if there is one, and what stands around it. -/
theorem firstDot_spec (w : List Char) : '.' ∉ w ∧ firstDot w = 0 ∨
    ∃ u v, w = u ++ '.' :: v ∧ '.' ∉ u ∧ firstDot w = u.length := by
  by_cases h : '.' ∈ w
  · obtain ⟨u, v, hw, hu⟩ := List.eq_append_cons_of_mem h
    exact .inr ⟨u, v, hw, hu, hw ▸ firstDot_append hu⟩
  · exact .inl ⟨h, firstDot_of_notMem h⟩

/-- The text before the first call, and the rest. -/
theorem beforeCall_append (q : List Char) :
    ∃ call, q = beforeCall q ++ call ∧ '(' ∉ beforeCall q := by
  refine ⟨q.dropWhile (· != '('), (List.takeWhile_append_dropWhile).symm, fun h => ?_⟩
  simpa using List.mem_takeWhile_imp h

/-- A name that divides does so at a dot or a slash, before the first parenthesis. -/
theorem division_spec {q : List Char} (h : division q ≠ 0) :
    ∃ before c after, q = before ++ c :: after ∧ before.length = division q ∧
      (c = '.' ∨ c = '/') ∧ '(' ∉ before := by
  obtain ⟨call, hq, hcall⟩ := beforeCall_append q
  suffices ∃ before c after, beforeCall q = before ++ c :: after ∧
      before.length = division q ∧ (c = '.' ∨ c = '/') by
    obtain ⟨before, c, after, hhead, hlen, hc⟩ := this
    refine ⟨before, c, after ++ call, by rw [hq, hhead]; simp, hlen, hc, fun hp => hcall ?_⟩
    rw [hhead]
    exact List.mem_append_left _ hp
  unfold division at h ⊢
  rcases lastSlash_spec (beforeCall q) with ⟨-, hslash⟩ | ⟨u, v, hw, hv, hslash⟩
  · simp only [hslash, List.drop_zero, Nat.zero_add] at h ⊢
    rcases firstDot_spec (beforeCall q) with ⟨-, hdot⟩ | ⟨a, b, hab, -, hdot⟩
    · exact absurd hdot h
    · exact ⟨a, '.', b, hab, hdot.symm, .inl rfl⟩
  · simp only [hslash] at h ⊢
    have hdrop : (beforeCall q).drop u.length = '/' :: v := by rw [hw]; simp
    rw [hdrop] at h ⊢
    rcases firstDot_spec ('/' :: v) with ⟨-, hdot⟩ | ⟨a, b, hab, -, hdot⟩
    · exact ⟨u, '/', v, hw, by simp [hdot], .inr rfl⟩
    · refine ⟨u ++ a, '.', b, ?_, by simp [hdot], .inl rfl⟩
      rw [hw, hab]
      simp

/-! ### What a division loses -/

theorem split_of_division {q before after : List Char} {c : Char} (hq : q = before ++ c :: after)
    (hlen : before.length = division q) (hne : before ≠ []) :
    split q = (before.splitOnP (· == '/'), dropSignature after) := by
  obtain ⟨n, hn⟩ : ∃ n, before.length = n + 1 :=
    Nat.exists_eq_succ_of_ne_zero (by simpa using hne)
  have hdiv : division q = n + 1 := hlen.symm.trans hn
  have htake : q.take (n + 1) = before := by rw [hq, ← hn]; simp
  have hdrop : q.drop (n + 2) = after := by
    rw [hq, List.append_cons, show n + 2 = (before ++ [c]).length by simp [hn]]
    exact List.drop_left
  rw [split, hdiv]
  simp [htake, hdrop]

/-- A name stays whole, or is cut at one dot or slash before any parenthesis. -/
theorem split_spec (q : List Char) : split q = ([], q) ∨
    ∃ before c after, q = before ++ c :: after ∧ before ≠ [] ∧ (c = '.' ∨ c = '/') ∧
      '(' ∉ before ∧ split q = (before.splitOnP (· == '/'), dropSignature after) := by
  by_cases h : division q = 0
  · exact .inl (by rw [split, h])
  · obtain ⟨before, c, after, hq, hlen, hc, hp⟩ := division_spec h
    have hne : before ≠ [] := by
      rintro rfl
      exact h hlen.symm
    exact .inr ⟨before, c, after, hq, hne, hc, hp, split_of_division hq hlen hne⟩

/-- A local name that ends in a closing parenthesis is cut where its last group opens, unless this
group opens the name. -/
theorem dropSignature_concat (body : List Char) : dropSignature (body ++ [')']) =
    match openingOf 1 body.reverse with
    | none | some [] => body ++ [')']
    | some before => before.reverse := by
  have hrev : (body ++ [')']).reverse = ')' :: body.reverse := by simp
  unfold dropSignature
  rw [hrev]
  rfl

/-- A local name that does not end in a closing parenthesis has no call signature. -/
theorem dropSignature_of_getLast? {name : List Char} (h : name.getLast? ≠ some ')') :
    dropSignature name = name := by
  unfold dropSignature
  split
  · next rest hrev =>
    rw [← List.head?_reverse, hrev] at h
    exact absurd rfl h
  · rfl

/-! ### Paths and packages -/

theorem parts_eq (q : String) : parts q =
    ((split q.toList).1.map String.ofList, String.ofList (split q.toList).2) := rfl

/-- The text of a path that a division gives. -/
theorem intercalate_splitOnP (before : List Char) :
    "/".intercalate ((before.splitOnP (· == '/')).map String.ofList) = String.ofList before := by
  have inverse : String.toList ∘ String.ofList = id := funext fun _ => String.toList_ofList
  rw [← String.toList_inj, String.toList_intercalate, List.map_map, inverse, List.map_id,
    ← List.splitOn_eq_splitOnP]
  exact (List.intercalate_splitOn '/').trans String.toList_ofList.symm

/-- A path is that of no package, or its text cut at every slash. -/
theorem path_spec (q : String) : (parts q).1 = [] ∨
    ∃ before, before ≠ [] ∧ '(' ∉ before ∧
      (parts q).1 = (before.splitOnP (· == '/')).map String.ofList := by
  rcases split_spec q.toList with h | ⟨before, c, after, -, hne, -, hp, h⟩
  · exact .inl (by simp [parts_eq, h])
  · exact .inr ⟨before, hne, hp, by simp [parts_eq, h]⟩

/-- A name stays whole without a package, or it is its path, a dot or a slash, the local name and
perhaps a call signature. -/
theorem parts_spec (q : String) : (parts q).1 = [] ∧ (parts q).2 = q ∨
    (parts q).1 ≠ [] ∧ "/".intercalate (parts q).1 ≠ "" ∧
      '(' ∉ ("/".intercalate (parts q).1).toList ∧
      ∃ c s, (c = '.' ∨ c = '/') ∧
        q = "/".intercalate (parts q).1 ++ String.singleton c ++ (parts q).2 ++ s ∧
        (s = "" ∨ Signature s.toList ∧ (parts q).2 ≠ "") := by
  rcases split_spec q.toList with h | ⟨before, c, after, hq, hne, hc, hp, h⟩
  · exact .inl (by simp [parts_eq, h])
  · have hpath : (parts q).1 = (before.splitOnP (· == '/')).map String.ofList := by
      simp [parts_eq, h]
    have hname : (parts q).2 = String.ofList (dropSignature after) := by simp [parts_eq, h]
    refine .inr ⟨?_, ?_, ?_, c, ?_⟩
    · rw [hpath]
      simp [List.splitOnP_ne_nil]
    · rw [hpath, intercalate_splitOnP]
      exact fun hnil => hne (by simpa using congrArg String.toList hnil)
    · rw [hpath, intercalate_splitOnP, String.toList_ofList]
      exact hp
    · rw [hpath, intercalate_splitOnP, hname]
      rcases dropSignature_spec after with hkept | ⟨s, hafter, hs, hleft⟩
      · refine ⟨"", hc, ?_, .inl rfl⟩
        apply String.toList_injective
        rw [hkept, hq]
        simp
      · refine ⟨String.ofList s, hc, ?_, .inr ⟨by rwa [String.toList_ofList], ?_⟩⟩
        · apply String.toList_injective
          rw [hq]
          conv_lhs => rw [hafter]
          simp
        · exact fun hnil => hleft (by simpa using congrArg String.toList hnil)

theorem intercalate_path_eq_nil {q : String} :
    "/".intercalate (parts q).1 = "" ↔ (parts q).1 = [] := by
  refine ⟨fun h => ?_, fun h => by rw [h]; rfl⟩
  rcases path_spec q with hp | ⟨before, hne, -, hp⟩
  · exact hp
  · rw [hp, intercalate_splitOnP] at h
    exact absurd (by simpa using congrArg String.toList h) hne

theorem path_eq_of_intercalate {q r : String}
    (h : "/".intercalate (parts q).1 = "/".intercalate (parts r).1) :
    (parts q).1 = (parts r).1 := by
  rcases path_spec q with hq | ⟨u, -, -, hq⟩
  · rw [hq, eq_comm, show "/".intercalate ([] : List String) = "" from rfl,
      intercalate_path_eq_nil] at h
    rw [hq, h]
  · rcases path_spec r with hr | ⟨v, -, -, hr⟩
    · rw [hr, show "/".intercalate ([] : List String) = "" from rfl,
        intercalate_path_eq_nil] at h
      rw [hr, h]
    · rw [hq, hr, intercalate_splitOnP, intercalate_splitOnP] at h
      rw [hq, hr, String.ofList_injective h]

end PackageCensus.QualifiedName
