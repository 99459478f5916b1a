import Mathlib
import PackageCensus.Proofs.Symbol.Line
import PackageCensus.Proofs.Symbol.QualifiedName
import PackageCensus.Text.Utf8

/-! # Dividing names by offsets

In a buffer of octets a name is divided by offsets: the place of a character is the number of
octets before it, and a piece of the text is taken from one offset to another.  `divide?` divides
a name in this way, and gives up where an offset falls within a character or behind the text, or
where a parenthesis is closed that is not open.  It never does (`divide?_eq`): each offset is the
`octetCount` of a text that stands before it. -/

namespace PackageCensus.QualifiedName

open Text (octetCount)

/-! ### Offsets -/

/-- The number of octets before the first place of a character. -/
def offsetOf? (c : Char) : List Char → Option Nat
  | [] => none
  | d :: rest => if d = c then some 0 else (offsetOf? c rest).map (d.utf8Size + ·)

/-- The number of octets before the last place of a character. -/
def lastOffsetOf? (c : Char) : List Char → Option Nat
  | [] => none
  | d :: rest =>
    match lastOffsetOf? c rest with
    | some n => some (d.utf8Size + n)
    | none => if d = c then some 0 else none

/-- The text from an offset on, which must be that of a character or of the end. -/
def from? : Nat → List Char → Option (List Char)
  | 0, cs => some cs
  | _ + 1, [] => none
  | n + 1, c :: cs => if c.utf8Size ≤ n + 1 then from? (n + 1 - c.utf8Size) cs else none

/-- The text up to an offset, which must be that of a character or of the end. -/
def upTo? : Nat → List Char → Option (List Char)
  | 0, _ => some []
  | _ + 1, [] => none
  | n + 1, c :: cs =>
    if c.utf8Size ≤ n + 1 then (upTo? (n + 1 - c.utf8Size) cs).map (c :: ·) else none

/-- The text between two offsets. -/
def between? (start stop : Nat) (cs : List Char) : Option (List Char) :=
  if start ≤ stop then (from? start cs).bind (upTo? (stop - start)) else none

/-- Characters with their offsets. -/
def offsets (start : Nat) : List Char → List (Nat × Char)
  | [] => []
  | c :: cs => (start, c) :: offsets (start + c.utf8Size) cs

/-- The offset of the parenthesis that opens the group whose end is met first, if there is one;
`none` if a group is left that was not entered. -/
def groupStart? (depth : Nat) : List (Nat × Char) → Option (Option Nat)
  | [] => some none
  | (start, c) :: rest =>
    if c = ')' then groupStart? (depth + 1) rest
    else if c = '(' then match depth with
      | 0 => none
      | 1 => some (some start)
      | depth + 2 => groupStart? (depth + 1) rest
    else groupStart? depth rest

/-- A local name without the call signature at its end. -/
def withoutSignature? (name : List Char) : Option (List Char) :=
  if name.getLast? = some ')' then do
    match ← groupStart? 0 (offsets 0 name).reverse with
    | none | some 0 => some name
    | some start => upTo? start name
  else some name

/-- The path and the local name of a qualified name. -/
def divide? (q : List Char) : Option (List (List Char) × List Char) := do
  let call := (offsetOf? '(' q).getD (octetCount q)
  let slash := (lastOffsetOf? '/' (← upTo? call q)).getD 0
  let dot := (offsetOf? '.' (← between? slash call q)).getD 0
  let place := slash + dot
  if place = 0 then return ([], q)
  let path ← upTo? place q
  let name ← from? (place + 1) q
  return (path.splitOnP (· == '/'), ← withoutSignature? name)

/-! ### Offsets of texts -/

@[simp] theorem octetCount_nil : octetCount [] = 0 := rfl

@[simp] theorem octetCount_cons (c : Char) (cs : List Char) :
    octetCount (c :: cs) = c.utf8Size + octetCount cs := rfl

@[simp] theorem octetCount_append : ∀ u v : List Char,
    octetCount (u ++ v) = octetCount u + octetCount v
  | [], v => by simp
  | c :: u, v => by
    rw [List.cons_append, octetCount_cons, octetCount_cons, octetCount_append u v, Nat.add_assoc]

theorem octetCount_eq_zero {u : List Char} : octetCount u = 0 ↔ u = [] := by
  cases u with
  | nil => simp
  | cons c u =>
    have := Char.utf8Size_pos c
    simp only [octetCount_cons, reduceCtorEq, iff_false]
    omega

theorem octetCount_reverse (u : List Char) : octetCount u.reverse = octetCount u := by
  induction u with
  | nil => rfl
  | cons c u ih =>
    rw [List.reverse_cons, octetCount_append, ih, octetCount_cons, octetCount_cons]
    simp only [octetCount_nil]
    omega

/-- An offset behind a character is not zero, and reaches over the character to the rest. -/
theorem octetCount_cons_eq_succ (c : Char) (u : List Char) : ∃ n, octetCount (c :: u) = n + 1 ∧
    c.utf8Size ≤ n + 1 ∧ n + 1 - c.utf8Size = octetCount u := by
  have := Char.utf8Size_pos c
  refine ⟨c.utf8Size + octetCount u - 1, ?_, by omega, by omega⟩
  rw [octetCount_cons]
  omega

theorem from?_append (u v : List Char) : from? (octetCount u) (u ++ v) = some v := by
  induction u with
  | nil => simp [from?]
  | cons c u ih =>
    obtain ⟨n, hn, hover, hrest⟩ := octetCount_cons_eq_succ c u
    rw [hn, List.cons_append, from?, if_pos hover, hrest, ih]

theorem upTo?_append (u v : List Char) : upTo? (octetCount u) (u ++ v) = some u := by
  induction u with
  | nil => simp [upTo?]
  | cons c u ih =>
    obtain ⟨n, hn, hover, hrest⟩ := octetCount_cons_eq_succ c u
    rw [hn, List.cons_append, upTo?, if_pos hover, hrest, ih]
    rfl

theorem between?_append (u v w : List Char) :
    between? (octetCount u) (octetCount (u ++ v)) (u ++ v ++ w) = some v := by
  have hsub : octetCount (u ++ v) - octetCount u = octetCount v := by
    rw [octetCount_append]; omega
  rw [between?, if_pos (by rw [octetCount_append]; omega), List.append_assoc, from?_append, hsub]
  exact upTo?_append v w

/-! ### Offsets of characters -/

theorem offsetOf?_of_notMem {c : Char} {w : List Char} (hw : c ∉ w) : offsetOf? c w = none := by
  induction w with
  | nil => rfl
  | cons d w ih =>
    simp only [List.mem_cons, not_or] at hw
    rw [offsetOf?, if_neg (Ne.symm hw.1), ih hw.2, Option.map_none]

theorem offsetOf?_append {c : Char} {u v : List Char} (hu : c ∉ u) :
    offsetOf? c (u ++ c :: v) = some (octetCount u) := by
  induction u with
  | nil => simp [offsetOf?]
  | cons d u ih =>
    simp only [List.mem_cons, not_or] at hu
    rw [List.cons_append, offsetOf?, if_neg (Ne.symm hu.1), ih hu.2, Option.map_some,
      octetCount_cons]

theorem lastOffsetOf?_of_notMem {c : Char} {w : List Char} (hw : c ∉ w) :
    lastOffsetOf? c w = none := by
  induction w with
  | nil => rfl
  | cons d w ih =>
    simp only [List.mem_cons, not_or] at hw
    rw [lastOffsetOf?, ih hw.2]
    exact if_neg (Ne.symm hw.1)

theorem lastOffsetOf?_append {c : Char} {u v : List Char} (hv : c ∉ v) :
    lastOffsetOf? c (u ++ c :: v) = some (octetCount u) := by
  induction u with
  | nil => simp [lastOffsetOf?, lastOffsetOf?_of_notMem hv]
  | cons d u ih => rw [List.cons_append, lastOffsetOf?, ih, octetCount_cons]

theorem offsetOf?_call (q : List Char) :
    (offsetOf? '(' q).getD (octetCount q) = octetCount (beforeCall q) := by
  by_cases h : '(' ∈ q
  · obtain ⟨u, v, rfl, hu⟩ := List.eq_append_cons_of_mem h
    rw [offsetOf?_append hu, beforeCall, takeWhile_ne_append hu, Option.getD_some]
  · have all : beforeCall q = q := List.takeWhile_eq_self_iff.mpr (bne_of_notMem h)
    rw [offsetOf?_of_notMem h, all, Option.getD_none]

theorem lastOffsetOf?_slash (w : List Char) :
    (lastOffsetOf? '/' w).getD 0 = octetCount (w.take (lastSlash w)) := by
  rcases lastSlash_spec w with ⟨hw, hs⟩ | ⟨u, v, rfl, hv, hs⟩
  · simp [lastOffsetOf?_of_notMem hw, hs]
  · simp [lastOffsetOf?_append hv, hs]

theorem offsetOf?_dot (w : List Char) :
    (offsetOf? '.' w).getD 0 = octetCount (w.take (firstDot w)) := by
  rcases firstDot_spec w with ⟨hw, hd⟩ | ⟨u, v, rfl, hu, hd⟩
  · simp [offsetOf?_of_notMem hw, hd]
  · simp [offsetOf?_append hu, hd]

theorem offsets_append (start : Nat) : ∀ u v : List Char,
    offsets start (u ++ v) = offsets start u ++ offsets (start + octetCount u) v
  | [], v => by simp [offsets]
  | c :: u, v => by
    rw [List.cons_append, offsets, offsets_append _ u v, octetCount_cons, Nat.add_assoc]
    rfl

/-! ### The division by offsets -/

/-- Counting parentheses by offsets from the right finds what `openingOf` finds. -/
theorem groupStart?_eq (w : List Char) : ∀ depth : Nat,
    groupStart? (depth + 1) (offsets 0 w).reverse =
      some ((openingOf (depth + 1) w.reverse).map octetCount) := by
  induction w using List.reverseRecOn with
  | nil => intro depth; simp [offsets, groupStart?, openingOf]
  | append_singleton w c ih =>
    intro depth
    have hrev : (offsets 0 (w ++ [c])).reverse = (octetCount w, c) :: (offsets 0 w).reverse := by
      simp [offsets_append, offsets]
    rw [hrev, List.reverse_append, List.reverse_singleton, List.singleton_append]
    unfold groupStart? openingOf
    split
    · exact ih (depth + 1)
    · split
      · cases depth with
        | zero => simp [octetCount_reverse]
        | succ depth => simpa using ih depth
      · exact ih depth

theorem groupStart?_concat (body : List Char) : groupStart? 0 (offsets 0 (body ++ [')'])).reverse =
    some ((openingOf 1 body.reverse).map octetCount) := by
  have hrev : (offsets 0 (body ++ [')'])).reverse =
      (octetCount body, ')') :: (offsets 0 body).reverse := by
    simp [offsets_append, offsets]
  rw [hrev, groupStart?, if_pos rfl, groupStart?_eq body 0]

theorem withoutSignature?_eq (name : List Char) :
    withoutSignature? name = some (dropSignature name) := by
  unfold withoutSignature?
  split
  · next hlast =>
    obtain ⟨body, rfl⟩ : ∃ body, name = body ++ [')'] := List.getLast?_eq_some_iff.mp hlast
    rw [groupStart?_concat, dropSignature_concat]
    simp only [Option.bind_eq_bind, Option.bind_some]
    cases hfound : openingOf 1 body.reverse with
    | none => rfl
    | some before =>
      cases before with
      | nil => rfl
      | cons c before =>
        obtain ⟨group, hbody, -⟩ := openingOf_eq_some hfound
        obtain ⟨n, hn⟩ : ∃ n, octetCount (c :: before) = n + 1 :=
          Nat.exists_eq_succ_of_ne_zero (octetCount_eq_zero.not.mpr (by simp))
        have hcut : body ++ [')'] = (c :: before).reverse ++ ('(' :: (group ++ [')'])) := by
          rw [List.reverse_reverse] at hbody
          rw [hbody]
          simp
        simp only [Option.map_some, hn]
        rw [← hn, hcut, ← octetCount_reverse]
        exact upTo?_append _ _
  · next hlast => rw [dropSignature_of_getLast? hlast]

/-- Dividing a name by offsets never fails, and comes to what `split` gives. -/
theorem divide?_eq (q : List Char) : divide? q = some (split q) := by
  obtain ⟨call, hq, -⟩ := beforeCall_append q
  have hhead : upTo? (octetCount (beforeCall q)) q = some (beforeCall q) := by
    have := upTo?_append (beforeCall q) call
    rwa [← hq] at this
  have hmiddle : between? (octetCount ((beforeCall q).take (lastSlash (beforeCall q))))
      (octetCount (beforeCall q)) q = some ((beforeCall q).drop (lastSlash (beforeCall q))) := by
    have := between?_append ((beforeCall q).take (lastSlash (beforeCall q)))
      ((beforeCall q).drop (lastSlash (beforeCall q))) call
    rwa [List.take_append_drop, ← hq] at this
  have hplace : octetCount ((beforeCall q).take (lastSlash (beforeCall q))) +
      octetCount (((beforeCall q).drop (lastSlash (beforeCall q))).take
        (firstDot ((beforeCall q).drop (lastSlash (beforeCall q))))) =
      octetCount ((beforeCall q).take (division q)) := by
    rw [division, List.take_add, octetCount_append]
  simp only [divide?, offsetOf?_call, Option.bind_eq_bind, hhead, Option.bind_some,
    lastOffsetOf?_slash, hmiddle, offsetOf?_dot, hplace]
  by_cases hdiv : division q = 0
  · rw [hdiv, split, hdiv]
    rfl
  · obtain ⟨before, c, after, hcut, hlen, hc, hp⟩ := division_spec hdiv
    have hne : before ≠ [] := by
      rintro rfl
      exact hdiv hlen.symm
    have htake : (beforeCall q).take (division q) = before := by
      rw [← hlen, beforeCall, hcut, List.takeWhile_append_of_pos (bne_of_notMem hp)]
      exact List.take_left
    have hsize : c.utf8Size = 1 := by rcases hc with rfl | rfl <;> rfl
    rw [htake, if_neg (by simpa [octetCount_eq_zero] using hne)]
    have hpath : upTo? (octetCount before) q = some before := by
      rw [hcut]
      exact upTo?_append _ _
    have hname : from? (octetCount before + 1) q = some after := by
      have := from?_append (before ++ [c]) after
      rwa [octetCount_append, octetCount_cons, octetCount_nil, hsize, ← List.append_cons,
        ← hcut] at this
    simp only [hpath, hname, Option.bind_some, withoutSignature?_eq,
      split_of_division hcut hlen hne]
    rfl

/-- Dividing a name never leaves the boundaries of its characters, and of a name that is divided
one separator and one call signature are lost at most.  So the symbols of a table have the same
package exactly if they have the same path. -/
theorem parts_lossless :
    (∀ q : String,
      (divide? q.toList).map (fun (path, name) => (path.map String.ofList, String.ofList name)) =
        some (parts q) ∧
      ((parts q).1 = [] ∧ (parts q).2 = q ∨
        (parts q).1 ≠ [] ∧ "/".intercalate (parts q).1 ≠ "" ∧
          '(' ∉ ("/".intercalate (parts q).1).toList ∧
          ∃ c s, (c = '.' ∨ c = '/') ∧
            q = "/".intercalate (parts q).1 ++ String.singleton c ++ (parts q).2 ++ s ∧
            (s = "" ∨ Signature s.toList ∧ (parts q).2 ≠ ""))) ∧
    ∀ (line : String) (s : Symbol), Symbol.parse line = .ok s →
      (s.package = "" ↔ s.path = []) ∧
      ∀ (line' : String) (t : Symbol), Symbol.parse line' = .ok t →
        (s.package = t.package ↔ s.path = t.path) := by
  refine ⟨fun q => ⟨?_, parts_spec q⟩, fun line s hs => ⟨?_, fun line' t ht => ⟨?_, ?_⟩⟩⟩
  · rw [divide?_eq, parts_eq]
    rfl
  · rw [Symbol.package, Symbol.path_of_parse hs]
    exact intercalate_path_eq_nil
  · rw [Symbol.package, Symbol.package, Symbol.path_of_parse hs, Symbol.path_of_parse ht]
    exact path_eq_of_intercalate
  · intro h
    rw [Symbol.package, Symbol.package, h]

theorem package_eq_across_signature : ∃ s t : Symbol, Symbol.parse "10 T a/b.F" = .ok s ∧
    Symbol.parse "20 T a/b.G(int)" = .ok t ∧ s.package = t.package ∧ t.name = "G" := by
  refine ⟨_, _, rfl, rfl, ?_, by decide⟩
  exact ((parts_lossless.2 "10 T a/b.F" _ rfl).2 "20 T a/b.G(int)" _ rfl).mpr (by decide)

end PackageCensus.QualifiedName
