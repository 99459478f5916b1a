/-! # Qualified names

A qualified name is a package's import path, a dot and a local name, which may end in a call
signature.  The dot that divides them is the first after the last slash, and both are looked for
before the first opening parenthesis, so that slashes and dots in an argument list do not move
it.  Without a division the whole text is the local name and the path is empty.

`dropSignature` reads the local name from the right, counting parentheses, up to the one that
opens the closing group; a group that opens the name is a receiver and stays.  What it drops is
`Nested` between the outer parentheses (`dropSignature_spec`). -/

namespace PackageCensus.QualifiedName

/-- What stands before the first opening parenthesis. -/
def beforeCall (q : List Char) : List Char := q.takeWhile (· != '(')

/-- The position of the last slash, or the start of the text when there is none. -/
def lastSlash (q : List Char) : Nat := (q.reverse.dropWhile (· != '/')).length - 1

/-- The position of the first dot, or the start of the text when there is none. -/
def firstDot (q : List Char) : Nat :=
  if q.contains '.' then (q.takeWhile (· != '.')).length else 0

/-- Where a qualified name divides into path and local name; the start when it does not. -/
def division (q : List Char) : Nat :=
  let head := beforeCall q
  let slash := lastSlash head
  slash + firstDot (head.drop slash)

/-- The text, read from the right, that is left of the parenthesis which opens the group whose
end has been read, `depth` groups being open. -/
def openingOf (depth : Nat) : List Char → Option (List Char)
  | [] => none
  | c :: rest =>
    if c = ')' then openingOf (depth + 1) rest
    else if c = '(' then
      if depth ≤ 1 then some rest else openingOf (depth - 1) rest
    else openingOf depth rest

/-- A local name without the call signature at its end. -/
def dropSignature (name : List Char) : List Char :=
  match name.reverse with
  | ')' :: rest =>
    match openingOf 1 rest with
    | none | some [] => name
    | some before => before.reverse
  | _ => name

/-- The path and the local name of a qualified name. -/
def split (q : List Char) : List (List Char) × List Char :=
  match division q with
  | 0 => ([], q)
  | d + 1 => ((q.take (d + 1)).splitOnP (· == '/'), dropSignature (q.drop (d + 2)))

/-- The path and the local name of a string. -/
def parts (q : String) : List String × String :=
  let (path, name) := split q.toList
  (path.map String.ofList, String.ofList name)

/-! ### The group that closes a name -/

/-- Texts in which each parenthesis has its partner. -/
inductive Nested : List Char → Prop
  | nil : Nested []
  | other {c : Char} {w : List Char} : c ≠ '(' → c ≠ ')' → Nested w → Nested (c :: w)
  | group {u v : List Char} : Nested u → Nested v → Nested ('(' :: (u ++ ')' :: v))

theorem Nested.append {u v : List Char} (hu : Nested u) (hv : Nested v) : Nested (u ++ v) := by
  induction hu with
  | nil => exact hv
  | other ho hc _ ih => exact .other ho hc ih
  | group hg _ _ ih => simpa using Nested.group hg ih

/-- Texts in which a number of opening parentheses wait for their partners. -/
def Waiting : Nat → List Char → Prop
  | 0, w => Nested w
  | depth + 1, w => ∃ u v, w = u ++ '(' :: v ∧ Waiting depth u ∧ Nested v

theorem Waiting.append {u v : List Char} (hv : Nested v) :
    ∀ {depth : Nat}, Waiting depth u → Waiting depth (u ++ v)
  | 0, hu => Nested.append hu hv
  | _ + 1, ⟨a, b, hab, ha, hb⟩ => ⟨a, b ++ v, by simp [hab], ha, hb.append hv⟩

theorem openingOf_eq_some {before : List Char} : ∀ {rest : List Char} {depth : Nat},
    openingOf (depth + 1) rest = some before →
      ∃ group, rest.reverse = before.reverse ++ '(' :: group ∧ Waiting depth group
  | [], _, h => by simp [openingOf] at h
  | c :: rest, depth, h => by
    unfold openingOf at h
    split at h
    · next hc =>
      obtain ⟨group, hrest, u, v, hw, hu, hv⟩ := openingOf_eq_some h
      refine ⟨group ++ [c], by simp [hrest], ?_⟩
      have closed : group ++ [c] = u ++ ('(' :: (v ++ ')' :: [])) := by simp [hw, hc]
      rw [closed]
      exact Waiting.append (.group hv .nil) hu
    · split at h
      · next hc =>
        split at h
        · next hone =>
          obtain rfl : depth = 0 := by omega
          cases h
          exact ⟨[], by simp [hc], Nested.nil⟩
        · next hone =>
          obtain ⟨shallower, rfl⟩ : ∃ n, depth = n + 1 := ⟨depth - 1, by omega⟩
          obtain ⟨group, hrest, hw⟩ := openingOf_eq_some h
          exact ⟨group ++ [c], by simp [hrest], group, [], by simp [hc], hw, .nil⟩
      · next hclose hopen =>
        obtain ⟨group, hrest, hw⟩ := openingOf_eq_some h
        exact ⟨group ++ [c], by simp [hrest], hw.append (.other hopen hclose .nil)⟩

/-- A call signature: parentheses around a text in which each parenthesis has its partner. -/
def Signature (s : List Char) : Prop := ∃ inner, s = '(' :: (inner ++ [')']) ∧ Nested inner

theorem dropSignature_spec (name : List Char) : dropSignature name = name ∨
    ∃ s, name = dropSignature name ++ s ∧ Signature s ∧ dropSignature name ≠ [] := by
  unfold dropSignature
  split
  · next rest hrev =>
    split
    · exact .inl rfl
    · exact .inl rfl
    · next before hne hfound =>
      obtain ⟨group, hrest, hw⟩ := openingOf_eq_some hfound
      have hname : name = rest.reverse ++ [')'] := by simpa using congrArg List.reverse hrev
      refine .inr ⟨'(' :: (group ++ [')']), ?_, ⟨group, rfl, hw⟩, ?_⟩
      · simp [hname, hrest]
      · simpa using hne
  · exact .inl rfl

end PackageCensus.QualifiedName
