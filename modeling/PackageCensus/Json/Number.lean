import PackageCensus.Json.Fault

/-! # Numbers in JSON documents

`NumberForm.scan` takes the longest start of a text that has the form of a number, and says
whether a text that has not breaks off at its end.  `NumberForm.value` is the number itself:
digits are gathered as long as they make a number of sixty-four bits, and the others only move
the decimal point.  A number with a point or an exponent, minus zero, and a whole number outside
the range of sixty-four bits are real numbers, and a real number too large for double precision is
malformed. -/

namespace PackageCensus.Json

/-- The digits of a number, each part by itself. -/
structure NumberForm where
  negative : Bool
  whole : List Char
  /-- The digits after the point. -/
  fraction : Option (List Char)
  /-- The sign and the digits of the exponent. -/
  exponent : Option (Bool × List Char)

namespace NumberForm

/-- Whether a text is at its end, as a fault. -/
def faultAt (cs : List Char) : Fault := if cs.isEmpty then .truncated else .malformed

/-- Takes one digit and all that follow. -/
def scanDigits (cs : List Char) : Except Fault (List Char × List Char) :=
  match cs.takeWhile Char.isDigit with
  | [] => .error (faultAt cs)
  | digits => .ok (digits, cs.dropWhile Char.isDigit)

/-- Takes the digits before the point: a zero that stands alone, or digits of which the first is
not zero. -/
def scanWhole (cs : List Char) : Except Fault (List Char × List Char) :=
  match cs with
  | '0' :: rest =>
    match rest with
    | c :: _ => if c.isDigit then .error .malformed else .ok (['0'], rest)
    | [] => .ok (['0'], rest)
  | _ => scanDigits cs

/-- Takes the point and the digits after it, if there is a point. -/
def scanFraction (cs : List Char) : Except Fault (Option (List Char) × List Char) :=
  match cs with
  | '.' :: rest => (scanDigits rest).map fun (digits, rest) => (some digits, rest)
  | _ => .ok (none, cs)

/-- Takes the sign of an exponent, if there is one. -/
def scanSign : List Char → Bool × List Char
  | '+' :: rest => (false, rest)
  | '-' :: rest => (true, rest)
  | cs => (false, cs)

/-- Takes the exponent mark, its sign and its digits, if there is a mark. -/
def scanExponent (cs : List Char) : Except Fault (Option (Bool × List Char) × List Char) :=
  match cs with
  | c :: rest =>
    if c = 'e' ∨ c = 'E' then
      let (negative, rest) := scanSign rest
      (scanDigits rest).map fun (digits, rest) => (some (negative, digits), rest)
    else .ok (none, cs)
  | [] => .ok (none, [])

/-- Takes a number without its sign. -/
def scan (negative : Bool) (cs : List Char) : Except Fault (NumberForm × List Char) := do
  let (whole, cs) ← scanWhole cs
  let (fraction, cs) ← scanFraction cs
  let (exponent, cs) ← scanExponent cs
  return (⟨negative, whole, fraction, exponent⟩, cs)

/-! ### Values -/

/-- The value of a digit. -/
def digitValue (c : Char) : Nat := c.toNat - 48

/-- The largest number of sixty-four bits. -/
def most : Nat := 18446744073709551615

/-- Digits gathered behind a number up to the first that takes it out of range, and the rest. -/
def gather (value : Nat) : List Char → Nat × List Char
  | [] => (value, [])
  | c :: cs =>
    let next := value * 10 + digitValue c
    if most < next then (value, c :: cs) else gather next cs

/-- A whole number. -/
def wholeNumber (negative : Bool) (n : Nat) : Number :=
  if negative then
    if 1 ≤ n ∧ n ≤ 9223372036854775808 then .negative (-(n : Int))
    else .real ((Double.round? true n 1).getD (.zero true))
  else .natural n

/-- A real number: a gathered number with its decimal point moved. -/
def realNumber (negative : Bool) (n : Nat) (shift : Int) : Except Fault Number :=
  match (Double.round? negative n 1).bind (·.shift? shift) with
  | some x => .ok (.real x)
  | none => .error .malformed

/-- The number that a form stands for. -/
def value (f : NumberForm) : Except Fault Number :=
  let (n, beyond) := gather 0 f.whole
  match f.fraction, f.exponent, beyond with
  | none, none, [] => .ok (wholeNumber f.negative n)
  | fraction, exponent, beyond =>
    let digits := fraction.getD []
    let (n, ignored) := gather n digits
    let exponentValue := match exponent with
      | none => 0
      | some (negative, digits) =>
        let e : Int := digits.foldl (fun e c => e * 10 + digitValue c) 0
        if negative then -e else e
    realNumber f.negative n
      ((beyond.length : Int) - (digits.length - ignored.length : Nat) + exponentValue)

/-! ### Nothing is read twice -/

theorem length_scanDigits {cs digits rest : List Char} (h : scanDigits cs = .ok (digits, rest)) :
    rest.length < cs.length := by
  unfold scanDigits at h
  split at h
  · simp at h
  · next hne =>
    simp only [Except.ok.injEq, Prod.mk.injEq] at h
    have hsplit := congrArg List.length
      (List.takeWhile_append_dropWhile (p := Char.isDigit) (l := cs))
    rw [List.length_append] at hsplit
    have : 0 < (cs.takeWhile Char.isDigit).length :=
      List.length_pos_iff.mpr fun he => hne he
    rw [← h.2]
    omega

theorem length_scanWhole {cs digits rest : List Char} (h : scanWhole cs = .ok (digits, rest)) :
    rest.length < cs.length := by
  unfold scanWhole at h
  split at h
  · split at h
    · split at h
      · simp at h
      · simp only [Except.ok.injEq, Prod.mk.injEq] at h
        rw [← h.2]; simp
    · simp only [Except.ok.injEq, Prod.mk.injEq] at h
      rw [← h.2]; simp
  · exact length_scanDigits h

theorem length_map_scanDigits {α : Type} {f : List Char → α} {cs rest : List Char} {a : α}
    (h : (scanDigits cs).map (fun (digits, rest) => (f digits, rest)) = .ok (a, rest)) :
    rest.length < cs.length := by
  cases hd : scanDigits cs with
  | error e => simp [hd, Except.map] at h
  | ok r =>
    simp only [hd, Except.map, Except.ok.injEq, Prod.mk.injEq] at h
    have := @length_scanDigits _ r.1 r.2 hd
    rwa [← h.2]

theorem length_scanFraction {cs rest : List Char} {digits : Option (List Char)}
    (h : scanFraction cs = .ok (digits, rest)) : rest.length ≤ cs.length := by
  unfold scanFraction at h
  split at h
  · have hd := length_map_scanDigits h
    simp only [List.length_cons]
    omega
  · simp only [Except.ok.injEq, Prod.mk.injEq] at h
    exact h.2 ▸ Nat.le_refl _

theorem length_scanSign (cs : List Char) : (scanSign cs).2.length ≤ cs.length := by
  unfold scanSign
  split <;> simp

theorem length_scanExponent {cs rest : List Char} {digits : Option (Bool × List Char)}
    (h : scanExponent cs = .ok (digits, rest)) : rest.length ≤ cs.length := by
  unfold scanExponent at h
  split at h
  · next c tail =>
    split at h
    · have hs := length_scanSign tail
      generalize scanSign tail = signed at h hs
      obtain ⟨negative, unsigned⟩ := signed
      have hd : rest.length < unsigned.length :=
        length_map_scanDigits (f := fun digits => some (negative, digits)) h
      simp only [List.length_cons] at hs ⊢
      omega
    · simp only [Except.ok.injEq, Prod.mk.injEq] at h
      exact h.2 ▸ Nat.le_refl _
  · simp only [Except.ok.injEq, Prod.mk.injEq] at h
    exact h.2 ▸ Nat.le_refl _

theorem length_scan {negative : Bool} {cs rest : List Char} {f : NumberForm}
    (h : scan negative cs = .ok (f, rest)) : rest.length < cs.length := by
  unfold scan at h
  cases h₁ : scanWhole cs with
  | error e => simp [h₁, bind, Except.bind] at h
  | ok r₁ =>
    cases h₂ : scanFraction r₁.2 with
    | error e => simp [h₁, h₂, bind, Except.bind] at h
    | ok r₂ =>
      cases h₃ : scanExponent r₂.2 with
      | error e => simp [h₁, h₂, h₃, bind, Except.bind] at h
      | ok r₃ =>
        simp only [h₁, h₂, h₃, bind, Except.bind, pure, Except.pure, Except.ok.injEq,
          Prod.mk.injEq] at h
        have l₁ := @length_scanWhole _ r₁.1 r₁.2 h₁
        have l₂ := @length_scanFraction _ r₂.2 r₂.1 h₂
        have l₃ := @length_scanExponent _ r₃.2 r₃.1 h₃
        rw [← h.2]
        omega

end NumberForm
end PackageCensus.Json
