import Mathlib
import PackageCensus.Proofs.Except
import PackageCensus.Proofs.Numeral
import PackageCensus.Symbol.Line

/-! # What a line of a symbol table comes to

The words of a line stand in columns, in one of two forms (`InColumns`), or they are too few for
that, or lack the letter (`words_cases`).  What `parse` makes of a line is what its columns come to
(`parse_of_inColumns`), so that `parse_eq_ok` reads a success back into its steps, and
`readAddress_eq_ok` and `readSize_eq_ok` those of its numbers.  From them: path and name are what
the qualified name divides into (`path_name_of_parse`), and a size is never negative
(`size_nonneg_of_parse`). -/

namespace PackageCensus.Symbol

open Text (wordsOf)

/-! ### Addresses and sizes -/

/-- Words that give an address: a number in base sixteen, of sixty-four bits. -/
def IsAddress (n : Nat) (word : String) : Prop := Numeral.Unsigned 16 n word.toList ∧ n < 2 ^ 64

/-- Words that give a whole number: a decimal one, of sixty-four bits with its sign. -/
def IsWhole (n : Int) (word : String) : Prop :=
  Numeral.Signed 10 n word.toList ∧ -2 ^ 63 ≤ n ∧ n < 2 ^ 63

theorem isAddress_iff {n : Nat} {word : String} :
    IsAddress n word ↔ Numeral.readUnsigned 16 word.toList = .ok n := by
  rw [Numeral.readUnsigned_eq_ok (by decide) (by decide), IsAddress]
  unfold Numeral.maxUnsigned
  exact and_congr_right fun _ => by omega

theorem isWhole_iff {n : Int} {word : String} :
    IsWhole n word ↔ Numeral.readSigned 10 word.toList = .ok n := by
  rw [Numeral.readSigned_eq_ok (by decide) (by decide), IsWhole]
  unfold Numeral.maxSigned
  exact and_congr_right fun _ => by omega

theorem readAddress_eq_ok {line : String} {word? : Option String} {address : UInt64} :
    readAddress line word? = .ok address ↔
      word?.elim (address = 0) (IsAddress address.toNat) := by
  cases word? with
  | none => exact ⟨fun h => by cases h; rfl, fun h => by cases h; rfl⟩
  | some word =>
    simp only [readAddress, Option.elim_some, isAddress_iff]
    cases hread : Numeral.readUnsigned 16 word.toList with
    | error cause => simp
    | ok n =>
      have hn := (isAddress_iff.mpr hread).2
      simp only [Except.ok.injEq, ← UInt64.toNat_inj, UInt64.toNat_ofNat']
      omega

/-- A size that is read is the number of its word, and nothing of an unknown one. -/
theorem readSize_eq_ok {line word : String} {size : Int64} :
    readSize line word = .ok size ↔
      ∃ n, IsWhole n word ∧ 0 ≤ n ∧ size.toInt = if n = unknownSize then 0 else n := by
  simp only [readSize, isWhole_iff]
  cases hread : Numeral.readSigned 10 word.toList with
  | error cause => simp
  | ok n =>
    obtain ⟨-, hl, hu⟩ := isWhole_iff.mpr hread
    simp only [Except.ok.injEq, exists_eq_left']
    split_ifs with hunknown hnegative
    · subst hunknown
      rw [Except.ok.injEq, eq_comm, ← Int64.toInt_inj]
      exact (and_iff_right (by decide)).symm
    · simp [hnegative]
    · rw [Except.ok.injEq, eq_comm, ← Int64.toInt_inj, Int64.toInt_ofInt_of_le hl hu]
      exact (and_iff_right (by omega)).symm

theorem readSize_nonneg {line word : String} {size : Int64} (h : readSize line word = .ok size) :
    0 ≤ size.toInt := by
  obtain ⟨n, -, hn, hsize⟩ := readSize_eq_ok.mp h
  rw [hsize]
  split_ifs <;> omega

/-! ### Columns -/

/-- One letter of the ASCII alphabet. -/
def IsLetter (word : String) : Prop := ∃ c : Char, c.isAlpha = true ∧ word = String.singleton c

/-- The columns of a line. -/
structure Columns where
  address? : Option String
  size : String
  code : Char
  /-- The name and the remarks, as far as there are any. -/
  rest : List String

/-- How the words of a line stand in columns.  Without an address there is at least a name. -/
inductive InColumns : List String → Columns → Prop
  | noAddress {size : String} {code : Char} {rest : List String} :
    code.isAlpha = true → rest ≠ [] →
    InColumns (size :: String.singleton code :: rest) ⟨none, size, code, rest⟩
  | withAddress {address size : String} {code : Char} {rest : List String} :
    ¬ IsLetter size → code.isAlpha = true →
    InColumns (address :: size :: String.singleton code :: rest) ⟨some address, size, code, rest⟩

/-- Some words are too few, lack the letter, or stand in columns. -/
theorem words_cases (words : List String) : words.length < 3 ∨
    (3 ≤ words.length ∧ (∀ w ∈ words[1]?, ¬ IsLetter w) ∧ ∀ w ∈ words[2]?, ¬ IsLetter w) ∨
    ∃ columns, InColumns words columns := by
  match words with
  | [] | [_] | [_, _] => exact .inl (by simp)
  | a :: b :: c :: rest =>
    by_cases hb : IsLetter b
    · obtain ⟨code, hcode, rfl⟩ := hb
      exact .inr (.inr ⟨_, .noAddress hcode (List.cons_ne_nil _ _)⟩)
    · by_cases hc : IsLetter c
      · obtain ⟨code, hcode, rfl⟩ := hc
        exact .inr (.inr ⟨_, .withAddress hb hcode⟩)
      · exact .inr (.inl ⟨by simp, by simpa using hb, by simpa using hc⟩)

theorem isCode_iff {word : String} : Layout.isCode word = true ↔ IsLetter word := by
  unfold Layout.isCode IsLetter
  constructor
  · intro h
    split at h
    · next c hc => exact ⟨c, h, String.toList_injective (by rw [hc, String.toList_singleton])⟩
    · cases h
  · rintro ⟨c, hc, rfl⟩
    rw [String.toList_singleton]
    exact hc

theorem isCode_singleton {c : Char} (h : c.isAlpha = true) :
    Layout.isCode (String.singleton c) = true := isCode_iff.mpr ⟨c, h, rfl⟩

/-! ### Lines -/

/-- The symbol of some columns, or the first fault in them. -/
def Columns.read (line : String) (columns : Columns) : Except LineError Symbol := do
  let address ← readAddress line columns.address?
  let size ← readSize line columns.size
  return ofColumns address size (String.singleton columns.code) (columns.rest.getD 0 "")
    (columns.rest.drop 1)

theorem parse_of_short {line : String} (h : (wordsOf line).length < 3) :
    parse line = .error (.malformed line) := by
  unfold parse
  simp only [h, if_true]

theorem parse_of_letterless {line : String} (h : 3 ≤ (wordsOf line).length)
    (second : ∀ w ∈ (wordsOf line)[1]?, ¬ IsLetter w)
    (third : ∀ w ∈ (wordsOf line)[2]?, ¬ IsLetter w) :
    parse line = .error (.unrecognizedLayout line) := by
  have letterless {word? : Option String} (hw : ∀ w ∈ word?, ¬ IsLetter w) :
      ¬ word?.any Layout.isCode = true := by
    rw [Option.any_eq_true]
    rintro ⟨w, hmem, hcode⟩
    exact hw w hmem (isCode_iff.mp hcode)
  unfold parse
  simp only [Layout.classify, if_neg (letterless second), if_neg (letterless third)]
  rw [if_neg (by omega)]

theorem parse_of_inColumns {line : String} {columns : Columns}
    (h : InColumns (wordsOf line) columns) : parse line = columns.read line := by
  unfold parse
  generalize wordsOf line = words at h
  cases h with
  | noAddress hcode hrest =>
    have hlength := List.length_pos_iff.mpr hrest
    rw [if_neg (by simp only [List.length_cons]; omega)]
    simp [Layout.classify, isCode_singleton hcode, ofWords, Columns.read, Layout.codeIndex]
  | withAddress hsize hcode =>
    have hsize := Bool.eq_false_iff.mpr (isCode_iff.not.mpr hsize)
    rw [if_neg (by simp)]
    simp [Layout.classify, isCode_singleton hcode, hsize, ofWords, Columns.read, Layout.codeIndex]

theorem Columns.read_eq_ok {line : String} {columns : Columns} {s : Symbol} :
    columns.read line = .ok s ↔ ∃ address size,
      readAddress line columns.address? = .ok address ∧ readSize line columns.size = .ok size ∧
      ofColumns address size (String.singleton columns.code) (columns.rest.getD 0 "")
        (columns.rest.drop 1) = s := by
  unfold Columns.read
  simp only [bind_eq_ok, pure, Except.pure, Except.ok.injEq]
  exact exists_congr fun _ => by simp only [exists_and_left]

/-- The steps of a success. -/
theorem parse_eq_ok {line : String} {s : Symbol} :
    parse line = .ok s ↔
      ∃ columns, InColumns (wordsOf line) columns ∧ columns.read line = .ok s := by
  constructor
  · intro h
    rcases words_cases (wordsOf line) with hshort | ⟨hlength, second, third⟩ | ⟨columns, hcolumns⟩
    · rw [parse_of_short hshort] at h
      cases h
    · rw [parse_of_letterless hlength second third] at h
      cases h
    · exact ⟨columns, hcolumns, parse_of_inColumns hcolumns ▸ h⟩
  · rintro ⟨columns, hcolumns, h⟩
    rw [parse_of_inColumns hcolumns, h]

theorem path_name_ofColumns (address : UInt64) (size : Int64) (code q : String)
    (remarks : List String) : ((ofColumns address size code q remarks).path,
      (ofColumns address size code q remarks).name) = QualifiedName.parts q := by
  by_cases hq : q = ""
  · subst hq
    rfl
  · simp [ofColumns, hq]

/-- A symbol is made of some columns if its parts are theirs. -/
theorem ofColumns_eq_iff {address : UInt64} {size : Int64} {code : Char} {q : String}
    {remarks : List String} {s : Symbol} :
    ofColumns address size (String.singleton code) q remarks = s ↔
      address = s.address ∧ size = s.size ∧ s.code = code ∧ s.qualifiedName = q ∧
        s.info = " ".intercalate remarks ∧ (s.path, s.name) = QualifiedName.parts q := by
  have hparts := path_name_ofColumns address size (String.singleton code) q remarks
  have hcode : (String.singleton code).toList.headD '\x00' = code := by
    rw [String.toList_singleton]
    rfl
  constructor
  · rintro rfl
    exact ⟨rfl, rfl, hcode, rfl, rfl, hparts⟩
  · rintro ⟨rfl, rfl, rfl, rfl, hinfo, hpath⟩
    rw [← hpath, Prod.mk.injEq] at hparts
    cases s
    rw [Symbol.mk.injEq]
    exact ⟨rfl, rfl, hcode, rfl, hinfo.symm, hparts⟩

theorem path_name_of_parse {line : String} {s : Symbol} (h : parse line = .ok s) :
    (s.path, s.name) = QualifiedName.parts s.qualifiedName := by
  obtain ⟨columns, -, hread⟩ := parse_eq_ok.mp h
  obtain ⟨address, size, -, -, rfl⟩ := Columns.read_eq_ok.mp hread
  exact path_name_ofColumns ..

theorem path_of_parse {line : String} {s : Symbol} (h : parse line = .ok s) :
    s.path = (QualifiedName.parts s.qualifiedName).1 := congrArg Prod.fst (path_name_of_parse h)

theorem size_nonneg_of_parse {line : String} {s : Symbol} (h : parse line = .ok s) :
    0 ≤ s.size.toInt := by
  obtain ⟨columns, -, hread⟩ := parse_eq_ok.mp h
  obtain ⟨address, size, -, hsize, rfl⟩ := Columns.read_eq_ok.mp hread
  exact readSize_nonneg hsize

end PackageCensus.Symbol
