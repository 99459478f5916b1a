import PackageCensus.Proofs.Symbol.Line

/-! # The grammar of lines

A line gives the symbol that its columns describe (`Columns.read_eq_ok_iff`), and is accepted exactly
if they are sound, that is, if they hold numbers of the right range where numbers are asked for.  All
other lines are refused by the first of four checks that fails (`parse_eq_error`).  Both depend on
the words of the line only, and the line itself stands in errors alone (`parse_onLine`). -/

namespace PackageCensus

/-- An error with another line in it. -/
def LineError.onLine (line : String) : LineError → LineError
  | malformed _ => malformed line
  | unrecognizedLayout _ => unrecognizedLayout line
  | invalidAddress word _ cause => invalidAddress word line cause
  | invalidSize word _ cause => invalidSize word line cause
  | negativeSize word _ => negativeSize word line

namespace Symbol

open Text (wordsOf)

/-- Columns whose address, if there is one, is a number. -/
def Columns.Addressed (columns : Columns) : Prop :=
  ∀ word ∈ columns.address?, ∃ n, IsAddress n word

/-- Columns that hold numbers of the right range. -/
structure Columns.Sound (columns : Columns) : Prop where
  address : columns.Addressed
  size : ∃ n, IsWhole n columns.size ∧ 0 ≤ n

/-- The symbol that columns describe: with the numbers that they hold, but no size where the size is
the one that stands for an unknown one. -/
structure Columns.Describes (columns : Columns) (s : Symbol) : Prop where
  address : columns.address?.elim (s.address = 0) (IsAddress s.address.toNat)
  size : ∃ n, IsWhole n columns.size ∧ 0 ≤ n ∧ s.size.toInt = if n = 4294967296 then 0 else n
  code : s.code = columns.code
  qualifiedName : s.qualifiedName = columns.rest.getD 0 ""
  info : s.info = " ".intercalate (columns.rest.drop 1)
  path_name : (s.path, s.name) = QualifiedName.parts s.qualifiedName

/-- The error of the first check that the words of a line fail. -/
inductive Refused (line : String) (words : List String) : LineError → Prop
  | malformed : words.length < 3 → Refused line words (.malformed line)
  | unrecognizedLayout : 3 ≤ words.length → (∀ w ∈ words[1]?, ¬ IsLetter w) →
    (∀ w ∈ words[2]?, ¬ IsLetter w) → Refused line words (.unrecognizedLayout line)
  | invalidAddress {columns : Columns} {word : String} {cause : Numeral.Fault} :
    InColumns words columns → columns.address? = some word → (∀ n, ¬ IsAddress n word) →
    Numeral.readUnsigned 16 word.toList = .error cause →
    Refused line words (.invalidAddress word line cause)
  | negativeSize {columns : Columns} {n : Int} :
    InColumns words columns → columns.Addressed → IsWhole n columns.size → n < 0 →
    Refused line words (.negativeSize columns.size line)
  | invalidSize {columns : Columns} {cause : Numeral.Fault} :
    InColumns words columns → columns.Addressed → (∀ n, ¬ IsWhole n columns.size) →
    Numeral.readSigned 10 columns.size.toList = .error cause →
    Refused line words (.invalidSize columns.size line cause)

/-! ### Numbers that are read or refused -/

theorem exists_readAddress {line : String} {columns : Columns} :
    (∃ address, readAddress line columns.address? = .ok address) ↔ columns.Addressed := by
  simp only [readAddress_eq_ok, Columns.Addressed]
  cases columns.address? with
  | none => simp
  | some word =>
    simp only [Option.elim_some, Option.mem_some_iff, forall_eq']
    constructor
    · exact fun ⟨address, h⟩ => ⟨_, h⟩
    · rintro ⟨n, h⟩
      refine ⟨UInt64.ofNat n, ?_⟩
      rwa [UInt64.toNat_ofNat', Nat.mod_eq_of_lt h.2]

theorem exists_readSize {line word : String} :
    (∃ size, readSize line word = .ok size) ↔ ∃ n, IsWhole n word ∧ 0 ≤ n := by
  simp only [readSize_eq_ok]
  constructor
  · exact fun ⟨size, n, h, hn, _⟩ => ⟨n, h, hn⟩
  · rintro ⟨n, h, hn⟩
    refine ⟨Int64.ofInt (if n = unknownSize then 0 else n), n, h, hn, ?_⟩
    obtain ⟨-, hl, hu⟩ := h
    split_ifs
    · rfl
    · exact Int64.toInt_ofInt_of_le hl hu

theorem readAddress_eq_error {line : String} {word? : Option String} {e : LineError} :
    readAddress line word? = .error e ↔ ∃ word cause, word? = some word ∧
      Numeral.readUnsigned 16 word.toList = .error cause ∧ e = .invalidAddress word line cause := by
  cases word? with
  | none => simp [readAddress]
  | some word =>
    simp only [readAddress, Option.some.injEq, exists_and_left, exists_eq_left']
    cases Numeral.readUnsigned 16 word.toList with
    | error cause => simp [eq_comm]
    | ok n => simp

theorem readSize_eq_error {line word : String} {e : LineError} :
    readSize line word = .error e ↔
      (∃ n, IsWhole n word ∧ n < 0 ∧ e = .negativeSize word line) ∨
        ∃ cause, Numeral.readSigned 10 word.toList = .error cause ∧
          e = .invalidSize word line cause := by
  simp only [readSize, isWhole_iff]
  cases Numeral.readSigned 10 word.toList with
  | error cause => simp [eq_comm]
  | ok n =>
    simp only [Except.ok.injEq, exists_eq_left', reduceCtorEq, false_and, exists_false, or_false]
    split_ifs with hunknown hnegative
    · subst hunknown
      simp [unknownSize]
    · simp [hnegative, eq_comm]
    · simp [hnegative]

/-! ### Symbols that are described -/

theorem Columns.read_eq_ok_iff {line : String} {columns : Columns} {s : Symbol} :
    columns.read line = .ok s ↔ columns.Describes s := by
  rw [read_eq_ok]
  constructor
  · rintro ⟨address, size, haddress, hsize, h⟩
    obtain ⟨rfl, rfl, hcode, hname, hinfo, hparts⟩ := ofColumns_eq_iff.mp h
    exact ⟨readAddress_eq_ok.mp haddress, readSize_eq_ok.mp hsize, hcode, hname, hinfo,
      hname ▸ hparts⟩
  · rintro ⟨haddress, hsize, hcode, hname, hinfo, hparts⟩
    exact ⟨s.address, s.size, readAddress_eq_ok.mpr haddress, readSize_eq_ok.mpr hsize,
      ofColumns_eq_iff.mpr ⟨rfl, rfl, hcode, hname, hinfo, hname ▸ hparts⟩⟩

theorem Columns.exists_read {line : String} {columns : Columns} :
    (∃ s, columns.read line = .ok s) ↔ columns.Sound := by
  simp only [read_eq_ok]
  constructor
  · rintro ⟨s, address, size, haddress, hsize, -⟩
    exact ⟨exists_readAddress.mp ⟨address, haddress⟩, exists_readSize.mp ⟨size, hsize⟩⟩
  · rintro ⟨haddress, hsize⟩
    obtain ⟨address, haddress⟩ := exists_readAddress.mpr haddress
    obtain ⟨size, hsize⟩ := exists_readSize.mpr hsize
    exact ⟨_, address, size, haddress, hsize, rfl⟩

/-! ### Lines that are refused -/

theorem Columns.read_eq_error {line : String} {columns : Columns} {e : LineError} :
    columns.read line = .error e ↔ readAddress line columns.address? = .error e ∨
      columns.Addressed ∧ readSize line columns.size = .error e := by
  rw [← exists_readAddress, Columns.read]
  cases readAddress line columns.address? with
  | error e' => simp [bind, Except.bind]
  | ok address =>
    cases readSize line columns.size with
    | error e' => simp [bind, Except.bind]
    | ok size => simp [bind, Except.bind, pure, Except.pure]

theorem parse_eq_error {line : String} {e : LineError} :
    parse line = .error e ↔ Refused line (wordsOf line) e := by
  constructor
  · intro h
    rcases words_cases (wordsOf line) with hshort | ⟨hlength, second, third⟩ | ⟨columns, hcolumns⟩
    · rw [parse_of_short hshort] at h
      cases h
      exact .malformed hshort
    · rw [parse_of_letterless hlength second third] at h
      cases h
      exact .unrecognizedLayout hlength second third
    · rw [parse_of_inColumns hcolumns, Columns.read_eq_error, readAddress_eq_error,
        readSize_eq_error] at h
      rcases h with ⟨word, cause, hword, hread, rfl⟩ | ⟨haddressed, h⟩
      · refine .invalidAddress hcolumns hword (fun n hn => ?_) hread
        rw [isAddress_iff, hread] at hn
        cases hn
      · rcases h with ⟨n, hn, hnegative, rfl⟩ | ⟨cause, hread, rfl⟩
        · exact .negativeSize hcolumns haddressed hn hnegative
        · refine .invalidSize hcolumns haddressed (fun n hn => ?_) hread
          rw [isWhole_iff, hread] at hn
          cases hn
  · intro h
    cases h with
    | malformed hshort => exact parse_of_short hshort
    | unrecognizedLayout hlength second third => exact parse_of_letterless hlength second third
    | invalidAddress hcolumns hword _ hread =>
      rw [parse_of_inColumns hcolumns, Columns.read_eq_error]
      exact .inl (readAddress_eq_error.mpr ⟨_, _, hword, hread, rfl⟩)
    | negativeSize hcolumns haddressed hn hnegative =>
      rw [parse_of_inColumns hcolumns, Columns.read_eq_error]
      exact .inr ⟨haddressed, readSize_eq_error.mpr (.inl ⟨_, hn, hnegative, rfl⟩)⟩
    | invalidSize hcolumns haddressed _ hread =>
      rw [parse_of_inColumns hcolumns, Columns.read_eq_error]
      exact .inr ⟨haddressed, readSize_eq_error.mpr (.inr ⟨_, hread, rfl⟩)⟩

/-! ### Lines with the same words -/

theorem Columns.read_onLine (line other : String) (columns : Columns) :
    columns.read other = (columns.read line).mapError (LineError.onLine other) := by
  have haddress : readAddress other columns.address? =
      (readAddress line columns.address?).mapError (LineError.onLine other) := by
    cases columns.address? with
    | none => rfl
    | some word =>
      simp only [readAddress]
      cases Numeral.readUnsigned 16 word.toList <;> rfl
  have hsize : readSize other columns.size =
      (readSize line columns.size).mapError (LineError.onLine other) := by
    simp only [readSize]
    cases Numeral.readSigned 10 columns.size.toList with
    | error cause => rfl
    | ok n =>
      dsimp only
      split_ifs <;> rfl
  rw [read, read, haddress, hsize]
  cases readAddress line columns.address? with
  | error e => rfl
  | ok address => cases readSize line columns.size <;> rfl

theorem parse_onLine {line other : String} (h : wordsOf other = wordsOf line) :
    parse other = (parse line).mapError (LineError.onLine other) := by
  rcases words_cases (wordsOf line) with hshort | ⟨hlength, second, third⟩ | ⟨columns, hcolumns⟩
  · rw [parse_of_short hshort, parse_of_short (h ▸ hshort)]
    rfl
  · rw [parse_of_letterless hlength second third,
      parse_of_letterless (h ▸ hlength) (h ▸ second) (h ▸ third)]
    rfl
  · rw [parse_of_inColumns hcolumns, parse_of_inColumns (h ▸ hcolumns),
      columns.read_onLine line other]

/-- A line is accepted exactly if its words stand in columns that are sound, and gives the symbol
that they describe.  Every other line is refused, with the error of the first check that its words
fail.  A line with the same words comes to the same, with itself in the error. -/
theorem parse_grammar (line : String) :
    ((∃ s, parse line = .ok s) ↔
      ∃ columns, InColumns (wordsOf line) columns ∧ columns.Sound) ∧
    (∀ s, parse line = .ok s ↔
      ∃ columns, InColumns (wordsOf line) columns ∧ columns.Describes s) ∧
    (∀ e, parse line = .error e ↔ Refused line (wordsOf line) e) ∧
    ∀ other, wordsOf other = wordsOf line →
      parse other = (parse line).mapError (LineError.onLine other) := by
  refine ⟨?_, fun s => ?_, fun e => parse_eq_error, fun other h => parse_onLine h⟩
  · simp only [parse_eq_ok, ← @Columns.exists_read line]
    constructor
    · exact fun ⟨s, columns, hcolumns, h⟩ => ⟨columns, hcolumns, s, h⟩
    · exact fun ⟨columns, hcolumns, s, h⟩ => ⟨s, columns, hcolumns, h⟩
  · rw [parse_eq_ok]
    exact exists_congr fun columns => and_congr_right fun _ => Columns.read_eq_ok_iff

/-- Zeros and signs before the numbers, a size out of range, and other blanks. -/
theorem parse_grammar_signs :
    parse "+000000000000000000ff -0 T" = .ok ⟨255, 0, 'T', "", "", [], ""⟩ ∧
    parse "\t+000000000000000000ff\u2003-0  T" = .ok ⟨255, 0, 'T', "", "", [], ""⟩ ∧
    Refused "7 -9223372036854775809 T x" ["7", "-9223372036854775809", "T", "x"]
      (.invalidSize "-9223372036854775809" "7 -9223372036854775809 T x" .tooSmall) ∧
    parse "7 -9223372036854775809 T  x" =
      .error (.invalidSize "-9223372036854775809" "7 -9223372036854775809 T  x" .tooSmall) := by
  have accepted : parse "+000000000000000000ff -0 T" = .ok ⟨255, 0, 'T', "", "", [], ""⟩ := by
    decide +kernel
  have refused : parse "7 -9223372036854775809 T x" = .error
      (.invalidSize "-9223372036854775809" "7 -9223372036854775809 T x" .tooSmall) := by
    decide +kernel
  obtain ⟨-, -, -, blanks⟩ := parse_grammar "+000000000000000000ff -0 T"
  obtain ⟨-, -, errors, blanks'⟩ := parse_grammar "7 -9223372036854775809 T x"
  refine ⟨accepted, ?_, ?_, ?_⟩
  · rw [blanks _ (by decide +kernel), accepted]
    rfl
  · have words : wordsOf "7 -9223372036854775809 T x" =
        ["7", "-9223372036854775809", "T", "x"] := by decide +kernel
    exact words ▸ (errors _).mp refused
  · rw [blanks' _ (by decide +kernel), refused]
    rfl

end Symbol
end PackageCensus
