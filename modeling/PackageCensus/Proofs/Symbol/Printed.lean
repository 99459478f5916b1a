import PackageCensus.Proofs.Symbol.Line
import PackageCensus.Proofs.Symbol.QualifiedName
import PackageCensus.Proofs.Text.Blank

/-! # Symbols that are printed and read back

A symbol that was read is `Canonical`, and a canonical symbol is read back from every line that
holds its columns, whatever blanks stand around them.  The two forms of a line are told apart by
the letter: a size is never taken for it (`not_isLetter_of_spelled`), so a line with an address is not
taken for one without. -/

namespace PackageCensus.Symbol

open Numeral (Spelled)
open Text (IsWord Spaced wordsOf)

/-- What holds of a symbol that was read from a line. -/
structure Canonical (s : Symbol) : Prop where
  address_lt : s.address.toNat < 2 ^ 64
  size_nonneg : 0 ≤ s.size.toInt
  size_lt : s.size.toInt < 2 ^ 63
  size_ne : s.size.toInt ≠ unknownSize
  code : s.code.isAlpha = true
  no_blank : ∀ c ∈ s.qualifiedName.toList, Text.isBlank c = false
  info : ∃ remarks : List String, (∀ w ∈ remarks, IsWord w.toList) ∧
    s.info = " ".intercalate remarks
  info_empty : s.qualifiedName = "" → s.info = ""
  parts : (s.path, s.name) = QualifiedName.parts s.qualifiedName

/-- The line of a symbol: its address in base sixteen, its size, the letter, the name and the
remarks, with single spaces between them. -/
def print (s : Symbol) : String :=
  " ".intercalate [String.ofList (Nat.toDigits 16 s.address.toNat), toString s.size.toInt.toNat,
    String.singleton s.code, s.qualifiedName, s.info]

/-! ### What was read is canonical -/

section

variable (address : UInt64) (size : Int64) (code q : String) (remarks : List String)

@[simp] theorem ofColumns_size : (ofColumns address size code q remarks).size = size := rfl

@[simp] theorem ofColumns_code :
    (ofColumns address size code q remarks).code = code.toList.headD '\x00' := rfl

@[simp] theorem ofColumns_qualifiedName :
    (ofColumns address size code q remarks).qualifiedName = q := rfl

@[simp] theorem ofColumns_info :
    (ofColumns address size code q remarks).info = " ".intercalate remarks := rfl

end

theorem readSize_ne {line word : String} {size : Int64} (h : readSize line word = .ok size) :
    size.toInt ≠ unknownSize := by
  obtain ⟨n, -, -, hsize⟩ := readSize_eq_ok.mp h
  rw [hsize]
  split_ifs with hn
  · decide
  · exact hn

theorem isWord_of_mem_wordsOf {line w : String} (h : w ∈ wordsOf line) : IsWord w.toList := by
  obtain ⟨u, hu, rfl⟩ := List.mem_map.mp h
  rw [String.toList_ofList]
  exact Text.mem_words hu

namespace InColumns

variable {words : List String} {columns : Columns}

theorem isAlpha_code (h : InColumns words columns) : columns.code.isAlpha = true := by
  cases h with
  | noAddress hcode _ => exact hcode
  | withAddress _ hcode => exact hcode

theorem mem_of_mem_rest (h : InColumns words columns) {w : String} (hw : w ∈ columns.rest) :
    w ∈ words := by
  cases h with
  | noAddress _ _ => exact .tail _ (.tail _ hw)
  | withAddress _ _ => exact .tail _ (.tail _ (.tail _ hw))

end InColumns

theorem canonical_of_parse {line : String} {s : Symbol} (h : parse line = .ok s) :
    Canonical s := by
  have hparts := path_name_of_parse h
  have hnonneg := size_nonneg_of_parse h
  obtain ⟨columns, hcolumns, hread⟩ := parse_eq_ok.mp h
  obtain ⟨address, size, -, hsize, rfl⟩ := Columns.read_eq_ok.mp hread
  have hword : ∀ w ∈ columns.rest, IsWord w.toList := fun w hw =>
    isWord_of_mem_wordsOf (hcolumns.mem_of_mem_rest hw)
  constructor
  · exact UInt64.toNat_lt _
  · exact hnonneg
  · exact Int64.toInt_lt _
  · rw [ofColumns_size]
    exact readSize_ne hsize
  · rw [ofColumns_code, String.toList_singleton]
    exact hcolumns.isAlpha_code
  · rw [ofColumns_qualifiedName]
    cases hrest : columns.rest with
    | nil => exact fun c hc => by cases hc
    | cons name remarks => exact (hword name (hrest ▸ List.mem_cons_self)).2
  · rw [ofColumns_info]
    exact ⟨_, fun w hw => hword w (List.mem_of_mem_drop hw), rfl⟩
  · rw [ofColumns_qualifiedName, ofColumns_info]
    intro hempty
    cases hrest : columns.rest with
    | nil => rfl
    | cons name remarks =>
      rw [hrest] at hempty
      have hname := hword name (hrest ▸ List.mem_cons_self)
      exact absurd (String.toList_eq_nil_iff.mpr hempty) hname.1
  · exact hparts

/-! ### Canonical symbols are read back -/

/-- The digits of a number are not taken for the letter of a kind. -/
theorem not_isLetter_of_spelled {n : Nat} {cs : List Char} (h : Spelled 10 n cs) :
    ¬ IsLetter (String.ofList cs) := by
  rintro ⟨c, halpha, hc⟩
  obtain rfl : cs = [c] := by simpa using congrArg String.toList hc
  obtain ⟨d, hd⟩ := h.digit_of_mem List.mem_cons_self
  have hdigit := Numeral.toNat_of_digit? hd
  have hletter := Text.toNat_of_isAlpha halpha
  omega

theorem readAddress_of_spelled {address : UInt64} {cs : List Char}
    (h : Spelled 16 address.toNat cs) (line : String) :
    readAddress line (some (String.ofList cs)) = .ok address := by
  have hread := h.readUnsigned (by decide) (Nat.le_of_lt_succ address.toNat_lt)
  unfold readAddress
  simp only [String.toList_ofList, hread, UInt64.ofNat_toNat]

theorem readSize_of_spelled {size : Int64} {cs : List Char} (hnonneg : 0 ≤ size.toInt)
    (hne : size.toInt ≠ unknownSize) (h : Spelled 10 size.toInt.toNat cs) (line : String) :
    readSize line (String.ofList cs) = .ok size := by
  have hlt := Int64.toInt_lt size
  have hread := h.readSigned (by decide) (by unfold Numeral.maxSigned; omega)
  rw [Int.toNat_of_nonneg hnonneg] at hread
  unfold readSize
  simp only [String.toList_ofList, hread]
  rw [if_neg hne, if_neg (by omega), Int64.ofInt_toInt]

namespace Canonical

variable {s : Symbol}

/-- A canonical symbol is made of its columns. -/
theorem ofColumns_eq (h : Canonical s) (address : UInt64) {remarks : List String}
    (hinfo : " ".intercalate remarks = s.info) :
    ofColumns address s.size (String.singleton s.code) s.qualifiedName remarks =
      { s with address } :=
  ofColumns_eq_iff.mpr ⟨rfl, rfl, rfl, rfl, hinfo.symm, h.parts⟩

/-- The words of the name and of the remarks give both back. -/
theorem words (h : Canonical s) : ∃ tail : List String,
    (Text.words s.qualifiedName.toList ++ Text.words s.info.toList).map String.ofList = tail ∧
      tail.getD 0 "" = s.qualifiedName ∧ " ".intercalate (tail.drop 1) = s.info := by
  by_cases hq : s.qualifiedName = ""
  · have hinfo := h.info_empty hq
    rw [hq, hinfo]
    exact ⟨[], rfl, rfl, rfl⟩
  · obtain ⟨remarks, hremarks, hinfo⟩ := h.info
    have hname : Text.words s.qualifiedName.toList = [s.qualifiedName.toList] :=
      Text.words_of_isWord ⟨fun hnil => hq (String.toList_eq_nil_iff.mp hnil), h.no_blank⟩
    have hwords : Text.words s.info.toList = remarks.map String.toList := by
      have hsep : " ".toList = [' '] := rfl
      rw [hinfo, String.toList_intercalate, hsep]
      apply Text.words_intercalate
      intro w hw
      obtain ⟨remark, hremark, rfl⟩ := List.mem_map.mp hw
      exact hremarks remark hremark
    refine ⟨s.qualifiedName :: remarks, ?_, rfl, hinfo.symm⟩
    rw [hname, hwords]
    simp

theorem isWord_code (h : Canonical s) : IsWord [s.code] := by
  refine ⟨List.cons_ne_nil _ _, fun c hc => ?_⟩
  have hletter := Text.toNat_of_isAlpha h.code
  rw [List.mem_singleton.mp hc]
  exact Text.isBlank_of_ascii (by omega) (by omega)

/-- The package and the local name are made of characters of the qualified name, and no package holds
an opening parenthesis. -/
theorem mem_qualifiedName (h : Canonical s) :
    (∀ c ∈ s.package.toList, c ∈ s.qualifiedName.toList ∧ c ≠ '(') ∧
      ∀ c ∈ s.name.toList, c ∈ s.qualifiedName.toList := by
  have hpackage : s.package = "/".intercalate (QualifiedName.parts s.qualifiedName).1 := by
    rw [← h.parts]
    rfl
  have hname : s.name = (QualifiedName.parts s.qualifiedName).2 := by rw [← h.parts]
  rw [hpackage, hname]
  rcases QualifiedName.parts_spec s.qualifiedName with ⟨hpath, hwhole⟩ |
    ⟨-, -, hopen, c, signature, -, hq, -⟩
  · rw [hpath, hwhole]
    exact ⟨fun c hc => (List.not_mem_nil hc).elim, fun c hc => hc⟩
  · have hchars := congrArg String.toList hq
    simp only [String.toList_append] at hchars
    constructor
    · intro d hd
      refine ⟨?_, fun he => hopen (he ▸ hd)⟩
      rw [hchars]
      exact List.mem_append_left _ (List.mem_append_left _ (List.mem_append_left _ hd))
    · intro d hd
      rw [hchars]
      exact List.mem_append_left _ (List.mem_append_right _ hd)

/-- A line with an address, and with blanks around its columns, is read. -/
theorem parse_withAddress (h : Canonical s) {address size : List Char} {line : String}
    (haddress : Spelled 16 s.address.toNat address) (hsize : Spelled 10 s.size.toInt.toNat size)
    (hline : Spaced [address, size, [s.code], s.qualifiedName.toList, s.info.toList] line.toList) :
    parse line = .ok s := by
  obtain ⟨tail, htail, hname, hinfo⟩ := h.words
  have hwords : wordsOf line = String.ofList address :: String.ofList size ::
      String.singleton s.code :: tail := by
    unfold wordsOf
    simp only [hline.words, List.flatMap_cons, List.flatMap_nil, List.append_nil,
      Text.words_of_isWord haddress.isWord, Text.words_of_isWord hsize.isWord,
      Text.words_of_isWord h.isWord_code, List.singleton_append, List.map_cons, htail]
    rfl
  have hcolumns : InColumns (wordsOf line)
      ⟨some (String.ofList address), String.ofList size, s.code, tail⟩ := by
    rw [hwords]
    exact .withAddress (not_isLetter_of_spelled hsize) h.code
  rw [parse_of_inColumns hcolumns]
  refine Columns.read_eq_ok.mpr ⟨s.address, s.size, readAddress_of_spelled haddress line,
    readSize_of_spelled h.size_nonneg h.size_ne hsize line, ?_⟩
  rw [hname, h.ofColumns_eq s.address hinfo]

/-- A line without an address is read, unless the name is missing as well. -/
theorem parse_noAddress (h : Canonical s) (hne : s.qualifiedName ≠ "") {size : List Char}
    {line : String} (hsize : Spelled 10 s.size.toInt.toNat size)
    (hline : Spaced [size, [s.code], s.qualifiedName.toList, s.info.toList] line.toList) :
    parse line = .ok { s with address := 0 } := by
  obtain ⟨tail, htail, hname, hinfo⟩ := h.words
  have hwords : wordsOf line = String.ofList size :: String.singleton s.code :: tail := by
    unfold wordsOf
    simp only [hline.words, List.flatMap_cons, List.flatMap_nil, List.append_nil,
      Text.words_of_isWord hsize.isWord, Text.words_of_isWord h.isWord_code,
      List.singleton_append, List.map_cons, htail]
    rfl
  have htail : tail ≠ [] := fun hnil => hne (by rw [← hname, hnil]; rfl)
  have hcolumns : InColumns (wordsOf line) ⟨none, String.ofList size, s.code, tail⟩ := by
    rw [hwords]
    exact .noAddress h.code htail
  rw [parse_of_inColumns hcolumns]
  refine Columns.read_eq_ok.mpr ⟨0, s.size, rfl,
    readSize_of_spelled h.size_nonneg h.size_ne hsize line, ?_⟩
  rw [hname, h.ofColumns_eq 0 hinfo]

theorem parse_print (h : Canonical s) : parse (print s) = .ok s := by
  apply h.parse_withAddress (Numeral.spelled_toDigits (by decide) (by decide) _)
    (Numeral.spelled_toDigits (by decide) (by decide) _)
  have hspaced := Text.spaced_intercalate [Nat.toDigits 16 s.address.toNat,
    Nat.toDigits 10 s.size.toInt.toNat, [s.code], s.qualifiedName.toList, s.info.toList]
  have hsep : " ".toList = [' '] := rfl
  have hprint : (print s).toList = [' '].intercalate [Nat.toDigits 16 s.address.toNat,
      Nat.toDigits 10 s.size.toInt.toNat, [s.code], s.qualifiedName.toList, s.info.toList] := by
    unfold print
    rw [String.toList_intercalate, hsep]
    simp
  rw [hprint]
  exact hspaced

end Canonical

/-- A symbol that is read is canonical.  A canonical symbol is read from each line that holds its
columns, the address and the size in digits of their values, and with blanks between them; a line
without an address gives it the address zero, unless it has no name either.  So a symbol that was
read is read again from the line it is printed on. -/
theorem parse_canonical :
    (∀ line s, parse line = .ok s → Canonical s) ∧
      (∀ s, Canonical s →
        (∀ address size line, Spelled 16 s.address.toNat address →
          Spelled 10 s.size.toInt.toNat size →
          Spaced [address, size, [s.code], s.qualifiedName.toList, s.info.toList] line.toList →
          parse line = .ok s) ∧
        (s.qualifiedName ≠ "" → ∀ size line, Spelled 10 s.size.toInt.toNat size →
          Spaced [size, [s.code], s.qualifiedName.toList, s.info.toList] line.toList →
          parse line = .ok { s with address := 0 })) ∧
      ∀ line s, parse line = .ok s → parse (print s) = .ok s := by
  refine ⟨fun line s h => canonical_of_parse h, fun s h => ⟨?_, ?_⟩, fun line s hparse => ?_⟩
  · exact fun address size line haddress hsize hline => h.parse_withAddress haddress hsize hline
  · exact fun hne size line hsize hline => h.parse_noAddress hne hsize hline
  · exact (canonical_of_parse hparse).parse_print

/-- Remarks that were read are joined by single spaces, and a symbol may be read again from a line
with other blanks, with more zeros before the address, or without an address. -/
theorem parse_canonical_remarks :
    ∃ s, parse "401000 16 T main.main\t/main.go:10   extra" = .ok s ∧
      s.info = "/main.go:10 extra" ∧
      parse "\u00A0\t00401000 16 T main.main /main.go:10 extra" = .ok s ∧
      parse "16 T main.main /main.go:10 extra" = .ok { s with address := 0 } ∧
      parse (print s) = .ok s := by
  obtain ⟨hcanonical, hline, hprint⟩ := parse_canonical
  have hparse : parse "401000 16 T main.main\t/main.go:10   extra" =
      .ok ⟨0x401000, 16, 'T', "main.main", "/main.go:10 extra", ["main"], "main"⟩ := by
    decide +kernel
  obtain ⟨haddress, hnone⟩ := hline _ (hcanonical _ _ hparse)
  have hcolumns := Text.spaced_intercalate
    ["16".toList, ['T'], "main.main".toList, "/main.go:10 extra".toList]
  have hset : "16 T main.main /main.go:10 extra".toList =
      [' '].intercalate ["16".toList, ['T'], "main.main".toList, "/main.go:10 extra".toList] := by
    decide +kernel
  have hblanks := ((Text.spaced_intercalate ["00401000".toList, "16".toList, ['T'],
    "main.main".toList, "/main.go:10 extra".toList]).blank (b := '\t') (by decide)).blank
      (b := '\u00A0') (by decide)
  have hset' : "\u00A0\t00401000 16 T main.main /main.go:10 extra".toList =
      '\u00A0' :: '\t' :: [' '].intercalate ["00401000".toList, "16".toList, ['T'],
        "main.main".toList, "/main.go:10 extra".toList] := by
    decide +kernel
  rw [← hset] at hcolumns
  rw [← hset'] at hblanks
  refine ⟨_, hparse, rfl, ?_, ?_, hprint _ _ hparse⟩
  · exact haddress "00401000".toList "16".toList _ (by decide +kernel) (by decide +kernel) hblanks
  · exact hnone (by decide) "16".toList _ (by decide +kernel) hcolumns

end PackageCensus.Symbol
