import Mathlib
import PackageCensus.Proofs.CommandLine.Weight
import PackageCensus.Proofs.Symbol.Printed
import PackageCensus.Proofs.Text.Column
import PackageCensus.Proofs.Text.Line

/-! # Reading listings back

The listings for people escape nothing and pad their columns with blanks.  They can be read back all the
same: what a symbol shows holds no blank (`solid_of_canonical`), so that its line is cut again at the
blanks (`readSymbol?_symbolLine`), also where the package or the local name is empty.  A row shows the
empty package under a name that no other package has, since none holds a parenthesis
(`displayName_eq_iff`, `readRow?_weightLine`).

In a listing of weights the rows follow the last line that announces them, whatever the path of the
binary may hold (`readRows_shown`). -/

namespace PackageCensus.CommandLine

open Attempt (outcome)
open Text (isBlank nextColumn number? not_mem_of_solid splitOnP_lines)

/-! ### Lines -/

/-- The lines of a text, and what stands after the last line feed. -/
def linesOf (text : String) : List (List Char) := text.toList.splitOnP (· == '\n')

theorem toList_textOf (ls : List String) :
    (textOf ls).toList = (ls.map String.toList).flatMap (· ++ ['\n']) := by
  rw [textOf, String.toList_join, List.flatMap_map, List.flatMap_map]
  exact List.flatMap_congr fun l _ => String.toList_append

/-- What is written line by line is read line by line. -/
theorem filterMap_written {α β γ : Type} {write : α → β} {read : β → Option γ} {shown : α → γ}
    {items : List α} (reads : ∀ a ∈ items, read (write a) = some (shown a)) :
    (items.map write).filterMap read = items.map shown := by
  calc (items.map write).filterMap read = items.filterMap (read ∘ write) := List.filterMap_map
    _ = items.filterMap (some ∘ shown) := List.filterMap_congr reads
    _ = items.map shown := congrFun List.filterMap_eq_map items

/-! ### Symbols -/

/-- What a listing shows of a symbol. -/
structure ShownSymbol where
  address : UInt64
  size : Int64
  code : Char
  package : String
  name : String
deriving DecidableEq

/-- What is shown of a symbol. -/
def ShownSymbol.ofSymbol (s : Symbol) : ShownSymbol :=
  ⟨s.address, s.size, s.code, s.package, s.name⟩

/-- Reads the line of a symbol: two numbers in columns, and then single blanks between the letter, the
package and the local name. -/
def readSymbol? (line : List Char) : Option ShownSymbol :=
  let (address, rest) := nextColumn line
  let (size, rest) := nextColumn rest
  match number? 16 address, number? 10 size, rest with
  | some address, some size, ' ' :: code :: ' ' :: rest =>
    some ⟨.ofNat address, .ofInt size, code, String.ofList (rest.takeWhile (· != ' ')),
      String.ofList ((rest.dropWhile (· != ' ')).drop 1)⟩
  | _, _, _ => none

/-- The symbols that a listing shows. -/
def readSymbols (text : String) : List ShownSymbol := (linesOf text).filterMap readSymbol?

theorem toList_symbolLine {s : Symbol} (nonneg : 0 ≤ s.size.toInt) : (symbolLine s).toList =
    Text.padLeft '0' 16 (Nat.toDigits 16 s.address.toNat) ++ ' ' ::
      (Text.padLeft ' ' 10 (Nat.toDigits 10 s.size.toInt.toNat) ++ ' ' :: s.code :: ' ' ::
        (s.package.toList ++ ' ' :: s.name.toList)) := by
  have blank : " ".toList = [' '] := rfl
  unfold symbolLine
  simp only [String.toList_append, String.toList_ofList, String.toList_singleton, blank,
    Text.toList_column nonneg, Text.hexDigits, List.append_assoc, List.cons_append, List.nil_append]

section Symbols

variable {s : Symbol} (h : s.Canonical)
include h

/-- What is shown of a symbol holds no blank. -/
theorem solid_of_canonical : isBlank s.code = false ∧
    (∀ c ∈ s.package.toList, isBlank c = false) ∧ ∀ c ∈ s.name.toList, isBlank c = false := by
  obtain ⟨package, name⟩ := h.mem_qualifiedName
  exact ⟨h.isWord_code.2 _ (.head _), fun c hc => h.no_blank c (package c hc).1,
    fun c hc => h.no_blank c (name c hc)⟩

/-- The line of a symbol is read back, whichever of its columns are empty or overfull. -/
theorem readSymbol?_symbolLine : readSymbol? (symbolLine s).toList = some (.ofSymbol s) := by
  have package := not_mem_of_solid (solid_of_canonical h).2.1 (rfl : isBlank ' ' = true)
  have first := Text.nextColumn_zeros (by decide : 2 ≤ 16) (by decide) s.address.toNat 16
  have second (rest : List Char) :
      nextColumn (' ' :: (Text.padLeft ' ' 10 (Nat.toDigits 10 s.size.toInt.toNat) ++ ' ' :: rest)) =
        (Nat.toDigits 10 s.size.toInt.toNat, ' ' :: rest) :=
    Text.nextColumn_number (by decide) (by decide) _ (List.forall_mem_singleton.mpr rfl) 10 rest
  have address := Text.number?_padLeft (by decide : 2 ≤ 16) (by decide) s.address.toNat 16
  have size := Text.number?_toDigits (by decide : 2 ≤ 10) (by decide) s.size.toInt.toNat
  rw [toList_symbolLine h.size_nonneg, readSymbol?]
  simp only [first, second, address, size, Text.takeWhile_solid package, Text.dropWhile_solid package,
    List.drop_succ_cons, List.drop_zero, String.ofList_toList, UInt64.ofNat_toNat,
    Int.toNat_of_nonneg h.size_nonneg, Int64.ofInt_toInt]
  rfl

/-- The line of a symbol does not go on beyond its line feed. -/
theorem not_mem_symbolLine : '\n' ∉ (symbolLine s).toList := by
  have feed : isBlank '\n' = true := rfl
  obtain ⟨solid, package, name⟩ := solid_of_canonical h
  have address := Text.not_mem_padLeft (by decide : 2 ≤ 16) (by decide) s.address.toNat feed
    (by decide : '\n' ≠ '0') 16
  have size := Text.not_mem_padLeft (by decide : 2 ≤ 10) (by decide) s.size.toInt.toNat feed
    (by decide : '\n' ≠ ' ') 10
  have code : '\n' ≠ s.code := fun he => by cases (he ▸ solid).symm.trans feed
  rw [toList_symbolLine h.size_nonneg]
  simp only [List.mem_append, List.mem_cons, not_or]
  exact ⟨address, by decide, size, by decide, code, by decide, not_mem_of_solid package feed,
    by decide, not_mem_of_solid name feed⟩

end Symbols

/-- A listing of symbols is read back. -/
theorem readSymbols_textOf {symbols : List Symbol} (canonical : ∀ s ∈ symbols, s.Canonical) :
    readSymbols (textOf (symbols.map symbolLine)) = symbols.map .ofSymbol := by
  have solid : ∀ l ∈ (symbols.map symbolLine).map String.toList, '\n' ∉ l := by
    simp only [List.map_map, List.forall_mem_map]
    exact fun s hs => not_mem_symbolLine (canonical s hs)
  have last : [[]].filterMap readSymbol? = [] := by decide
  rw [readSymbols, linesOf, toList_textOf, splitOnP_lines solid, List.filterMap_append, last,
    List.append_nil, List.map_map]
  exact filterMap_written fun s hs => readSymbol?_symbolLine (canonical s hs)

/-! ### Rows -/

/-- A row of symbols that were read. -/
structure SoundRow (row : PackageWeight) : Prop where
  size_nonneg : 0 ≤ row.size.toInt
  no_blank : ∀ c ∈ row.package.toList, isBlank c = false
  no_parenthesis : '(' ∉ row.package.toList

/-- Reads a row: two numbers in columns, and two blanks before the name. -/
def readRow? (line : List Char) : Option PackageWeight :=
  let (size, rest) := nextColumn line
  let (count, rest) := nextColumn rest
  let name := String.ofList (rest.drop 2)
  match number? 10 size, number? 10 count with
  | some size, some count =>
    some ⟨if name = PackageWeight.unattributed then "" else name, .ofInt size, count⟩
  | _, _ => none

/-- The line that announces the rows. -/
def announcement : String := "Packages:"

/-- The rows that a listing shows: those on the lines after the last announcement. -/
def readRows (text : String) : List PackageWeight :=
  ((linesOf text).rtakeWhile (· ≠ announcement.toList)).filterMap readRow?

theorem toList_weightLine {row : PackageWeight} (nonneg : 0 ≤ row.size.toInt) :
    (weightLine row).toList =
      Text.padLeft ' ' 12 (Nat.toDigits 10 row.size.toInt.toNat) ++ ' ' ::
        (Text.padLeft ' ' 8 (Nat.toDigits 10 row.symbols) ++ ' ' :: ' ' ::
          row.displayName.toList) := by
  have blank : " ".toList = [' '] := rfl
  have blanks : "  ".toList = [' ', ' '] := rfl
  have count : (0 : Int) ≤ row.symbols := Int.natCast_nonneg _
  unfold weightLine
  simp only [String.toList_append, blank, blanks, Text.toList_column nonneg, Text.toList_column count,
    Int.toNat_natCast, List.append_assoc, List.cons_append, List.nil_append]

section Rows

variable {row : PackageWeight} (h : SoundRow row)
include h

/-- No package but the empty one is shown under the name of the empty one. -/
theorem displayName_eq_iff : row.displayName = PackageWeight.unattributed ↔ row.package = "" := by
  unfold PackageWeight.displayName
  split
  · next empty => simpa using empty
  · next named =>
    have parenthesis : '(' ∈ PackageWeight.unattributed.toList := by decide
    refine iff_of_false (fun he => h.no_parenthesis (he ▸ parenthesis)) fun he => named ?_
    rw [he]
    rfl

/-- The name under which a row is shown tells its package. -/
theorem package_of_displayName :
    (if row.displayName = PackageWeight.unattributed then "" else row.displayName) =
      row.package := by
  split
  · next shown => exact ((displayName_eq_iff h).mp shown).symm
  · next shown =>
    have named : ¬ row.package.isEmpty = true := fun he =>
      shown ((displayName_eq_iff h).mpr (by simpa using he))
    rw [PackageWeight.displayName, if_neg named]

theorem readRow?_weightLine : readRow? (weightLine row).toList = some row := by
  have first (rest : List Char) :
      nextColumn (Text.padLeft ' ' 12 (Nat.toDigits 10 row.size.toInt.toNat) ++ ' ' :: rest) =
        (Nat.toDigits 10 row.size.toInt.toNat, ' ' :: rest) :=
    Text.nextColumn_number (by decide) (by decide) _ (List.forall_mem_nil (· = ' ')) 12 rest
  have second (rest : List Char) :
      nextColumn (' ' :: (Text.padLeft ' ' 8 (Nat.toDigits 10 row.symbols) ++ ' ' :: rest)) =
        (Nat.toDigits 10 row.symbols, ' ' :: rest) :=
    Text.nextColumn_number (by decide) (by decide) _ (List.forall_mem_singleton.mpr rfl) 8 rest
  have number (n : Nat) := Text.number?_toDigits (by decide : 2 ≤ 10) (by decide) n
  rw [toList_weightLine h.size_nonneg, readRow?]
  simp only [first, second, number, List.drop_succ_cons, List.drop_zero, String.ofList_toList,
    package_of_displayName h, Int.toNat_of_nonneg h.size_nonneg, Int64.ofInt_toInt]

/-- The line of a row does not go on beyond its line feed. -/
theorem not_mem_weightLine : '\n' ∉ (weightLine row).toList := by
  have feed : isBlank '\n' = true := rfl
  have number (width n : Nat) := Text.not_mem_padLeft (by decide : 2 ≤ 10) (by decide) n feed
    (by decide : '\n' ≠ ' ') width
  have name : '\n' ∉ row.displayName.toList := by
    unfold PackageWeight.displayName
    split
    · decide
    · exact not_mem_of_solid h.no_blank feed
  rw [toList_weightLine h.size_nonneg]
  simp only [List.mem_append, List.mem_cons, not_or]
  exact ⟨number 12 _, by decide, number 8 _, by decide, by decide, name⟩

end Rows

theorem rtakeWhile_append_cons {α : Type} {p : α → Bool} {front back : List α} {stop : α}
    (hstop : p stop = false) (hback : ∀ a ∈ back, p a = true) :
    (front ++ stop :: back).rtakeWhile p = back := by
  rw [List.rtakeWhile, List.reverse_append, List.reverse_cons, List.append_assoc,
    List.takeWhile_append_of_pos fun a ha => hback a (List.mem_reverse.mp ha),
    List.singleton_append, List.takeWhile_cons_of_neg (by simp [hstop]), List.append_nil,
    List.reverse_reverse]

/-- The lines after the last announcement in a listing, whatever stands before the line with the sum. -/
theorem rowLines_textOf (front : List String) (sum : String) (ls : List String)
    (solid : ∀ l ∈ ls, '\n' ∉ l.toList) (other : ∀ l ∈ ls, l ≠ announcement) :
    (linesOf (textOf (front ++ [sum, announcement] ++ ls))).rtakeWhile (· ≠ announcement.toList) =
      ls.map String.toList ++ [[]] := by
  have solid : ∀ l ∈ (announcement :: ls).map String.toList, '\n' ∉ l := by
    simp only [List.forall_mem_map, List.forall_mem_cons]
    exact ⟨by decide, solid⟩
  have other : ∀ l ∈ ls.map String.toList ++ [[]], decide (l ≠ announcement.toList) = true := by
    simp only [List.forall_mem_append, List.forall_mem_map, List.forall_mem_singleton,
      decide_eq_true_eq]
    exact ⟨fun l hl he => other l hl (String.toList_inj.mp he), by decide⟩
  have parted : (textOf (front ++ [sum, announcement] ++ ls)).toList =
      (textOf front).toList ++ sum.toList ++ '\n' ::
        ((announcement :: ls).map String.toList).flatMap (· ++ ['\n']) := by
    simp [toList_textOf]
  rw [linesOf, parted, List.splitOnP_append_cons _ _ (by rfl), splitOnP_lines solid, List.map_cons,
    List.cons_append]
  exact rtakeWhile_append_cons (by simp) other

/-- Rows are read back from the lines after their announcement. -/
theorem readRows_textOf (front : List String) (sum : String) {rows : List PackageWeight}
    (sound : ∀ row ∈ rows, SoundRow row) :
    readRows (textOf (front ++ [sum, announcement] ++ rows.map weightLine)) = rows := by
  have solid : ∀ l ∈ rows.map weightLine, '\n' ∉ l.toList :=
    List.forall_mem_map.mpr fun row hrow => not_mem_weightLine (sound row hrow)
  have other : ∀ l ∈ rows.map weightLine, l ≠ announcement := by
    have announced : readRow? announcement.toList = none := by decide
    refine List.forall_mem_map.mpr fun row hrow he => ?_
    have read := readRow?_weightLine (sound row hrow)
    rw [he, announced] at read
    cases read
  have last : [[]].filterMap readRow? = [] := by decide
  rw [readRows, rowLines_textOf front sum _ solid other, List.filterMap_append, last, List.append_nil,
    List.map_map]
  refine (filterMap_written fun row hrow => readRow?_weightLine (sound row hrow)).trans ?_
  exact List.map_id rows

/-- A listing of weights is read back, also one without rows, which has a line in their place. -/
theorem readRows_shown (front : List String) (sum : Int64) {rows : List PackageWeight}
    (sound : ∀ row ∈ rows, SoundRow row) (members : List (String × Json.Value)) :
    readRows (shown false front members sum rows) = rows := by
  rw [shown, if_neg Bool.false_ne_true]
  split
  · next empty =>
    have lines := rowLines_textOf front ("Total size: " ++ toString sum.toInt) ["(none)"]
      (by decide) (by decide)
    rw [empty, readRows]
    exact (congrArg (List.filterMap readRow?) lines).trans (by decide)
  · exact readRows_textOf front _ sound

/-! ### What is listed -/

variable {h : Host} {c : Config} {env : Environment}

theorem canonical_of_symbols {source : Source} {kept : List Symbol}
    (ok : SymbolTable.symbols source = .ok kept) : ∀ s ∈ kept, s.Canonical := by
  intro s hs
  obtain ⟨line, parsed⟩ := SymbolTable.parsed_of_symbols ok hs
  exact Symbol.canonical_of_parse parsed

theorem canonical_of_symbolsOf {binary : String} {kept : List Symbol}
    (ok : outcome h (symbolsOf binary c env) = .ok kept) : ∀ s ∈ kept, s.Canonical := by
  obtain ⟨-, source, -, symbols⟩ := symbolsOf_eq_ok.mp ok
  exact canonical_of_symbols symbols

/-- The rows of a full report have names of packages and sizes that are not negative. -/
theorem soundRow_of_fullReport {a : WeightArguments} {full : WeightReport}
    (ok : outcome h (fullReport a c env) = .ok full) : ∀ row ∈ full.packages, SoundRow row := by
  obtain ⟨source, kept, _, rows, -, symbols, -, accounts, rfl⟩ := rows_account ok
  intro row (hrow : row ∈ rows)
  have nonneg := Weight.exactSize_nonneg
    (Weight.ownedBy_nonneg (size_nonneg_of_symbols symbols) row.package)
  obtain ⟨-, s, hs, package⟩ := (accounts.mem_iff row.package).mp (List.mem_map_of_mem hrow)
  have canonical := canonical_of_symbols symbols s hs
  constructor
  · rw [accounts.size_eq row hrow]
    exact le_min (by decide) nonneg
  · exact package ▸ (solid_of_canonical canonical).2.1
  · exact package ▸ fun opened => (canonical.mem_qualifiedName.1 _ opened).2 rfl

theorem listed_subset (limit : Option UInt64) (rows : List PackageWeight) :
    listed limit rows ⊆ rows := by
  cases limit with
  | none => exact List.Subset.refl rows
  | some n => exact List.take_subset _ _

theorem symbolsCommand_listing {a : SymbolsArguments} {kept : List Symbol}
    (ok : outcome h (symbolsOf a.binary c env) = .ok kept) (listing : a.json = false) :
    outcome h (symbolsCommand a c env) =
      .ok (textOf ((kept.filter fun s => a.package.all (s.package = ·)).map symbolLine)) := by
  simp only [symbolsCommand, Attempt.outcome_bind, ok, listing]
  rfl

/-- A listing of symbols tells of each symbol in it the address, the size, the letter, the package and
the local name, and a listing of weights tells of each row the package, the size and the number of
symbols, for every table that is read and all options.  What a symbol shows holds no blank, a number
stands in its column with all its digits, and of all rows only that of the empty package is shown under
the name that stands for it. -/
theorem listings_read_back (h : Host) (c : Config) (env : Environment) :
    (∀ source kept, SymbolTable.symbols source = .ok kept → ∀ s ∈ kept,
      isBlank s.code = false ∧ (∀ b ∈ s.package.toList, isBlank b = false) ∧
        (∀ b ∈ s.name.toList, isBlank b = false) ∧
        readSymbol? (symbolLine s).toList = some (.ofSymbol s)) ∧
    (∀ width n, (toString n).toList <:+ (Text.column width n).toList) ∧
    (∀ (a : SymbolsArguments) kept, a.json = false →
      outcome h (symbolsOf a.binary c env) = .ok kept →
      ∃ text, outcome h (symbolsCommand a c env) = .ok text ∧
        readSymbols text = (kept.filter fun s => a.package.all (s.package = ·)).map .ofSymbol) ∧
    ∀ (a : WeightArguments) full, a.json = false → outcome h (fullReport a c env) = .ok full →
      ∃ text, outcome h (weightCommand a c env) = .ok text ∧
        readRows text = listed (a.limit <|> c.weight.limit) full.packages ∧
        ∀ row ∈ full.packages,
          row.displayName = PackageWeight.unattributed ↔ row.package = "" := by
  refine ⟨fun source kept ok s hs => ?_, fun width n => ?_, fun a kept listing ok => ?_,
    fun a full listing ok => ?_⟩
  · have canonical := canonical_of_symbols ok s hs
    obtain ⟨code, package, name⟩ := solid_of_canonical canonical
    exact ⟨code, package, name, readSymbol?_symbolLine canonical⟩
  · rw [Text.column, String.toList_ofList]
    exact List.suffix_append _ _
  · refine ⟨_, symbolsCommand_listing ok listing, readSymbols_textOf fun s hs => ?_⟩
    exact canonical_of_symbolsOf ok s (List.mem_of_mem_filter hs)
  · have sound := soundRow_of_fullReport ok
    refine ⟨_, weightCommand_eq_ok.mpr ⟨full, ok, rfl⟩, ?_, fun row hrow =>
      displayName_eq_iff (sound row hrow)⟩
    rw [weightText_eq, listing]
    refine readRows_shown _ _ (fun row hrow => sound row ?_) _
    exact listed_subset _ _ hrow

/-- A symbol without a package, and one without a local name whose size is wider than each column. -/
theorem listings_read_back_wide :
    let table : Source := ⟨Text.encode "5 T main\n9999999999999 D a.\n".toList, none⟩
    let h : Host := ⟨fun
      | .isFile _ => true
      | .file _ => .ok table
      | .process _ => .error .notFound
      | .time => "now"⟩
    let env : Environment := { substituteTable? := some "t" }
    (∃ text, outcome h (symbolsCommand ⟨"x", none, false⟩ {} env) = .ok text ∧
      readSymbols text = [⟨0, 5, 'T', "", "main"⟩, ⟨0, 9999999999999, 'D', "a", ""⟩]) ∧
    ∃ text, outcome h (weightCommand ⟨"x", false, none, none, false, true⟩ {} env) = .ok text ∧
      readRows text = [⟨"a", 9999999999999, 1⟩, ⟨"", 5, 1⟩] := by
  intro table h env
  let b : Symbol := ⟨0, 5, 'T', "main", "", [], "main"⟩
  let c : Symbol := ⟨0, 9999999999999, 'D', "a.", "", ["a"], ""⟩
  have parsed : SymbolTable.symbols table = .ok [b, c] := by
    rw [SymbolTable.symbols_eq, SymbolTable.judgeFrom_eq_ok]
    exact ⟨[b, c], rfl, by cbv⟩
  have read : outcome h (symbolsOf "x" {} env) = .ok [b, c] :=
    symbolsOf_eq_ok.mpr ⟨rfl, table, .substitute rfl rfl, parsed⟩
  have report := fullReport_eq_ok (a := ⟨"x", false, none, none, false, true⟩).mpr
    ⟨_, none, none, read, rfl, rfl, rfl⟩
  obtain ⟨-, -, symbols, weights⟩ := listings_read_back h {} env
  obtain ⟨text, shown, listing⟩ := symbols ⟨"x", none, false⟩ _ rfl read
  obtain ⟨text', shown', listing', -⟩ := weights _ _ rfl report
  refine ⟨⟨text, shown, listing⟩, text', shown', listing'.trans ?_⟩
  cbv

end PackageCensus.CommandLine
