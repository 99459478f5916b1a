import Mathlib
import PackageCensus.Proofs.Except
import PackageCensus.Proofs.Text.Utf8
import PackageCensus.Symbol.Table

/-! # Tables line by line

A stream can be cut after every line feed in one way only (`cut_iff`), into its `pieces`, and to
read it is to judge these one after the other: `judgeFrom` does so by recursion on them, and
`readFrom_symbols` says that this is what the reading of a stream that ends comes to.

The symbols of a table are those of its lines if all of them parse (`judgeFrom_eq_ok`), and
otherwise the first line that does not is the error (`judgeFrom_eq_error`).  Behind a line feed a
table may be cut in two (`pieces_append`, `judgeFrom_append`).

What a piece says is told without the functions that read it: it is `Stripped` of its ending, in
one of four ways (`stripped_iff`), and what is left decodes to the text (`lineOf_iff`).  So a table
has its `Lines`, and no others (`lines_iff`). -/

namespace PackageCensus.SymbolTable

/-! ### Pieces -/

/-- The octets cut after every line feed. -/
def pieces : List UInt8 → List (List UInt8)
  | [] => []
  | b :: rest =>
    if b = lineFeed then [b] :: pieces rest
    else match pieces rest with
      | [] => [[b]]
      | piece :: more => (b :: piece) :: more

/-- A way to cut octets after every line feed: what stands behind the last one is a piece unless
it is empty. -/
inductive Cut : List UInt8 → List (List UInt8) → Prop
  | nil : Cut [] []
  | tail {line : List UInt8} : lineFeed ∉ line → line ≠ [] → Cut line [line]
  | line {line rest : List UInt8} {more : List (List UInt8)} : lineFeed ∉ line → Cut rest more →
    Cut (line ++ lineFeed :: rest) ((line ++ [lineFeed]) :: more)

theorem pieces_feed (rest : List UInt8) :
    pieces (lineFeed :: rest) = [lineFeed] :: pieces rest := by
  rw [pieces, if_pos rfl]

theorem pieces_cons {b : UInt8} (hb : b ≠ lineFeed) {rest piece : List UInt8}
    {more : List (List UInt8)} (h : pieces rest = piece :: more) :
    pieces (b :: rest) = (b :: piece) :: more := by
  rw [pieces, if_neg hb, h]

theorem pieces_eq_nil {octets : List UInt8} : pieces octets = [] ↔ octets = [] := by
  cases octets with
  | nil => simp [pieces]
  | cons b rest =>
    simp only [reduceCtorEq, iff_false]
    unfold pieces
    split
    · simp
    · split <;> simp

/-- Up to its first line feed a text is one piece. -/
theorem pieces_line {line : List UInt8} (h : lineFeed ∉ line) (rest : List UInt8) :
    pieces (line ++ lineFeed :: rest) = (line ++ [lineFeed]) :: pieces rest := by
  induction line with
  | nil => exact pieces_feed rest
  | cons b line ih =>
    simp only [List.mem_cons, not_or] at h
    exact pieces_cons (Ne.symm h.1) (ih h.2)

/-- Without a line feed a text is one piece. -/
theorem pieces_tail {line : List UInt8} (h : lineFeed ∉ line) (hne : line ≠ []) :
    pieces line = [line] := by
  induction line with
  | nil => exact absurd rfl hne
  | cons b line ih =>
    simp only [List.mem_cons, not_or] at h
    by_cases hline : line = []
    · rw [hline, pieces, if_neg (Ne.symm h.1)]
      rfl
    · exact pieces_cons (Ne.symm h.1) (ih h.2 hline)

theorem cut_pieces (octets : List UInt8) : Cut octets (pieces octets) := by
  induction octets with
  | nil => exact .nil
  | cons b rest ih =>
    by_cases hb : b = lineFeed
    · rw [hb, pieces_feed]
      exact @Cut.line [] _ _ (by simp) ih
    · cases hp : pieces rest with
      | nil =>
        rw [pieces_eq_nil.mp hp, pieces, if_neg hb]
        exact .tail (by simpa using Ne.symm hb) (by simp)
      | cons piece more =>
        rw [hp] at ih
        rw [pieces_cons hb hp]
        cases ih with
        | tail hline hne => exact .tail (by simp [Ne.symm hb, hline]) (by simp)
        | line hline hmore => exact @Cut.line (b :: _) _ _ (by simp [Ne.symm hb, hline]) hmore

/-- There is one way to cut octets after every line feed. -/
theorem cut_iff {octets : List UInt8} {cut : List (List UInt8)} :
    Cut octets cut ↔ cut = pieces octets := by
  refine ⟨fun h => ?_, fun h => h ▸ cut_pieces octets⟩
  induction h with
  | nil => rfl
  | tail hline hne => rw [pieces_tail hline hne]
  | line hline _ ih => rw [pieces_line hline, ih]

/-- Behind a line feed no piece goes on. -/
theorem pieces_append {a : List UInt8} (ha : a = [] ∨ a.getLast? = some lineFeed)
    (b : List UInt8) : pieces (a ++ b) = pieces a ++ pieces b := by
  induction a with
  | nil => rfl
  | cons c rest ih =>
    have hlast : (c :: rest).getLast? = some lineFeed := by simpa using ha
    have hrest : rest = [] ∧ c = lineFeed ∨ rest.getLast? = some lineFeed := by
      cases rest with
      | nil => exact .inl ⟨rfl, by simpa using hlast⟩
      | cons d rest => exact .inr (by simpa using hlast)
    by_cases hc : c = lineFeed
    · rw [hc, List.cons_append, pieces_feed, pieces_feed, ih (hrest.imp_left And.left)]
      rfl
    · have hlast : rest.getLast? = some lineFeed := hrest.resolve_left fun h => hc h.2
      have hne : pieces rest ≠ [] := fun hnil => by
        rw [pieces_eq_nil.mp hnil] at hlast
        cases hlast
      obtain ⟨piece, more, hp⟩ := List.exists_cons_of_ne_nil hne
      have happend := ih (.inr hlast)
      rw [hp] at happend
      rw [List.cons_append, pieces_cons hc happend, pieces_cons hc hp]
      rfl

/-! ### Reading by pieces -/

theorem nextPiece_cons {b : UInt8} (hb : b ≠ lineFeed) (rest : List UInt8) :
    nextPiece (b :: rest) = (b :: (nextPiece rest).1, (nextPiece rest).2) := by
  rw [nextPiece, if_neg hb]

theorem pieces_nextPiece (b : UInt8) (rest : List UInt8) : pieces (b :: rest) =
    (nextPiece (b :: rest)).1 :: pieces (nextPiece (b :: rest)).2 := by
  induction rest generalizing b with
  | nil => by_cases hb : b = lineFeed <;> simp [pieces, nextPiece, hb]
  | cons c rest ih =>
    by_cases hb : b = lineFeed
    · rw [hb, pieces_feed]
      rfl
    · rw [pieces_cons hb (ih c), nextPiece_cons hb]

theorem pieces_of_nextPiece_nil {octets rest : List UInt8} (h : nextPiece octets = ([], rest)) :
    pieces octets = [] := by
  cases octets with
  | nil => rfl
  | cons b octets =>
    unfold nextPiece at h
    split at h <;> simp at h

theorem pieces_of_nextPiece {octets piece rest : List UInt8} {b : UInt8}
    (h : nextPiece octets = (b :: piece, rest)) :
    pieces octets = (b :: piece) :: pieces rest := by
  cases octets with
  | nil => simp [nextPiece] at h
  | cons c octets => rw [pieces_nextPiece, h]

/-- Whether a symbol that was read stays in the table. -/
def isKept (s : Symbol) : Bool := ! s.qualifiedName.isEmpty && ! s.isSynthetic

/-- The symbols on some lines, the first of which has the given number. -/
def judgeFrom (rule : List UInt8 → Except LineError Symbol) (number : Nat) :
    List (List UInt8) → Except TableError (List Symbol)
  | [] => .ok []
  | piece :: more =>
    match rule piece with
    | .error e => .error (.malformedLine number e)
    | .ok s => (judgeFrom rule (number + 1) more).map fun kept => [s].filter isKept ++ kept

variable {rule : List UInt8 → Except LineError Symbol}

theorem Reading.symbols_add (s : Symbol) (r : Reading) :
    (r.add s).symbols = r.symbols.map fun kept => [s].filter isKept ++ kept := by
  unfold Reading.add Reading.symbols
  by_cases hname : s.qualifiedName.isEmpty = true
  · cases r.error <;> simp [hname, isKept, Except.map]
  · by_cases hsyn : s.isSynthetic = true
    · cases r.error <;> simp [hname, hsyn, isKept, Except.map]
    · cases r.error <;> simp [hname, hsyn, isKept, Except.map]

/-- To read a stream that ends is to judge its pieces. -/
theorem readFrom_symbols (number : Nat) (octets : List UInt8) :
    (readFrom rule none number octets).symbols = judgeFrom rule number (pieces octets) := by
  fun_induction readFrom rule none number octets with
  | case1 number octets rest next =>
    rw [pieces_of_nextPiece_nil next]
    rfl
  | case2 number octets b piece rest next broken => simp at broken
  | case3 number octets b piece rest next whole shorter e answer =>
    rw [pieces_of_nextPiece next, judgeFrom, answer]
    rfl
  | case4 number octets b piece rest next whole shorter s answer ih =>
    rw [pieces_of_nextPiece next, judgeFrom, answer, Reading.symbols_add, ih]

theorem symbols_eq (octets : List UInt8) :
    symbols ⟨octets, none⟩ = judgeFrom judge 1 (pieces octets) := readFrom_symbols 1 octets

/-- Every symbol kept was read from a line and is one to be kept, also where a stream breaks off. -/
theorem rule_of_mem_kept {failure : Option AccessError} {number : Nat} {octets : List UInt8}
    {s : Symbol} (h : s ∈ (readFrom rule failure number octets).kept) :
    ∃ piece, rule piece = .ok s ∧ isKept s = true := by
  fun_induction readFrom rule failure number octets with
  | case1 | case2 | case3 => cases h
  | case4 number octets b piece rest next whole shorter t answer ih =>
    unfold Reading.add at h
    split at h
    · exact ih h
    · next named =>
      split at h
      · exact ih h
      · next own =>
        rcases List.mem_cons.mp h with rfl | h
        · exact ⟨_, answer, by simp [isKept, named, own]⟩
        · exact ih h

theorem kept_of_symbols {source : Source} {kept : List Symbol} (h : symbols source = .ok kept)
    {s : Symbol} (hs : s ∈ kept) : ∃ line, Symbol.parse line = .ok s ∧ isKept s = true := by
  unfold symbols Reading.symbols at h
  split at h
  · cases h
  · cases h
    obtain ⟨piece, answer, stays⟩ := rule_of_mem_kept hs
    exact ⟨lineText piece, answer, stays⟩

theorem parsed_of_symbols {source : Source} {kept : List Symbol} (h : symbols source = .ok kept)
    {s : Symbol} (hs : s ∈ kept) : ∃ line, Symbol.parse line = .ok s := by
  obtain ⟨line, parsed, -⟩ := kept_of_symbols h hs
  exact ⟨line, parsed⟩

/-! ### Lines that parse and lines that do not -/

theorem judgeFrom_eq_ok {number : Nat} {lines : List (List UInt8)} {kept : List Symbol} :
    judgeFrom rule number lines = .ok kept ↔
      ∃ parsed : List Symbol, lines.map rule = parsed.map .ok ∧ kept = parsed.filter isKept := by
  induction lines generalizing number kept with
  | nil =>
    simp only [judgeFrom, List.map_nil, Except.ok.injEq]
    constructor
    · rintro rfl
      exact ⟨[], rfl, rfl⟩
    · rintro ⟨parsed, hp, rfl⟩
      rw [List.map_eq_nil_iff.mp hp.symm]
      rfl
  | cons piece more ih =>
    rw [judgeFrom, List.map_cons]
    cases answer : rule piece with
    | error e =>
      simp only [reduceCtorEq, false_iff, not_exists, not_and]
      intro parsed hp
      cases parsed <;> simp at hp
    | ok s =>
      simp only [map_eq_ok]
      constructor
      · rintro ⟨rest, hrest, rfl⟩
        obtain ⟨parsed, hp, rfl⟩ := ih.mp hrest
        exact ⟨s :: parsed, by rw [hp, List.map_cons], (List.filter_append [s] parsed).symm⟩
      · rintro ⟨parsed, hp, rfl⟩
        cases parsed with
        | nil => simp at hp
        | cons t parsed =>
          simp only [List.map_cons, List.cons.injEq, Except.ok.injEq] at hp
          obtain ⟨rfl, hp⟩ := hp
          exact ⟨_, ih.mpr ⟨parsed, hp, rfl⟩, (List.filter_append [s] parsed).symm⟩

/-- The first line that does not parse is the error. -/
theorem judgeFrom_eq_error {number : Nat} {lines : List (List UInt8)} {err : TableError} :
    judgeFrom rule number lines = .error err ↔
      ∃ i e, (lines.map rule)[i]? = some (.error e) ∧
        (∀ j < i, ∃ s, (lines.map rule)[j]? = some (.ok s)) ∧
        err = .malformedLine (number + i) e := by
  induction lines generalizing number err with
  | nil => simp [judgeFrom]
  | cons piece more ih =>
    rw [judgeFrom, List.map_cons]
    cases answer : rule piece with
    | error e =>
      constructor
      · rintro ⟨⟩
        exact ⟨0, e, rfl, by simp, rfl⟩
      · rintro ⟨i, e', hi, hbefore, rfl⟩
        cases i with
        | zero =>
          cases hi
          rfl
        | succ i =>
          obtain ⟨s, hs⟩ := hbefore 0 (Nat.succ_pos i)
          cases hs
    | ok s =>
      simp only [map_eq_error, ih]
      constructor
      · rintro ⟨i, e, hi, hbefore, rfl⟩
        refine ⟨i + 1, e, hi, fun j hj => ?_, by rw [Nat.add_assoc, Nat.add_comm 1 i]⟩
        cases j with
        | zero => exact ⟨s, rfl⟩
        | succ j => exact hbefore j (by omega)
      · rintro ⟨i, e, hi, hbefore, rfl⟩
        cases i with
        | zero => cases hi
        | succ i =>
          exact ⟨i, e, hi, fun j hj => hbefore (j + 1) (by omega),
            by rw [Nat.add_assoc, Nat.add_comm 1 i]⟩

/-! ### Tables cut in two -/

/-- An error with so many lines before its table. -/
def TableError.shift (lines : Nat) : TableError → TableError
  | malformedLine number e => malformedLine (lines + number) e
  | stream failure => stream failure

@[simp] theorem TableError.shift_zero (e : TableError) : e.shift 0 = e := by
  cases e <;> simp [shift]

theorem TableError.shift_shift (m n : Nat) (e : TableError) :
    (e.shift m).shift n = e.shift (n + m) := by
  cases e <;> simp [shift, Nat.add_assoc]

theorem judgeFrom_shift (lines number : Nat) (more : List (List UInt8)) :
    judgeFrom rule (lines + number) more =
      (judgeFrom rule number more).mapError (.shift lines) := by
  induction more generalizing number with
  | nil => rfl
  | cons piece more ih =>
    rw [judgeFrom, judgeFrom]
    cases rule piece with
    | error e => rfl
    | ok s =>
      rw [Nat.add_assoc, ih]
      cases judgeFrom rule (number + 1) more <;> rfl

/-- The table of some lines and then others. -/
def append (lines : Nat) (first second : Except TableError (List Symbol)) :
    Except TableError (List Symbol) :=
  match first, second with
  | .error e, _ => .error e
  | .ok _, .error e => .error (e.shift lines)
  | .ok kept, .ok more => .ok (kept ++ more)

theorem judgeFrom_append (lines more : List (List UInt8)) (number : Nat) :
    judgeFrom rule number (lines ++ more) =
      append lines.length (judgeFrom rule number lines) (judgeFrom rule number more) := by
  induction lines generalizing number with
  | nil => cases h : judgeFrom rule number more <;> simp [judgeFrom, append, h]
  | cons piece lines ih =>
    rw [List.cons_append, judgeFrom, judgeFrom]
    cases rule piece with
    | error e => rfl
    | ok s =>
      have hshift : judgeFrom rule (number + 1) more =
          (judgeFrom rule number more).mapError (.shift 1) := by
        rw [Nat.add_comm]
        exact judgeFrom_shift 1 number more
      simp only [ih, hshift]
      cases judgeFrom rule (number + 1) lines with
      | error e => rfl
      | ok kept =>
        cases judgeFrom rule number more with
        | error e =>
          show Except.error ((e.shift 1).shift lines.length) = _
          rw [TableError.shift_shift]
          rfl
        | ok rest =>
          show Except.ok ([s].filter isKept ++ (kept ++ rest)) = _
          rw [← List.append_assoc]
          rfl

/-! ### The text of a line -/

/-- The octets of a line without its ending, which is a line feed, a carriage return and a line
feed, or at the end of a table a carriage return or nothing.  Of several returns one is dropped. -/
inductive Stripped : List UInt8 → List UInt8 → Prop
  | feed {line : List UInt8} : line.getLast? ≠ some carriageReturn →
    Stripped (line ++ [lineFeed]) line
  | returnFeed (line : List UInt8) : Stripped (line ++ [carriageReturn, lineFeed]) line
  | returnOnly (line : List UInt8) : Stripped (line ++ [carriageReturn]) line
  | neither {line : List UInt8} : line.getLast? ≠ some carriageReturn →
    line.getLast? ≠ some lineFeed → Stripped line line

theorem dropEnd_concat (b : UInt8) (line : List UInt8) : dropEnd b (line ++ [b]) = line := by
  rw [dropEnd, List.getLast?_concat, if_pos rfl, List.dropLast_concat]

theorem dropEnd_of_ne {b : UInt8} {line : List UInt8} (h : line.getLast? ≠ some b) :
    dropEnd b line = line := if_neg h

theorem stripped_dropEnd (piece : List UInt8) :
    Stripped piece (dropEnd carriageReturn (dropEnd lineFeed piece)) := by
  by_cases hfeed : piece.getLast? = some lineFeed
  · obtain ⟨front, rfl⟩ := List.getLast?_eq_some_iff.mp hfeed
    rw [dropEnd_concat]
    by_cases hreturn : front.getLast? = some carriageReturn
    · obtain ⟨line, rfl⟩ := List.getLast?_eq_some_iff.mp hreturn
      rw [dropEnd_concat, List.append_assoc]
      exact .returnFeed line
    · rw [dropEnd_of_ne hreturn]
      exact .feed hreturn
  · rw [dropEnd_of_ne hfeed]
    by_cases hreturn : piece.getLast? = some carriageReturn
    · obtain ⟨line, rfl⟩ := List.getLast?_eq_some_iff.mp hreturn
      rw [dropEnd_concat]
      exact .returnOnly line
    · rw [dropEnd_of_ne hreturn]
      exact .neither hreturn hfeed

/-- The end of a line can be dropped in one way only. -/
theorem stripped_iff {piece line : List UInt8} :
    Stripped piece line ↔ line = dropEnd carriageReturn (dropEnd lineFeed piece) := by
  refine ⟨fun h => ?_, fun h => h ▸ stripped_dropEnd piece⟩
  cases h with
  | feed hreturn => rw [dropEnd_concat, dropEnd_of_ne hreturn]
  | returnFeed =>
    have two : line ++ [carriageReturn, lineFeed] = line ++ [carriageReturn] ++ [lineFeed] := by
      rw [List.append_assoc, List.singleton_append]
    rw [two, dropEnd_concat, dropEnd_concat]
  | returnOnly =>
    have hfeed : (line ++ [carriageReturn]).getLast? ≠ some lineFeed := by
      rw [List.getLast?_concat]
      decide
    rw [dropEnd_of_ne hfeed, dropEnd_concat]
  | neither hreturn hfeed => rw [dropEnd_of_ne hfeed, dropEnd_of_ne hreturn]

/-- What is written on a line: the items of its octets without the ending, an ill-formed run as the
replacement character. -/
def LineOf (piece : List UInt8) (text : String) : Prop :=
  ∃ line items, Stripped piece line ∧ Text.Decodes line items ∧
    text = String.ofList (items.map fun item => item.getD '\uFFFD')

theorem lineOf_iff {piece : List UInt8} {text : String} :
    LineOf piece text ↔ lineText piece = text := by
  constructor
  · rintro ⟨line, items, hline, hitems, rfl⟩
    rw [stripped_iff.mp hline] at hitems
    rw [Text.decodes_iff.mp hitems]
    rfl
  · rintro rfl
    exact ⟨_, _, stripped_dropEnd piece, Text.decodes_decode _, rfl⟩

/-- The texts of the lines of a table, one after the other. -/
def Lines (octets : List UInt8) (texts : List String) : Prop :=
  ∃ cut, Cut octets cut ∧ List.Forall₂ LineOf cut texts

theorem lines_iff {octets : List UInt8} {texts : List String} :
    Lines octets texts ↔ texts = (pieces octets).map lineText := by
  have same : LineOf = fun piece text => lineText piece = text := by
    funext piece text
    exact propext lineOf_iff
  have each : List.Forall₂ LineOf (pieces octets) texts ↔ (pieces octets).map lineText = texts := by
    rw [same, ← List.forall₂_map_left_iff, List.forall₂_eq_eq_eq]
  simp only [Lines, cut_iff, exists_eq_left, each, eq_comm]

/-! ### Tables -/

/-- A table is its lines, cut after every line feed, stripped of their endings and judged one by
one: the named symbols that are not the compiler's own, or the first line that does not parse.
Behind a line feed one table may follow another. -/
theorem symbols_line_by_line (octets : List UInt8) : ∃ lines : List String,
    (∀ texts, Lines octets texts ↔ texts = lines) ∧
    (∀ kept, symbols ⟨octets, none⟩ = .ok kept ↔ ∃ parsed : List Symbol,
      lines.map Symbol.parse = parsed.map .ok ∧
      kept = parsed.filter fun s => ! s.qualifiedName.isEmpty && ! s.isSynthetic) ∧
    (∀ err, symbols ⟨octets, none⟩ = .error err ↔ ∃ i e,
      (lines.map Symbol.parse)[i]? = some (.error e) ∧
      (∀ j < i, ∃ s, (lines.map Symbol.parse)[j]? = some (.ok s)) ∧
      err = .malformedLine (i + 1) e) ∧
    ∀ more, (octets = [] ∨ octets.getLast? = some lineFeed) →
      symbols ⟨octets ++ more, none⟩ =
        match symbols ⟨octets, none⟩, symbols ⟨more, none⟩ with
        | .error e, _ => .error e
        | .ok _, .error e => .error (e.shift lines.length)
        | .ok kept, .ok rest => .ok (kept ++ rest) := by
  have rule : judge = fun piece => Symbol.parse (lineText piece) := rfl
  have judged : ((pieces octets).map lineText).map Symbol.parse = (pieces octets).map judge := by
    rw [List.map_map, Function.comp_def, rule]
  refine ⟨(pieces octets).map lineText, fun texts => lines_iff, fun kept => ?_, fun err => ?_,
    fun more ended => ?_⟩
  · rw [symbols_eq, judged]
    exact judgeFrom_eq_ok
  · rw [symbols_eq, judged, judgeFrom_eq_error]
    simp only [Nat.add_comm 1]
  · rw [symbols_eq, symbols_eq, symbols_eq, pieces_append ended, judgeFrom_append, List.length_map]
    rfl

/-- Behind a line that parses stands a table of two.  The first of these is dropped and counts all
the same, and the other does not parse: of its two carriage returns one belongs to its ending. -/
theorem symbols_line_by_line_return :
    let table := Text.encode "7 T a.b\r\n".toList
    let more := Text.encode "6 T go.itab.x\r\nx\r\r\n".toList
    table.getLast? = some lineFeed ∧ Lines table ["7 T a.b"] ∧
      Lines more ["6 T go.itab.x", "x\r"] ∧
      symbols ⟨table, none⟩ = .ok [⟨0, 7, 'T', "a.b", "", ["a"], "b"⟩] ∧
      symbols ⟨more, none⟩ = .error (.malformedLine 2 (.malformed "x\r")) ∧
      symbols ⟨table ++ more, none⟩ = .error (.malformedLine 3 (.malformed "x\r")) := by
  intro table more
  have ended : table.getLast? = some lineFeed := rfl
  have one : Lines table ["7 T a.b"] := lines_iff.mpr rfl
  have two : Lines more ["6 T go.itab.x", "x\r"] := lines_iff.mpr rfl
  obtain ⟨lines, only, whole, -, before⟩ := symbols_line_by_line table
  obtain rfl := (only _).mp one
  have kept : symbols ⟨table, none⟩ = .ok [⟨0, 7, 'T', "a.b", "", ["a"], "b"⟩] :=
    (whole _).mpr ⟨[⟨0, 7, 'T', "a.b", "", ["a"], "b"⟩], rfl, rfl⟩
  obtain ⟨lines, only, -, refused, -⟩ := symbols_line_by_line more
  obtain rfl := (only _).mp two
  have parsed : ["6 T go.itab.x", "x\r"].map Symbol.parse =
      [.ok ⟨0, 6, 'T', "go.itab.x", "", ["go"], "itab.x"⟩, .error (.malformed "x\r")] := rfl
  have bad : symbols ⟨more, none⟩ = .error (.malformedLine 2 (.malformed "x\r")) := by
    rw [refused, parsed]
    refine ⟨1, _, rfl, fun j hj => ?_, rfl⟩
    obtain rfl : j = 0 := by omega
    exact ⟨_, rfl⟩
  have both := before more (.inr ended)
  rw [kept, bad] at both
  exact ⟨ended, one, two, kept, bad, both⟩

end PackageCensus.SymbolTable
