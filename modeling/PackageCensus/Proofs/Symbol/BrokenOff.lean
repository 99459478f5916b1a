import Mathlib
import PackageCensus.Proofs.Symbol.Table

/-! # Tables that break off

Of a stream that breaks off only the lines that are whole are ever judged: it is read like its
`wholeLines`, and comes to the failure unless one of these has ended the reading before
(`readFrom_failure`).  What stands after the last line feed is dropped, whatever it is.

The proof goes line by line (`linewise`).  A whole line is read alike with a failure to come and
without (`readFrom_line`), and behind the last one nothing is met but the failure
(`readFrom_tail`). -/

namespace PackageCensus.SymbolTable

/-! ### Whole lines -/

/-- The octets up to the last line feed and with it, none if there is no line feed. -/
def wholeLines (octets : List UInt8) : List UInt8 := octets.rdropWhile (· != lineFeed)

theorem wholeLines_tail {tail : List UInt8} (h : lineFeed ∉ tail) : wholeLines tail = [] := by
  rw [wholeLines, List.rdropWhile_eq_nil_iff]
  intro b hb
  exact bne_iff_ne.mpr fun same => h (same ▸ hb)

theorem wholeLines_append {whole tail : List UInt8}
    (ended : whole = [] ∨ whole.getLast? = some lineFeed) (h : lineFeed ∉ tail) :
    wholeLines (whole ++ tail) = whole := by
  have dropped : ∀ b ∈ tail.reverse, (b != lineFeed) = true := by
    intro b hb
    exact bne_iff_ne.mpr fun same => h (same ▸ List.mem_reverse.mp hb)
  rw [wholeLines, List.rdropWhile, List.reverse_append, List.dropWhile_append_of_pos dropped]
  refine List.rdropWhile_eq_self_iff.mpr fun hne => ?_
  have last := ended.resolve_left hne
  rw [List.getLast?_eq_some_getLast hne] at last
  simpa using Option.some.inj last

/-- Every text is its whole lines, and then octets without a line feed. -/
theorem exists_tail (octets : List UInt8) : ∃ tail, octets = wholeLines octets ++ tail ∧
    lineFeed ∉ tail ∧ (wholeLines octets = [] ∨ (wholeLines octets).getLast? = some lineFeed) := by
  refine ⟨octets.rtakeWhile (· != lineFeed), List.rdropWhile_append_rtakeWhile.symm, ?_, ?_⟩
  · intro h
    simpa using List.mem_rtakeWhile_imp h
  · refine or_iff_not_imp_left.mpr fun hne => ?_
    have last := List.rdropWhile_last_not (· != lineFeed) octets hne
    rw [List.getLast?_eq_some_getLast hne]
    exact congrArg some (of_not_not fun other => last (bne_iff_ne.mpr other))

theorem wholeLines_line (line rest : List UInt8) :
    wholeLines (line ++ lineFeed :: rest) = line ++ lineFeed :: wholeLines rest := by
  obtain ⟨tail, split, hno, ended⟩ := exists_tail rest
  have ended' : (line ++ lineFeed :: wholeLines rest).getLast? = some lineFeed := by
    rcases ended with h | h
    · simp [h]
    · simp [List.getLast?_cons, h]
  have whole := wholeLines_append (.inr ended') hno
  rwa [List.append_assoc, List.cons_append, ← split] at whole

/-- What holds of octets without a line feed, and of octets behind a line if of those behind the
line, holds of all octets. -/
@[elab_as_elim]
theorem linewise {motive : List UInt8 → Prop} (octets : List UInt8)
    (tail : ∀ tail, lineFeed ∉ tail → motive tail)
    (line : ∀ line rest, lineFeed ∉ line → motive rest → motive (line ++ lineFeed :: rest)) :
    motive octets := by
  have cut := cut_pieces octets
  generalize pieces octets = more at cut
  induction cut with
  | nil => exact tail [] List.not_mem_nil
  | tail hno _ => exact tail _ hno
  | line hno _ ih => exact line _ _ hno ih

/-! ### Reading up to a failure -/

section Reading

variable {rule : List UInt8 → Except LineError Symbol}

theorem nextPiece_line {line : List UInt8} (h : lineFeed ∉ line) (rest : List UInt8) :
    nextPiece (line ++ lineFeed :: rest) = (line ++ [lineFeed], rest) := by
  induction line with
  | nil => rfl
  | cons b line ih =>
    simp only [List.mem_cons, not_or] at h
    rw [List.cons_append, nextPiece_cons (Ne.symm h.1), ih h.2]
    rfl

theorem nextPiece_tail {tail : List UInt8} (h : lineFeed ∉ tail) :
    nextPiece tail = (tail, []) := by
  induction tail with
  | nil => rfl
  | cons b tail ih =>
    simp only [List.mem_cons, not_or] at h
    rw [nextPiece_cons (Ne.symm h.1), ih h.2]

/-- A whole line is judged, whatever follows it. -/
theorem readFrom_line (failure : Option AccessError) (number : Nat) {line : List UInt8}
    (h : lineFeed ∉ line) (rest : List UInt8) :
    readFrom rule failure number (line ++ lineFeed :: rest) =
      match rule (line ++ [lineFeed]) with
      | .error e => .stop (some (.malformedLine number e))
      | .ok s => (readFrom rule failure (number + 1) rest).add s := by
  have next := nextPiece_line h rest
  have whole : (line ++ [lineFeed]).contains lineFeed = true := by simp
  -- as a variable the line can be compared with the piece that the reading takes
  generalize line ++ [lineFeed] = piece at next whole ⊢
  rw [readFrom]
  split
  · next nil =>
    rw [next] at nil
    simp [(Prod.mk.inj nil).1] at whole
  · next found =>
    rw [next] at found
    obtain ⟨rfl, rfl⟩ := Prod.mk.inj found
    refine if_neg ?_
    rw [whole, Bool.not_true, Bool.and_false]
    exact Bool.false_ne_true

/-- Behind the last whole line there is nothing but the failure. -/
theorem readFrom_tail (failure : AccessError) (number : Nat) {tail : List UInt8}
    (h : lineFeed ∉ tail) :
    readFrom rule (some failure) number tail = .stop (some (.stream failure)) := by
  rw [readFrom]
  split
  · rfl
  · next found =>
    rw [nextPiece_tail h] at found
    obtain ⟨rfl, -⟩ := Prod.mk.inj found
    exact if_pos (by simpa using h)

/-- A reading that comes to a failure unless it has come to an error before. -/
def Reading.breakOff (failure : AccessError) (r : Reading) : Reading :=
  { r with error := r.error <|> some (.stream failure) }

theorem Reading.breakOff_add (failure : AccessError) (s : Symbol) (r : Reading) :
    (r.add s).breakOff failure = (r.breakOff failure).add s := by
  unfold add
  split
  · rfl
  · split <;> rfl

/-- A stream that breaks off is read like its whole lines, up to the failure. -/
theorem readFrom_failure (failure : AccessError) (number : Nat) (octets : List UInt8) :
    readFrom rule (some failure) number octets =
      (readFrom rule none number (wholeLines octets)).breakOff failure := by
  have empty (number : Nat) : readFrom rule none number [] = .stop none := by
    rw [readFrom]
    rfl
  induction octets using linewise generalizing number with
  | tail tail hno =>
    rw [readFrom_tail failure number hno, wholeLines_tail hno, empty]
    rfl
  | line line rest hno ih =>
    rw [readFrom_line _ number hno, wholeLines_line, readFrom_line _ number hno]
    cases rule (line ++ [lineFeed]) with
    | error e => rfl
    | ok s => simp only [ih, Reading.breakOff_add]

/-- What a rule says of other octets than the whole lines is never asked for. -/
theorem readFrom_congr {rule' : List UInt8 → Except LineError Symbol} (failure : AccessError)
    (number : Nat) {octets : List UInt8}
    (same : ∀ piece ∈ pieces (wholeLines octets), rule piece = rule' piece) :
    readFrom rule (some failure) number octets = readFrom rule' (some failure) number octets := by
  induction octets using linewise generalizing number with
  | tail tail hno => rw [readFrom_tail failure number hno, readFrom_tail failure number hno]
  | line line rest hno ih =>
    rw [wholeLines_line, pieces_line hno] at same
    have later := ih (number + 1) fun piece hpiece => same piece (.tail _ hpiece)
    rw [readFrom_line _ number hno, readFrom_line _ number hno, same _ (.head _), later]

end Reading

/-! ### Tables -/

theorem symbols_breakOff (failure : AccessError) (r : Reading) :
    (r.breakOff failure).symbols = r.symbols.bind fun _ => .error (.stream failure) := by
  unfold Reading.symbols Reading.breakOff
  cases r.error <;> rfl

/-- A stream that breaks off gives the error of its whole lines, and the failure if they give none. -/
theorem symbols_failure (octets : List UInt8) (failure : AccessError) :
    symbols ⟨octets, some failure⟩ =
      (symbols ⟨wholeLines octets, none⟩).bind fun _ => .error (.stream failure) := by
  rw [symbols, read, readFrom_failure, symbols_breakOff]
  rfl

/-- A stream that ends gives symbols if all its lines parse, and else the error of a line. -/
theorem symbols_ok_or_malformed (octets : List UInt8) :
    ((∃ kept, symbols ⟨octets, none⟩ = .ok kept) ∧
      ∀ piece ∈ pieces octets, ∃ s, Symbol.parse (lineText piece) = .ok s) ∨
    ((∃ number e, symbols ⟨octets, none⟩ = .error (.malformedLine number e)) ∧
      ∃ piece ∈ pieces octets, ∃ e, Symbol.parse (lineText piece) = .error e) := by
  rw [symbols_eq]
  cases h : judgeFrom judge 1 (pieces octets) with
  | ok kept =>
    obtain ⟨parsed, all, -⟩ := judgeFrom_eq_ok.mp h
    refine .inl ⟨⟨kept, rfl⟩, fun piece hpiece => ?_⟩
    have judged := List.mem_map_of_mem (f := judge) hpiece
    rw [all] at judged
    obtain ⟨s, -, hs⟩ := List.mem_map.mp judged
    exact ⟨s, hs.symm⟩
  | error err =>
    obtain ⟨i, e, here, -, rfl⟩ := judgeFrom_eq_error.mp h
    refine .inr ⟨⟨_, e, rfl⟩, ?_⟩
    obtain ⟨piece, hpiece, refused⟩ := List.mem_map.mp (List.mem_of_getElem? here)
    exact ⟨piece, hpiece, e, refused⟩

/-- A table that breaks off is never complete, and of its octets only the lines up to the last line
feed count.  If one of these does not parse, the error is the one that they give as a table of
their own; if all of them do, it is the failure.  Neither the octets behind them nor what a rule for
lines says of anything but these lines makes a difference, not even to what is told of the reading. -/
theorem symbols_broken_off (octets : List UInt8) (failure : AccessError) :
    (∃ tail, octets = wholeLines octets ++ tail ∧ lineFeed ∉ tail ∧
      (wholeLines octets = [] ∨ (wholeLines octets).getLast? = some lineFeed)) ∧
    (∀ kept, symbols ⟨octets, some failure⟩ ≠ .ok kept) ∧
    ((∃ piece ∈ pieces (wholeLines octets), ∃ e, Symbol.parse (lineText piece) = .error e) →
      ∃ number e, symbols ⟨wholeLines octets, none⟩ = .error (.malformedLine number e) ∧
        symbols ⟨octets, some failure⟩ = .error (.malformedLine number e)) ∧
    ((∀ piece ∈ pieces (wholeLines octets), ∃ s, Symbol.parse (lineText piece) = .ok s) →
      symbols ⟨octets, some failure⟩ = .error (.stream failure)) ∧
    (∀ tail, lineFeed ∉ tail →
      read ⟨wholeLines octets ++ tail, some failure⟩ = read ⟨octets, some failure⟩) ∧
    ∀ rule : List UInt8 → Except LineError Symbol,
      (∀ piece ∈ pieces (wholeLines octets), rule piece = Symbol.parse (lineText piece)) →
      readFrom rule (some failure) 1 octets = read ⟨octets, some failure⟩ := by
  obtain ⟨_, -, -, ended⟩ := exists_tail octets
  refine ⟨exists_tail octets, fun kept => ?_, ?_, ?_, fun tail hno => ?_, fun rule same => ?_⟩
  · rw [symbols_failure]
    cases symbols ⟨wholeLines octets, none⟩ <;> nofun
  · rintro ⟨piece, hpiece, e, refused⟩
    rcases symbols_ok_or_malformed (wholeLines octets) with ⟨-, all⟩ | ⟨⟨number, e, answer⟩, -⟩
    · obtain ⟨s, parsed⟩ := all piece hpiece
      cases refused.symm.trans parsed
    · refine ⟨number, e, answer, ?_⟩
      rw [symbols_failure, answer]
      rfl
  · intro all
    rcases symbols_ok_or_malformed (wholeLines octets) with
      ⟨⟨kept, answer⟩, -⟩ | ⟨-, piece, hpiece, e, refused⟩
    · rw [symbols_failure, answer]
      rfl
    · obtain ⟨s, parsed⟩ := all piece hpiece
      cases refused.symm.trans parsed
  · rw [read, read, readFrom_failure, readFrom_failure, wholeLines_append ended hno]
  · exact readFrom_congr failure 1 same

/-- Behind a line that parses a stream breaks off within one that would not; another breaks off behind
a line that does not. -/
theorem symbols_broken_off_within :
    let failure := AccessError.other "broken pipe"
    let named := Text.encode "5 T a.b\n".toList
    let short := Text.encode "x\n".toList
    symbols ⟨named ++ Text.encode "x".toList, some failure⟩ = .error (.stream failure) ∧
      read ⟨named ++ Text.encode "6 T".toList, some failure⟩ =
        read ⟨named ++ Text.encode "x".toList, some failure⟩ ∧
      symbols ⟨short ++ Text.encode "6 T".toList, some failure⟩ =
        .error (.malformedLine 1 (.malformed "x")) := by
  intro failure named short
  have whole : wholeLines (named ++ Text.encode "x".toList) = named :=
    wholeLines_append (.inr rfl) (by decide)
  have whole' : wholeLines (short ++ Text.encode "6 T".toList) = short :=
    wholeLines_append (.inr rfl) (by decide)
  obtain ⟨-, -, -, stopped, dropped, -⟩ :=
    symbols_broken_off (named ++ Text.encode "x".toList) failure
  obtain ⟨-, -, refused, -⟩ := symbols_broken_off (short ++ Text.encode "6 T".toList) failure
  rw [whole] at stopped dropped
  rw [whole'] at refused
  refine ⟨stopped fun piece hpiece => ?_, dropped _ (by decide), ?_⟩
  · rw [List.mem_singleton.mp hpiece]
    exact ⟨_, rfl⟩
  · obtain ⟨number, e, answer, broken⟩ := refused ⟨_, .head _, _, rfl⟩
    have first : symbols ⟨short, none⟩ = .error (.malformedLine 1 (.malformed "x")) := by
      rw [symbols_eq]
      rfl
    rw [broken, ← answer, first]

end PackageCensus.SymbolTable
