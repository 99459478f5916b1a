import PackageCensus.Proofs.Symbol.Table
import PackageCensus.Proofs.Text.Utf8

/-! # Tables that are decoded as a whole

The lines of a table are decoded one by one, after they have been cut.  A table that is decoded as
a whole and written again, `Text.repaired`, has the same symbols: its pieces are the repaired
pieces (`pieces_repaired`), and the end of a line is dropped from a repaired piece as from the
piece (`dropEnd_repaired`), so each line has the same text (`lineText_repaired`). -/

namespace PackageCensus.SymbolTable

open Text (Decodes decode decodeLossy encode repaired)

theorem lineFeed_ascii : lineFeed < 0x80 := by decide

theorem carriageReturn_ascii : carriageReturn < 0x80 := by decide

theorem cut_repaired {octets : List UInt8} {cut : List (List UInt8)} (h : Cut octets cut) :
    Cut (repaired octets) (cut.map repaired) := by
  induction h with
  | nil => exact .nil
  | tail hline hne =>
    refine .tail (fun hmem => ?_) fun hnil => hne (Text.repaired_eq_nil.mp hnil)
    exact hline (Text.mem_of_mem_repaired lineFeed_ascii hmem)
  | @line line rest more hline _ ih =>
    have hpiece : repaired (line ++ [lineFeed]) = repaired line ++ [lineFeed] :=
      Text.repaired_append_ascii lineFeed_ascii line []
    rw [List.map_cons, hpiece, Text.repaired_append_ascii lineFeed_ascii]
    exact .line (fun hmem => hline (Text.mem_of_mem_repaired lineFeed_ascii hmem)) ih

/-- Decoding neither makes a line end nor takes one away. -/
theorem pieces_repaired (octets : List UInt8) :
    pieces (repaired octets) = (pieces octets).map repaired :=
  (cut_iff.mp (cut_repaired (cut_pieces octets))).symm

theorem dropEnd_repaired {b : UInt8} (hb : b < 0x80) (line : List UInt8) :
    dropEnd b (repaired line) = repaired (dropEnd b line) := by
  by_cases hlast : line.getLast? = some b
  · obtain ⟨front, rfl⟩ := List.getLast?_eq_some_iff.mp hlast
    have hrepaired : repaired (front ++ [b]) = repaired front ++ [b] :=
      Text.repaired_append_ascii hb front []
    rw [hrepaired, dropEnd_concat, dropEnd_concat]
  · rw [dropEnd_of_ne hlast, dropEnd_of_ne fun h => hlast (Text.getLast?_repaired hb h)]

theorem lineText_repaired (piece : List UInt8) : lineText (repaired piece) = lineText piece := by
  unfold lineText
  rw [dropEnd_repaired lineFeed_ascii, dropEnd_repaired carriageReturn_ascii,
    Text.decodeLossy_repaired]

theorem judgeFrom_map {f : List UInt8 → List UInt8} {rule : List UInt8 → Except LineError Symbol}
    (h : ∀ piece, rule (f piece) = rule piece) (pieces : List (List UInt8)) :
    ∀ number, judgeFrom rule number (pieces.map f) = judgeFrom rule number pieces := by
  induction pieces with
  | nil => exact fun number => rfl
  | cons piece more ih =>
    intro number
    rw [List.map_cons, judgeFrom, judgeFrom, h, ih]

/-- A table has the symbols, or the error, of the octets of its text.  That text has one item for
each character and one for each longest run of octets that could only have begun one: there is no
other way to read octets. -/
theorem symbols_encode_decodeLossy (octets : List UInt8) :
    (∀ items, Decodes octets items ↔ items = decode octets) ∧
      symbols ⟨encode (decodeLossy octets), none⟩ = symbols ⟨octets, none⟩ := by
  refine ⟨fun items => Text.decodes_iff, ?_⟩
  have hjudge (piece : List UInt8) : judge (repaired piece) = judge piece := by
    unfold judge
    rw [lineText_repaired]
  show symbols ⟨repaired octets, none⟩ = _
  rw [symbols_eq, symbols_eq, pieces_repaired, judgeFrom_map hjudge]

end PackageCensus.SymbolTable
