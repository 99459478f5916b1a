import Mathlib
import PackageCensus.Proofs.Text.Utf8

/-! # Lines with an end mark

A text whose lines each end in a mark is cut into these lines again, with nothing after the last, if the
mark stands nowhere else (`splitOnP_flatMap_concat`, for line feeds `splitOnP_lines`).  A character below
80 is its own octet and stands in no other character (`mem_encode`), so that the same holds of the octets
of such a text.

`lines` are the lines of a text that may end in carriage returns as well, and of which the last may
have no end mark. -/

namespace PackageCensus.Text

/-- Lines are cut apart again at the marks that end them. -/
theorem splitOnP_flatMap_concat {α : Type} {p : α → Bool} {mark : α} (hmark : p mark = true)
    {lines : List (List α)} (solid : ∀ line ∈ lines, ∀ a ∈ line, p a = false) :
    (lines.flatMap (· ++ [mark])).splitOnP p = lines ++ [[]] := by
  induction lines with
  | nil => rfl
  | cons line lines ih =>
    rw [List.flatMap_cons, List.append_assoc, List.singleton_append,
      List.splitOnP_append_cons_of_forall_mem (solid line (.head _)) _ hmark,
      ih fun l hl => solid l (.tail _ hl), List.cons_append]

theorem splitOnP_lines {ls : List (List Char)} (solid : ∀ l ∈ ls, '\n' ∉ l) :
    (ls.flatMap (· ++ ['\n'])).splitOnP (· == '\n') = ls ++ [[]] := by
  refine splitOnP_flatMap_concat rfl fun l hl c hc => beq_eq_false_iff_ne.mpr ?_
  rintro rfl
  exact solid l hl hc

/-- An octet below 80 is in the octets of a text if its character is in the text. -/
theorem mem_encode {b : UInt8} (hb : b < 0x80) {cs : List Char} :
    b ∈ encode cs ↔ Char.ofNat b.toNat ∈ cs := by
  rw [encode, List.mem_flatMap]
  constructor
  · rintro ⟨c, hc, hmem⟩
    exact eq_ofNat_of_mem_encodeChar hb hmem ▸ hc
  · intro hc
    exact ⟨_, hc, by rw [encodeChar_ascii hb]; exact .head _⟩

/-! ### Line feeds, with carriage returns before them -/

/-- A line without the carriage return that is part of its end mark. -/
def withoutReturn (line : List Char) : List Char :=
  if line.getLast? = some '\r' then line.dropLast else line

/-- The lines, from what stands before, between and after the line feeds.  After the last line feed
there is a line only if anything stands there, and a carriage return is then part of that line. -/
def linesOfPieces : List (List Char) → List (List Char)
  | [] => []
  | [rest] => if rest = [] then [] else [rest]
  | piece :: next :: pieces => withoutReturn piece :: linesOfPieces (next :: pieces)

/-- The lines of a text. -/
def lines (cs : List Char) : List (List Char) := linesOfPieces (cs.splitOnP (· == '\n'))

end PackageCensus.Text
