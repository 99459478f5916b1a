import Mathlib
import PackageCensus.Dot.Document

/-! # Writing drawings

The statements of a drawing are written one after the other, each in its texts, so that all in all a
writer is offered one piece of the document after the other (`writeTo_eq`), and together they are the
document (`flatten_pieces`).  The pieces are offered in turn while they are accepted (`run_forM_ok`), and
not beyond the first that is refused (`run_forM_error`).

A buffer accepts pieces as long as they fit, and takes what does of the first that does not: it holds
the beginning of the document for which it has room (`run_forM_buffer`). -/

namespace PackageCensus.Dot

variable {σ ε : Type}

/-! ### Runs -/

section Bind

variable {α β : Type} {x : ExceptT ε (StateM σ) α} {s t : σ} (f : α → ExceptT ε (StateM σ) β)

theorem run_bind_ok {a : α} (h : x.run.run s = (.ok a, t)) :
    (x >>= f).run.run s = (f a).run.run t := by
  rw [ExceptT.run_bind, StateT.run_bind, h]
  rfl

theorem run_bind_error {e : ε} (h : x.run.run s = (.error e, t)) :
    (x >>= f).run.run s = (.error e, t) := by
  rw [ExceptT.run_bind, StateT.run_bind, h]
  rfl

end Bind

/-- The pieces are accepted by a writer in turn, and take it from one state to another. -/
inductive Accepts (w : Writer σ ε) : List (List UInt8) → σ → σ → Prop
  | nil (s : σ) : Accepts w [] s s
  | cons {piece : List UInt8} {rest : List (List UInt8)} {s m t : σ} :
    (w piece).run.run s = (.ok (), m) → Accepts w rest m t → Accepts w (piece :: rest) s t

theorem run_forM_ok {w : Writer σ ε} {pieces : List (List UInt8)} {s t : σ} :
    (pieces.forM w).run.run s = (.ok (), t) ↔ Accepts w pieces s t := by
  induction pieces generalizing s with
  | nil =>
    constructor
    · intro h
      cases h
      exact .nil _
    · rintro ⟨⟩
      rfl
  | cons piece rest ih =>
    constructor
    · intro h
      rcases first : (w piece).run.run s with ⟨e | ⟨⟩, m⟩
      · cases (run_bind_error _ first).symm.trans h
      · exact .cons first (ih.mp ((run_bind_ok _ first).symm.trans h))
    · rintro (_ | ⟨first, later⟩)
      exact (run_bind_ok _ first).trans (ih.mpr later)

theorem run_forM_error {w : Writer σ ε} {pieces : List (List UInt8)} {s t : σ} {e : ε} :
    (pieces.forM w).run.run s = (.error e, t) ↔ ∃ before piece after m,
      pieces = before ++ piece :: after ∧ Accepts w before s m ∧
        (w piece).run.run m = (.error e, t) := by
  induction pieces generalizing s with
  | nil =>
    constructor
    · intro h
      cases h
    · rintro ⟨before, piece, after, m, none, -⟩
      simp at none
  | cons first rest ih =>
    constructor
    · intro h
      rcases offered : (w first).run.run s with ⟨e' | ⟨⟩, m⟩
      · cases (run_bind_error _ offered).symm.trans h
        exact ⟨[], first, rest, s, rfl, .nil s, offered⟩
      · obtain ⟨before, piece, after, m', rfl, accepted, refused⟩ :=
          ih.mp ((run_bind_ok _ offered).symm.trans h)
        exact ⟨first :: before, piece, after, m', rfl, .cons offered accepted, refused⟩
    · rintro ⟨before, piece, after, m, split, accepted, refused⟩
      cases accepted with
      | nil =>
        obtain ⟨rfl, -⟩ := List.cons.inj split
        exact run_bind_error _ refused
      | cons offered accepted =>
        obtain ⟨rfl, tails⟩ := List.cons.inj split
        exact (run_bind_ok _ offered).trans (ih.mpr ⟨_, _, _, _, tails, accepted, refused⟩)

/-! ### The pieces of a document -/

/-- The statements of a document, each in its texts. -/
def written (label : Label) (g : Graph) : List (List (List Char)) :=
  preamble.map (fun line => [endLine line]) ++ g.packages.map (nodeTexts label) ++
    g.edges.map edgeTexts ++ [[endLine ['\x7d']]]

/-- The pieces in which a document is offered to a writer. -/
def pieces (label : Label) (g : Graph) : List (List UInt8) :=
  (written label g).flatten.map Text.encode

theorem forM_append {α : Type} (l m : List α) (f : α → ExceptT ε (StateM σ) Unit) :
    (l ++ m).forM f = (do l.forM f; m.forM f) := List.forM_append

theorem forM_map {α β : Type} (l : List α) (g : α → β) (f : β → ExceptT ε (StateM σ) Unit) :
    (l.map g).forM f = l.forM fun a => f (g a) := by
  induction l with
  | nil => rfl
  | cons a l ih => exact congrArg (f (g a) >>= fun _ => ·) ih

theorem forM_flatten {α : Type} (ls : List (List α)) (f : α → ExceptT ε (StateM σ) Unit) :
    ls.flatten.forM f = ls.forM fun l => l.forM f := by
  induction ls with
  | nil => rfl
  | cons l ls ih =>
    rw [List.flatten_cons, forM_append, ih]
    rfl

theorem writeTo_eq (w : Writer σ ε) (label : Label) (g : Graph) :
    writeTo w label g = (pieces label g).forM w := by
  have statements : (pieces label g).forM w = (written label g).forM w.statement := by
    rw [pieces, forM_map, forM_flatten]
    rfl
  have last : [[endLine ['\x7d']]].forM w.statement = w.statement [endLine ['\x7d']] := bind_pure_unit
  rw [statements, written, forM_append, forM_append, forM_append, forM_map, forM_map, forM_map, last]
  simp only [writeTo, bind_assoc]

theorem flatten_nodeTexts (label : Label) (p : Package) :
    (nodeTexts label p).flatten = endLine (nodeLine label p) := by
  have closing : "];\n".toList = "];".toList ++ ['\n'] := rfl
  unfold nodeTexts endLine nodeLine
  rw [closing]
  simp only [List.flatten_cons, List.flatten_nil, List.append_nil, List.append_assoc]

theorem flatten_edgeTexts (e : String × String) : (edgeTexts e).flatten = endLine (edgeLine e) := by
  have closing : ";\n".toList = ";".toList ++ ['\n'] := rfl
  unfold edgeTexts endLine edgeLine
  rw [closing]
  simp only [List.flatten_cons, List.flatten_nil, List.append_nil, List.append_assoc]

theorem flatten_written (label : Label) (g : Graph) :
    (written label g).flatten.flatten = document label g := by
  have whole (line : List Char) : [endLine line].flatten = endLine line := List.flatten_singleton
  unfold document lines draw
  rw [List.flatten_flatten, ← List.flatMap_def]
  simp only [written, List.flatMap_append, List.flatMap_map, flatten_nodeTexts, flatten_edgeTexts,
    whole, List.flatMap_singleton]

/-- The octets of a document. -/
def drawing (label : Label) (g : Graph) : List UInt8 := Text.encode (render label g).toList

/-- Together the pieces are the document. -/
theorem flatten_pieces (label : Label) (g : Graph) : (pieces label g).flatten = drawing label g := by
  rw [drawing, render, String.toList_ofList, ← flatten_written, pieces, ← List.flatMap_def]
  induction (written label g).flatten with
  | nil => rfl
  | cons text rest ih => rw [List.flatMap_cons, List.flatten_cons, Text.encode_append, ih]

/-! ### Buffers -/

/-- A writer that takes every piece. -/
def unbounded : Writer (List UInt8) ε := fun piece => .mk fun octets => (.ok (), octets ++ piece)

theorem run_forM_unbounded (pieces : List (List UInt8)) (octets : List UInt8) :
    (pieces.forM (unbounded : Writer (List UInt8) ε)).run.run octets =
      (.ok (), octets ++ pieces.flatten) := by
  induction pieces generalizing octets with
  | nil => rw [List.flatten_nil, List.append_nil]; rfl
  | cons piece rest ih =>
    have first : (unbounded piece : ExceptT ε _ _).run.run octets = (.ok (), octets ++ piece) := rfl
    refine (run_bind_ok _ first).trans ?_
    rw [ih, List.flatten_cons, List.append_assoc]

/-- A buffer holds as much of the pieces as it has room for, wherever that ends. -/
theorem run_forM_buffer (pieces : List (List UInt8)) (octets : List UInt8) (room : Nat) :
    (pieces.forM Buffer.writer).run.run ⟨octets, room⟩ =
      (if pieces.flatten.length ≤ room then .ok () else .error .noRoom,
        ⟨octets ++ pieces.flatten.take room, room - pieces.flatten.length⟩) := by
  induction pieces generalizing octets room with
  | nil =>
    have none : ([] : List (List UInt8)).flatten.length ≤ room := Nat.zero_le room
    rw [if_pos none, List.flatten_nil, List.take_nil, List.append_nil]
    rfl
  | cons piece rest ih =>
    have first : (Buffer.writer piece).run.run ⟨octets, room⟩ =
        (if piece.length ≤ room then .ok () else .error .noRoom,
          ⟨octets ++ piece.take room, room - piece.length⟩) := rfl
    rw [List.flatten_cons, List.length_append, List.take_append]
    by_cases fits : piece.length ≤ room
    · have all : rest.flatten.length ≤ room - piece.length ↔
          piece.length + rest.flatten.length ≤ room := by omega
      rw [if_pos fits] at first
      refine (run_bind_ok _ first).trans ?_
      rw [ih, List.append_assoc, Nat.sub_sub]
      simp only [all]
    · -- the buffer is full, and nothing of the rest gets into it
      have full : room - piece.length = 0 := by omega
      have full' : room - (piece.length + rest.flatten.length) = 0 := by omega
      have beyond : ¬ piece.length + rest.flatten.length ≤ room := by omega
      rw [if_neg fits] at first
      refine (run_bind_error _ first).trans ?_
      rw [if_neg beyond, full, full', List.take_zero, List.append_nil]

/-- What a buffer gets of a document is as much of its beginning as there is room for. -/
theorem write_eq (room : Nat) (label : Label) (g : Graph) :
    write room label g = ((drawing label g).take room,
      if (drawing label g).length ≤ room then .ok () else .error .noRoom) := by
  have run := run_forM_buffer (pieces label g) [] room
  rw [write, writeTo_eq, run, flatten_pieces, List.nil_append]

/-- A failing writer only cuts a drawing short.  Without bounds the whole document is written.  A buffer
gets its first octets, as many as there is room for, and there is an error exactly if these are not all.
Any writer is offered in turn the pieces that make up the document, and accepts them all, or there is a
first that it does not: with that one the writing ends in its error, and the state is the one in which
the refusal left the writer, so that it has been offered nothing else. -/
theorem write_truncates (label : Label) (g : Graph) :
    (∀ ε : Type, (writeTo (unbounded : Writer _ ε) label g).run.run [] =
      (.ok (), drawing label g)) ∧
    (∀ room, write room label g =
      ((drawing label g).take (min room (drawing label g).length),
        if (drawing label g).length ≤ room then .ok () else .error .noRoom)) ∧
    (pieces label g).flatten = drawing label g ∧
    ∀ (σ ε : Type) (w : Writer σ ε) (s t : σ),
      ((writeTo w label g).run.run s = (.ok (), t) ↔ Accepts w (pieces label g) s t) ∧
      ∀ e, (writeTo w label g).run.run s = (.error e, t) ↔ ∃ before piece after m,
        pieces label g = before ++ piece :: after ∧ Accepts w before s m ∧
          (w piece).run.run m = (.error e, t) := by
  refine ⟨fun ε => ?_, fun room => ?_, flatten_pieces label g, fun σ ε w s t => ?_⟩
  · rw [writeTo_eq, run_forM_unbounded, flatten_pieces, List.nil_append]
  · rw [write_eq, ← List.take_eq_take_min]
  · rw [writeTo_eq]
    exact ⟨run_forM_ok, fun e => run_forM_error⟩

end PackageCensus.Dot
