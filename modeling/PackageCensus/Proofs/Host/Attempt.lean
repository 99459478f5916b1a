import Mathlib
import PackageCensus.Host.Run

/-! # What attempts come to

`Attempt.outcome h x` is what an attempt comes to on a host, apart from what it tells on the way.
The lemmas take it through every way in which attempts are made, so that the outcome of a command
is a chain of steps in `Except`, with the answers of the host in place of its questions. -/

namespace PackageCensus

/-- The text of the file at a path. -/
def Host.fileText (h : Host) (path : String) : Except AccessError String := do
  (← h.answer (.file path)).text

theorem Host.fileText_of_answer {h : Host} {path : String} {source : Source}
    (answer : h.answer (.file path) = .ok source) : h.fileText path = source.text := by
  rw [fileText, answer]
  rfl

namespace Run

theorem bind_done {α : Type} (run : Run α) : run.bind done = run := by
  induction run with
  | done value => rfl
  | tell e rest ih => rw [bind, ih]
  | ask r next ih => rw [bind]; exact congrArg _ (funext ih)

theorem bind_assoc {α β γ : Type} (run : Run α) (f : α → Run β) (g : β → Run γ) :
    (run.bind f).bind g = run.bind fun a => (f a).bind g := by
  induction run with
  | done value => rfl
  | tell e rest ih => rw [bind, bind, bind, ih]
  | ask r next ih => rw [bind, bind, bind]; exact congrArg _ (funext ih)

instance : LawfulMonad Run := LawfulMonad.mk' Run bind_done (fun _ _ => rfl) bind_assoc

end Run

namespace Attempt

variable {ε δ α β : Type} (h : Host)

/-- What an attempt comes to on a host. -/
def outcome (x : Attempt ε α) : Except ε α := x.run.value h

@[simp] theorem outcome_pure (a : α) : outcome h (pure a : Attempt ε α) = .ok a := rfl

@[simp] theorem outcome_throw (e : ε) : outcome h (throw e : Attempt ε α) = .error e := rfl

@[simp] theorem outcome_bind (x : Attempt ε α) (f : α → Attempt ε β) :
    outcome h (x >>= f) = outcome h x >>= fun a => outcome h (f a) := by
  unfold outcome Run.value
  rw [ExceptT.run_bind, Run.on_bind]
  cases (x.run.on h).2 <;> rfl

@[simp] theorem outcome_map (f : α → β) (x : Attempt ε α) :
    outcome h (f <$> x) = (outcome h x).map f := by
  rw [map_eq_pure_bind, outcome_bind]
  cases outcome h x <;> rfl

@[simp] theorem outcome_adapt (f : ε → δ) (x : Attempt ε α) :
    outcome h (x.adapt f) = (outcome h x).mapError f := by
  unfold outcome Run.value ExceptT.adapt
  rw [ExceptT.run_mk, map_eq_pure_bind, Run.on_bind]
  rfl

@[simp] theorem outcome_ofExcept (e : Except ε α) : outcome h (ofExcept e) = e := rfl

@[simp] theorem outcome_report (es : List Log.Event) :
    outcome h (report es : Attempt ε Unit) = .ok () := by
  unfold outcome Run.value report
  rw [ExceptT.run_lift, map_eq_pure_bind, Run.on_bind]
  rfl

@[simp] theorem outcome_isFile (path : String) :
    outcome h (isFile path : Attempt ε Bool) = .ok (h.answer (.isFile path)) := rfl

@[simp] theorem outcome_openFile (path : String) :
    outcome h (openFile path) = h.answer (.file path) := rfl

@[simp] theorem outcome_launch (c : Command) : outcome h (launch c) = h.answer (.process c) := rfl

@[simp] theorem outcome_time : outcome h (time : Attempt ε String) = .ok (h.answer .time) := rfl

@[simp] theorem outcome_readText (path : String) : outcome h (readText path) = h.fileText path := by
  unfold readText
  rw [outcome_bind]
  rfl

end Attempt
end PackageCensus
