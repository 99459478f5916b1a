import PackageCensus.Proofs.Host.Attempt

/-! # What attempts ask for

`Attempt.requests h x` are the requests that an attempt makes on a host, in order.  They are those of
its steps one after the other, up to the first step that fails. -/

namespace PackageCensus

namespace Run

variable {α β : Type} (h : Host)

/-- The requests that a run makes on a host. -/
def requests : Run α → List Request
  | done _ => []
  | tell _ rest => rest.requests
  | ask r next => r :: (next (h.answer r)).requests

theorem requests_bind (run : Run α) (f : α → Run β) :
    (run >>= f).requests h = run.requests h ++ (f (run.value h)).requests h := by
  show (run.bind f).requests h = _
  induction run with
  | done value => rfl
  | tell e rest ih => exact ih
  | ask r next ih => exact congrArg (r :: ·) (ih (h.answer r))

theorem requests_report (es : List Log.Event) : (report es).requests h = [] := by
  induction es with
  | nil => rfl
  | cons e rest ih => exact ih

end Run

namespace Attempt

variable {ε δ α β : Type} (h : Host)

/-- The requests that an attempt makes on a host. -/
def requests (x : Attempt ε α) : List Request := x.run.requests h

@[simp] theorem requests_pure (a : α) : requests h (pure a : Attempt ε α) = [] := rfl

@[simp] theorem requests_ofExcept (e : Except ε α) : requests h (ofExcept e) = [] := rfl

theorem requests_bind (x : Attempt ε α) (f : α → Attempt ε β) :
    requests h (x >>= f) = requests h x ++ match outcome h x with
      | .ok a => requests h (f a)
      | .error _ => [] := by
  unfold requests outcome
  rw [ExceptT.run_bind, Run.requests_bind]
  cases Run.value h x.run <;> rfl

@[simp] theorem requests_adapt (f : ε → δ) (x : Attempt ε α) :
    requests h (x.adapt f) = requests h x := by
  unfold requests ExceptT.adapt
  rw [ExceptT.run_mk, map_eq_pure_bind, Run.requests_bind]
  exact List.append_nil _

@[simp] theorem requests_report (es : List Log.Event) :
    requests h (report es : Attempt ε Unit) = [] := by
  unfold requests report
  rw [ExceptT.run_lift, map_eq_pure_bind, Run.requests_bind, Run.requests_report]
  rfl

@[simp] theorem requests_readText (path : String) : requests h (readText path) = [.file path] := by
  unfold readText
  rw [requests_bind]
  cases outcome h (openFile path) <;> rfl

end Attempt
end PackageCensus
