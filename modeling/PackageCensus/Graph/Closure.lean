import PackageCensus.Graph.Basic

/-! # The packages reachable from some roots

A walk asks for the imports of the roots and then, first come first served, of every package that
an answer names, each at most once; the first refusal ends it.  A `Run` keeps, beside the graph or
the refusal, which ids were asked for and how many were taken from the queue.

`Yields` has one rule for each thing that can become of the id in front of the queue.  Along
answers that never stop naming new packages a walk never ends, and then it yields no run; `walk`
computes the run wherever there is one (`Ends`).  A walk that stays within finitely many ids ends
(`ends_of_closed`): an id that is resolved leaves the part of its scope still open
(`openPart_insert_lt`), and one met again shortens the queue.  A `Resolver` can name finitely many
ids only, and so has a `closure`. -/

namespace PackageCensus

/-- Tells the imports of a package.  All the ids it can ever name are listed, so that a walk along
imports cannot go on for ever. -/
structure Resolver (ε : Type) where
  imports : String → Except ε (List String)
  named : List String
  mem_named : ∀ {id ids dep}, imports id = .ok ids → dep ∈ ids → dep ∈ named

namespace Closure

variable {ε : Type}

/-- What a walk comes to. -/
structure Run (ε : Type) where
  /-- The ids the resolver was asked for, in order. -/
  asked : List String
  /-- How many ids were taken from the queue. -/
  rounds : Nat
  outcome : Except ε Graph

/-- What becomes of a walk along imports from the ids in the queue, the graph holding the packages
resolved so far.  The imports of a package that is resolved join the queue unless the graph holds
them already. -/
inductive Yields (ask : String → Except ε (List String)) :
    List String → Graph → Run ε → Prop
  | done (g : Graph) : Yields ask [] g ⟨[], 0, .ok g⟩
  | held {id : String} {rest : List String} {g : Graph} {run : Run ε} :
    g.contains id = true → Yields ask rest g run →
    Yields ask (id :: rest) g { run with rounds := run.rounds + 1 }
  | refused {id : String} {rest : List String} {g : Graph} {e : ε} :
    g.contains id = false → ask id = .error e →
    Yields ask (id :: rest) g ⟨[id], 1, .error e⟩
  | resolved {id : String} {rest imports : List String} {g : Graph} {run : Run ε} :
    g.contains id = false → ask id = .ok imports →
    Yields ask (rest ++ imports.filter fun dep => ! g.contains dep) (g.insert ⟨id, imports⟩) run →
    Yields ask (id :: rest) g { run with asked := id :: run.asked, rounds := run.rounds + 1 }

/-- A walk that ends. -/
def Ends (ask : String → Except ε (List String)) (queue : List String) (g : Graph) : Prop :=
  ∃ run, Yields ask queue g run

variable {ask : String → Except ε (List String)}

/-- A walk yields one run at most. -/
theorem Yields.unique {queue : List String} {g : Graph} {first second : Run ε}
    (h : Yields ask queue g first) (h' : Yields ask queue g second) : first = second := by
  induction h generalizing second with
  | done g =>
    cases h'
    rfl
  | held held _ ih =>
    cases h' with
    | held _ h' => rw [ih h']
    | refused fresh => simp [held] at fresh
    | resolved fresh => simp [held] at fresh
  | refused fresh answer =>
    cases h' with
    | held held => simp [held] at fresh
    | refused _ answer' =>
      cases answer.symm.trans answer'
      rfl
    | resolved _ answer' => cases answer.symm.trans answer'
  | resolved fresh answer _ ih =>
    cases h' with
    | held held => simp [held] at fresh
    | refused _ answer' => cases answer.symm.trans answer'
    | resolved _ answer' h' =>
      cases answer.symm.trans answer'
      rw [ih h']

namespace Ends

variable {id : String} {queue rest imports : List String} {g : Graph}

/-- How many ids a walk that ends takes from the queue. -/
noncomputable def rounds (ends : Ends ask queue g) : Nat := ends.choose.rounds

theorem rounds_eq (ends : Ends ask queue g) {run : Run ε} (h : Yields ask queue g run) :
    ends.rounds = run.rounds := by rw [rounds, ends.choose_spec.unique h]

theorem held (ends : Ends ask (id :: rest) g) (held : g.contains id = true) : Ends ask rest g := by
  obtain ⟨run, h⟩ := ends
  cases h with
  | held _ h => exact ⟨_, h⟩
  | refused fresh => simp [held] at fresh
  | resolved fresh => simp [held] at fresh

theorem resolved (ends : Ends ask (id :: rest) g) (fresh : g.contains id = false)
    (answer : ask id = .ok imports) :
    Ends ask (rest ++ imports.filter fun dep => ! g.contains dep) (g.insert ⟨id, imports⟩) := by
  obtain ⟨run, h⟩ := ends
  cases h with
  | held held => simp [held] at fresh
  | refused _ answer' => cases answer.symm.trans answer'
  | resolved _ answer' h =>
    cases answer.symm.trans answer'
    exact ⟨_, h⟩

theorem rounds_held (ends : Ends ask (id :: rest) g) (held : g.contains id = true) :
    (ends.held held).rounds < ends.rounds := by
  obtain ⟨run, h⟩ := ends.held held
  rw [(ends.held held).rounds_eq h, ends.rounds_eq (.held held h)]
  exact Nat.lt_succ_self _

theorem rounds_resolved (ends : Ends ask (id :: rest) g) (fresh : g.contains id = false)
    (answer : ask id = .ok imports) : (ends.resolved fresh answer).rounds < ends.rounds := by
  obtain ⟨run, h⟩ := ends.resolved fresh answer
  rw [(ends.resolved fresh answer).rounds_eq h, ends.rounds_eq (.resolved fresh answer h)]
  exact Nat.lt_succ_self _

end Ends

/-- The run of a walk that ends. -/
def walk (ask : String → Except ε (List String)) :
    (queue : List String) → (g : Graph) → Ends ask queue g → Run ε
  | [], g, _ => ⟨[], 0, .ok g⟩
  | id :: rest, g, ends =>
    if held : g.contains id = true then
      let run := walk ask rest g (ends.held held)
      { run with rounds := run.rounds + 1 }
    else match answer : ask id with
      | .error e => ⟨[id], 1, .error e⟩
      | .ok imports =>
        let run := walk ask (rest ++ imports.filter fun dep => ! g.contains dep)
          (g.insert ⟨id, imports⟩) (ends.resolved (Bool.eq_false_iff.mpr held) answer)
        { run with asked := id :: run.asked, rounds := run.rounds + 1 }
termination_by _ _ ends => ends.rounds
decreasing_by
  · exact ends.rounds_held held
  · exact ends.rounds_resolved (Bool.eq_false_iff.mpr held) answer

theorem walk_eq {queue : List String} {g : Graph} {run : Run ε} (h : Yields ask queue g run)
    (ends : Ends ask queue g) : walk ask queue g ends = run := by
  induction h with
  | done g => rw [walk]
  | held held _ ih => rw [walk, dif_pos held, ih]
  | refused fresh answer =>
    rw [walk, dif_neg (by simp [fresh])]
    split
    · next e answer' => cases answer.symm.trans answer'; rfl
    · next imports answer' => cases answer.symm.trans answer'
  | resolved fresh answer _ ih =>
    rw [walk, dif_neg (by simp [fresh])]
    split
    · next e answer' => cases answer.symm.trans answer'
    · next imports answer' =>
      cases answer.symm.trans answer'
      rw [ih]

theorem yields_walk {queue : List String} {g : Graph} (ends : Ends ask queue g) :
    Yields ask queue g (walk ask queue g ends) := by
  rw [walk_eq ends.choose_spec ends]
  exact ends.choose_spec

/-! ### Walks from roots -/

/-- The walk from some roots. -/
def search (ask : String → Except ε (List String)) (roots : List String)
    (ends : Ends ask roots .empty) : Run ε := walk ask roots .empty ends

/-- A scope is closed when every import of a package in it is in it. -/
def Closed (ask : String → Except ε (List String)) (scope : List String) : Prop :=
  ∀ id ∈ scope, ∀ ids, ask id = .ok ids → ∀ dep ∈ ids, dep ∈ scope

/-- The part of a scope that a graph does not hold yet. -/
def openPart (scope : List String) (g : Graph) : List String :=
  scope.filter fun id => ! g.contains id

theorem openPart_insert_lt {scope : List String} {g : Graph} {p : Package}
    (hp : p.id ∈ scope) (hg : g.contains p.id = false) :
    (openPart scope (g.insert p)).length < (openPart scope g).length := by
  unfold openPart
  simp only [Graph.contains_insert, ← List.countP_eq_length_filter]
  induction scope with
  | nil => simp at hp
  | cons id rest ih =>
    have hle : rest.countP (fun id => ! (p.id == id || g.contains id)) ≤
        rest.countP (fun id => ! g.contains id) :=
      List.countP_mono_left fun id _ h => by
        simp only [Bool.not_or, Bool.and_eq_true] at h
        exact h.2
    rw [List.countP_cons, List.countP_cons]
    by_cases hid : p.id = id
    · subst hid
      simp only [BEq.rfl, Bool.true_or, Bool.not_true, hg, Bool.not_false, if_true,
        Bool.false_eq_true, if_false]
      omega
    · have hrest : p.id ∈ rest := by
        rcases List.mem_cons.mp hp with h | h
        · exact absurd h hid
        · exact h
      have := ih hrest
      simp only [beq_eq_false_iff_ne.mpr hid, Bool.false_or]
      omega

/-- A walk within a closed scope ends. -/
theorem ends_of_closed {scope : List String} (closed : Closed ask scope) :
    ∀ (queue : List String) (g : Graph), (∀ id ∈ queue, id ∈ scope) → Ends ask queue g
  | [], g, _ => ⟨_, .done g⟩
  | id :: rest, g, within => by
    by_cases held : g.contains id = true
    · obtain ⟨run, h⟩ := ends_of_closed closed rest g fun i h => within i (.tail _ h)
      exact ⟨_, .held held h⟩
    · have fresh : g.contains id = false := by simpa using held
      cases answer : ask id with
      | error e => exact ⟨_, .refused fresh answer⟩
      | ok imports =>
        have step : (openPart scope (g.insert ⟨id, imports⟩)).length < (openPart scope g).length :=
          openPart_insert_lt (p := ⟨id, imports⟩) (within id (.head _)) fresh
        obtain ⟨run, h⟩ := ends_of_closed closed
          (rest ++ imports.filter fun dep => ! g.contains dep) (g.insert ⟨id, imports⟩)
          fun i h => by
            rcases List.mem_append.mp h with h | h
            · exact within i (.tail _ h)
            · exact closed id (within id (.head _)) imports answer i (List.mem_filter.mp h).1
        exact ⟨_, .resolved fresh answer h⟩
termination_by queue g => ((openPart scope g).length, queue.length)
decreasing_by
  · exact Prod.Lex.right _ (Nat.lt_succ_self _)
  · exact Prod.Lex.left _ _ step

end Closure

namespace Resolver

variable {ε : Type}

/-- The ids that a walk from some roots can meet. -/
def scope (r : Resolver ε) (roots : List String) : List String := roots ++ r.named

theorem closed_scope (r : Resolver ε) (roots : List String) :
    Closure.Closed r.imports (r.scope roots) :=
  fun _ _ _ h _ hd => List.mem_append.mpr (.inr (r.mem_named h hd))

theorem ends (r : Resolver ε) (roots : List String) : Closure.Ends r.imports roots .empty :=
  Closure.ends_of_closed (r.closed_scope roots) roots .empty fun _ h => List.mem_append.mpr (.inl h)

/-- The graph of the packages reachable from the roots. -/
def closure (r : Resolver ε) (roots : List String) : Closure.Run ε :=
  Closure.search r.imports roots (r.ends roots)

end Resolver
end PackageCensus
