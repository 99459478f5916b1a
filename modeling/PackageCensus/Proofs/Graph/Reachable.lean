import Mathlib
import PackageCensus.Graph.Closure

/-! # What a walk along imports finds

`Reaches ask roots` holds of the ids that the roots lead to along the imports that are told, which
are the least `Closure` of the roots (`isLeast_reaches`).  `Progress` is what holds of graph and
queue throughout a walk: both hold only such ids, each package has the imports told of it, and
each of them, like each root, is held or still queued.  An id that the graph holds may therefore be
left out of the queue, also while the package that imports it is not in the graph yet.

At the end of a walk the queue is empty, so that the graph holds all that is reachable
(`search_ok`), and a refusal is one of a reachable id (`search_error`).  With finitely many
reachable ids there is an end (`ends_of_finite`). -/

namespace PackageCensus.Closure

variable {ε : Type} {ask : String → Except ε (List String)} {roots : List String}

/-! ### Reachable ids -/

/-- The ids that some roots lead to. -/
inductive Reaches (ask : String → Except ε (List String)) (roots : List String) : String → Prop
  | root {id : String} : id ∈ roots → Reaches ask roots id
  | step {id dep : String} {imports : List String} :
    Reaches ask roots id → ask id = .ok imports → dep ∈ imports → Reaches ask roots dep

/-- A set that holds the roots, and with an id also what it imports. -/
structure ClosedOver (ask : String → Except ε (List String)) (roots : List String)
    (s : Set String) : Prop where
  root : ∀ id ∈ roots, id ∈ s
  step : ∀ id ∈ s, ∀ imports, ask id = .ok imports → ∀ dep ∈ imports, dep ∈ s

theorem isLeast_reaches : IsLeast {s | ClosedOver ask roots s} {id | Reaches ask roots id} := by
  constructor
  · exact ⟨fun _ h => .root h, fun _ h _ answer _ hd => Reaches.step h answer hd⟩
  · intro s (hs : ClosedOver ask roots s) id h
    induction h with
    | root hid => exact hs.root _ hid
    | step _ answer hd ih => exact hs.step _ ih _ answer _ hd

/-! ### The invariant of a walk -/

/-- What holds of queue and graph throughout a walk from some roots. -/
structure Progress (ask : String → Except ε (List String)) (roots queue : List String)
    (g : Graph) : Prop where
  queued : ∀ id ∈ queue, Reaches ask roots id
  found : ∀ p ∈ g.packages, Reaches ask roots p.id
  told : ∀ p ∈ g.packages, ask p.id = .ok p.imports
  rooted : ∀ id ∈ roots, g.contains id = true ∨ id ∈ queue
  covered : ∀ p ∈ g.packages, ∀ dep ∈ p.imports, g.contains dep = true ∨ dep ∈ queue

namespace Progress

theorem start : Progress ask roots roots .empty where
  queued _ h := .root h
  found _ h := by simp [Graph.empty] at h
  told _ h := by simp [Graph.empty] at h
  rooted _ h := .inr h
  covered _ h := by simp [Graph.empty] at h

variable {id : String} {rest : List String} {g : Graph}

theorem pass (inv : Progress ask roots (id :: rest) g) (held : g.contains id = true) :
    Progress ask roots rest g := by
  have drop : ∀ i, g.contains i = true ∨ i ∈ id :: rest → g.contains i = true ∨ i ∈ rest := by
    intro i h
    rcases h with h | h
    · exact .inl h
    · rcases List.mem_cons.mp h with rfl | h
      · exact .inl held
      · exact .inr h
  exact {
    queued := fun i h => inv.queued i (.tail _ h)
    found := inv.found
    told := inv.told
    rooted := fun i h => drop i (inv.rooted i h)
    covered := fun p hp dep hd => drop dep (inv.covered p hp dep hd) }

theorem resolve (inv : Progress ask roots (id :: rest) g) {imports : List String}
    (answer : ask id = .ok imports) :
    Progress ask roots (rest ++ imports.filter fun dep => ! g.contains dep)
      (g.insert ⟨id, imports⟩) := by
  have here : Reaches ask roots id := inv.queued id (.head _)
  -- what was held or queued stays so, the id itself now being held
  have keep : ∀ i, g.contains i = true ∨ i ∈ id :: rest →
      (g.insert ⟨id, imports⟩).contains i = true ∨
        i ∈ rest ++ imports.filter fun dep => ! g.contains dep := by
    intro i h
    rw [Graph.contains_insert]
    rcases h with h | h
    · exact .inl (by simp [h])
    · rcases List.mem_cons.mp h with rfl | h
      · exact .inl (by simp)
      · exact .inr (List.mem_append_left _ h)
  refine ⟨?_, ?_, ?_, fun i h => keep i (inv.rooted i h), ?_⟩
  · intro i h
    rcases List.mem_append.mp h with h | h
    · exact inv.queued i (.tail _ h)
    · exact .step here answer (List.mem_filter.mp h).1
  · intro p hp
    rcases Graph.mem_insert hp with rfl | hp
    · exact here
    · exact inv.found p hp
  · intro p hp
    rcases Graph.mem_insert hp with rfl | hp
    · exact answer
    · exact inv.told p hp
  · intro p hp dep hd
    rcases Graph.mem_insert hp with rfl | hp
    · by_cases held : g.contains dep = true
      · exact keep dep (.inl held)
      · exact .inr (List.mem_append_right _ (List.mem_filter.mpr ⟨hd, by simpa using held⟩))
    · exact keep dep (inv.covered p hp dep hd)

/-- At the end of a walk all that is reachable is held. -/
theorem contains_of_reaches (inv : Progress ask roots [] g) (h : Reaches ask roots id) :
    g.contains id = true := by
  induction h with
  | root hid => simpa using inv.rooted _ hid
  | step _ answer hd ih =>
    obtain ⟨p, hp, rfl⟩ := Graph.contains_iff.mp ih
    have same : _ = p.imports := Except.ok.inj (answer.symm.trans (inv.told p hp))
    simpa using inv.covered p hp _ (same ▸ hd)

end Progress

/-- A walk comes to a graph that is complete, or to the refusal of a reachable id. -/
theorem Yields.ends {queue : List String} {g : Graph} {run : Run ε}
    (h : Yields ask queue g run) (inv : Progress ask roots queue g) :
    match run.outcome with
    | .ok found => Progress ask roots [] found
    | .error e => ∃ id, Reaches ask roots id ∧ ask id = .error e := by
  induction h with
  | done g => exact inv
  | held held _ ih => exact ih (inv.pass held)
  | refused _ answer => exact ⟨_, inv.queued _ (.head _), answer⟩
  | resolved _ answer _ ih => exact ih (inv.resolve answer)

/-! ### Walks from roots -/

section Search

variable (ends : Ends ask roots .empty) {g : Graph}

theorem search_progress (ok : (search ask roots ends).outcome = .ok g) :
    Progress ask roots [] g := by
  have := (yields_walk ends).ends .start
  rwa [show (walk ask roots .empty ends).outcome = .ok g from ok] at this

theorem search_ok (ok : (search ask roots ends).outcome = .ok g) (id : String) :
    g.contains id = true ↔ Reaches ask roots id := by
  have inv := search_progress ends ok
  refine ⟨fun held => ?_, inv.contains_of_reaches⟩
  obtain ⟨p, hp, rfl⟩ := Graph.contains_iff.mp held
  exact inv.found p hp

theorem search_error {e : ε} (error : (search ask roots ends).outcome = .error e) :
    ∃ id, Reaches ask roots id ∧ ask id = .error e := by
  have := (yields_walk ends).ends .start
  rwa [show (walk ask roots .empty ends).outcome = .error e from error] at this

end Search

theorem ends_of_finite (finite : {id | Reaches ask roots id}.Finite) :
    Ends ask roots .empty := by
  have within : ∀ id, id ∈ finite.toFinset.toList ↔ Reaches ask roots id := by simp
  have closed : Closed ask finite.toFinset.toList := by
    intro id h imports answer dep hd
    exact (within dep).mpr (.step ((within id).mp h) answer hd)
  exact ends_of_closed closed roots .empty fun id h => (within id).mpr (.root h)

/-- A search among finitely many reachable ids ends.  It comes to a graph exactly if none of them
is refused, and the graph is then the least that holds the roots and what its packages import. -/
theorem search_isLeast (finite : {id | Reaches ask roots id}.Finite) :
    ∃ ends : Ends ask roots .empty,
      ((∃ g, (search ask roots ends).outcome = .ok g) ↔
        ∀ id, Reaches ask roots id → ∃ imports, ask id = .ok imports) ∧
      ∀ g, (search ask roots ends).outcome = .ok g →
        IsLeast {s | ClosedOver ask roots s} {id | g.contains id = true} ∧
        (∀ p ∈ g.packages, ask p.id = .ok p.imports) ∧
        ∀ p ∈ g.packages, ∀ dep ∈ p.imports, g.contains dep = true := by
  have ends := ends_of_finite finite
  refine ⟨ends, ⟨?_, ?_⟩, ?_⟩
  · rintro ⟨g, ok⟩ id h
    obtain ⟨p, hp, rfl⟩ := Graph.contains_iff.mp ((search_ok ends ok id).mpr h)
    exact ⟨p.imports, (search_progress ends ok).told p hp⟩
  · intro answered
    cases outcome : (search ask roots ends).outcome with
    | ok g => exact ⟨g, rfl⟩
    | error e =>
      obtain ⟨id, h, refused⟩ := search_error ends outcome
      obtain ⟨imports, answer⟩ := answered id h
      simp [refused] at answer
  · intro g ok
    have inv := search_progress ends ok
    have ids : {id | g.contains id = true} = {id | Reaches ask roots id} :=
      Set.ext (search_ok ends ok)
    refine ⟨ids ▸ isLeast_reaches, inv.told, fun p hp dep hd => ?_⟩
    exact (search_ok ends ok dep).mpr (.step (inv.found p hp) (inv.told p hp) hd)

/-- Two packages that import each other and themselves, from a root given twice. -/
theorem search_isLeast_cycle :
    let ask : String → Except String (List String) := fun id =>
      if id = "a" then .ok ["b", "a", "b"] else if id = "b" then .ok ["a"] else .error id
    {id | Reaches ask ["a", "a"] id}.Finite ∧ ∃ (ends : Ends ask ["a", "a"] .empty) (g : Graph),
      (search ask ["a", "a"] ends).outcome = .ok g ∧ g.contains "b" = true := by
  intro ask
  have known : ∀ id, Reaches ask ["a", "a"] id → id = "a" ∨ id = "b" := by
    intro id h
    induction h with
    | root h => exact .inl (by simpa using h)
    | step _ answer hd ih =>
      rcases ih with rfl | rfl
      · cases answer
        simp at hd
        tauto
      · cases answer
        simp at hd
        exact .inl hd
  have finite : {id | Reaches ask ["a", "a"] id}.Finite :=
    Set.Finite.subset (Set.toFinite {"a", "b"}) known
  refine ⟨finite, ?_⟩
  obtain ⟨ends, answered, least⟩ := search_isLeast finite
  obtain ⟨g, ok⟩ := answered.mpr fun id h => by
    rcases known id h with rfl | rfl
    · exact ⟨_, rfl⟩
    · exact ⟨_, rfl⟩
  refine ⟨ends, g, ok, ?_⟩
  have closed : ClosedOver ask ["a", "a"] {id | g.contains id = true} := (least g ok).1.1
  exact closed.step "a" (closed.root "a" (by simp)) _ rfl "b" (by simp)

end PackageCensus.Closure
