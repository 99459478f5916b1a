import Mathlib
import PackageCensus.Proofs.Graph.Reachable

/-! # The order in which a walk asks

A walk asks for ids in the order of their `distance` from the roots: it is `Layered` throughout,
the front of its queue lying so many steps from the roots, the rest of it one step further, and all
that is closer being in the graph.

`Unfiltered` is the walk whose queue every import joins, whether or not the graph holds it.  Its
queue is longer at every step, by ids that the graph holds (`Thinned`) and that come to nothing
when they are taken.  So it makes the same run, and the order in which a walk asks is that in which
ids are first taken from this longer queue (`Unfiltered.asked_eq`).

The first refusal ends a walk: it is that of the id asked for last (`Yields.answers`). -/

namespace PackageCensus.Closure

variable {ε : Type} {ask : String → Except ε (List String)} {roots : List String}

/-! ### Distances -/

/-- The ids that some roots lead to in a number of steps. -/
inductive Steps (ask : String → Except ε (List String)) (roots : List String) :
    Nat → String → Prop
  | root {id : String} : id ∈ roots → Steps ask roots 0 id
  | step {n : Nat} {id dep : String} {imports : List String} :
    Steps ask roots n id → ask id = .ok imports → dep ∈ imports → Steps ask roots (n + 1) dep

/-- The least number of steps in which some roots lead to an id. -/
noncomputable def distance (ask : String → Except ε (List String)) (roots : List String)
    (id : String) : Nat := sInf {n | Steps ask roots n id}

theorem reaches_iff {id : String} : Reaches ask roots id ↔ ∃ n, Steps ask roots n id := by
  constructor
  · intro h
    induction h with
    | root hid => exact ⟨0, .root hid⟩
    | step _ answer hd ih =>
      obtain ⟨n, h⟩ := ih
      exact ⟨n + 1, .step h answer hd⟩
  · rintro ⟨n, h⟩
    induction h with
    | root hid => exact .root hid
    | step _ answer hd ih => exact .step ih answer hd

theorem distance_eq {n : Nat} {id : String} (h : Steps ask roots n id)
    (least : ∀ m, Steps ask roots m id → n ≤ m) : distance ask roots id = n :=
  le_antisymm (Nat.sInf_le h) (le_csInf ⟨n, h⟩ least)

/-! ### Layers -/

/-- What holds of queue and graph throughout a walk: the front of the queue lies so many steps from
the roots and the rest one step further, and the graph holds all that is closer than the front and
what lies as far as it and is not queued there. -/
structure Layered (ask : String → Except ε (List String)) (roots near far : List String)
    (g : Graph) (n : Nat) : Prop where
  progress : Progress ask roots (near ++ far) g
  near_steps : ∀ id ∈ near, Steps ask roots n id
  far_steps : ∀ id ∈ far, Steps ask roots (n + 1) id
  closer : ∀ m < n, ∀ id, Steps ask roots m id → g.contains id = true
  level : ∀ id, Steps ask roots n id → g.contains id = true ∨ id ∈ near

namespace Layered

variable {near far rest imports : List String} {g : Graph} {n : Nat} {id : String}

theorem start : Layered ask roots roots [] .empty 0 where
  progress := by
    rw [List.append_nil]
    exact .start
  near_steps _ h := .root h
  far_steps _ h := absurd h List.not_mem_nil
  closer _ h := absurd h (Nat.not_lt_zero _)
  level id h := by
    cases h with
    | root hid => exact .inr hid

/-- When the front of the queue is used up the rest becomes the front. -/
theorem turn (h : Layered ask roots [] far g n) : Layered ask roots far [] g (n + 1) where
  progress := by
    rw [List.append_nil]
    exact h.progress
  near_steps := h.far_steps
  far_steps _ hid := absurd hid List.not_mem_nil
  closer m hm id steps := by
    rcases Nat.lt_succ_iff_lt_or_eq.mp hm with hm | rfl
    · exact h.closer m hm id steps
    · exact (h.level id steps).resolve_right List.not_mem_nil
  level id steps := by
    cases steps with
    | step steps answer hd =>
      -- the importing package lies as far as the front, which is empty
      have held := (h.level _ steps).resolve_right List.not_mem_nil
      obtain ⟨p, hp, rfl⟩ := Graph.contains_iff.mp held
      have same : _ = p.imports := Except.ok.inj (answer.symm.trans (h.progress.told p hp))
      exact h.progress.covered p hp id (same ▸ hd)

/-- The id in front of the queue is in the front of it, perhaps after a turn. -/
theorem front (h : Layered ask roots near far g n) (hq : near ++ far = id :: rest) :
    ∃ m near' far', n ≤ m ∧ rest = near' ++ far' ∧ Layered ask roots (id :: near') far' g m := by
  cases near with
  | nil =>
    rw [List.nil_append] at hq
    subst hq
    exact ⟨n + 1, rest, [], Nat.le_succ n, (List.append_nil rest).symm, h.turn⟩
  | cons i near =>
    rw [List.cons_append, List.cons.injEq] at hq
    obtain ⟨rfl, rfl⟩ := hq
    exact ⟨n, near, far, Nat.le_refl n, rfl, h⟩

theorem pass (h : Layered ask roots (id :: near) far g n) (held : g.contains id = true) :
    Layered ask roots near far g n where
  progress := h.progress.pass held
  near_steps i hi := h.near_steps i (.tail _ hi)
  far_steps := h.far_steps
  closer := h.closer
  level i steps := by
    rcases h.level i steps with hi | hi
    · exact .inl hi
    · rcases List.mem_cons.mp hi with rfl | hi
      · exact .inl held
      · exact .inr hi

theorem resolve (h : Layered ask roots (id :: near) far g n) (answer : ask id = .ok imports) :
    Layered ask roots near (far ++ imports.filter fun dep => ! g.contains dep)
      (g.insert ⟨id, imports⟩) n where
  progress := by
    rw [← List.append_assoc]
    exact h.progress.resolve answer
  near_steps i hi := h.near_steps i (.tail _ hi)
  far_steps i hi := by
    rcases List.mem_append.mp hi with hi | hi
    · exact h.far_steps i hi
    · exact .step (h.near_steps id (.head _)) answer (List.mem_filter.mp hi).1
  closer m hm i steps := by
    rw [Graph.contains_insert, h.closer m hm i steps, Bool.or_true]
  level i steps := by
    rw [Graph.contains_insert]
    rcases h.level i steps with hi | hi
    · exact .inl (by rw [hi, Bool.or_true])
    · rcases List.mem_cons.mp hi with rfl | hi
      · exact .inl (by simp)
      · exact .inr hi

/-- An id in front that the graph does not hold is as far as the front. -/
theorem distance_front (h : Layered ask roots (id :: near) far g n)
    (fresh : g.contains id = false) : distance ask roots id = n := by
  refine distance_eq (h.near_steps id (.head _)) fun m steps => ?_
  by_contra hm
  have held := h.closer m (by omega) id steps
  simp [fresh] at held

end Layered

/-- A walk asks for reachable ids, by their distance. -/
theorem Yields.distance_le {queue : List String} {g : Graph} {run : Run ε}
    (h : Yields ask queue g run) : ∀ {near far : List String} {n : Nat},
    near ++ far = queue → Layered ask roots near far g n →
      (∀ id ∈ run.asked, Reaches ask roots id ∧ n ≤ distance ask roots id) ∧
      run.asked.Pairwise fun i j => distance ask roots i ≤ distance ask roots j := by
  induction h with
  | done g => simp
  | held held _ ih =>
    intro near far n hq layered
    obtain ⟨m, near, far, hm, rfl, layered⟩ := layered.front hq
    obtain ⟨later, sorted⟩ := ih rfl (layered.pass held)
    exact ⟨fun i hi => ⟨(later i hi).1, hm.trans (later i hi).2⟩, sorted⟩
  | refused fresh answer =>
    intro near far n hq layered
    obtain ⟨m, near, far, hm, rfl, layered⟩ := layered.front hq
    refine ⟨fun i hi => ?_, List.pairwise_singleton _ _⟩
    obtain rfl := List.mem_singleton.mp hi
    exact ⟨layered.progress.queued _ (.head _), hm.trans (layered.distance_front fresh).ge⟩
  | resolved fresh answer _ ih =>
    intro near far n hq layered
    obtain ⟨m, near, far, hm, rfl, layered⟩ := layered.front hq
    have here := layered.distance_front fresh
    obtain ⟨later, sorted⟩ := ih (List.append_assoc ..).symm (layered.resolve answer)
    refine ⟨fun i hi => ?_, List.pairwise_cons.mpr ⟨fun i hi => ?_, sorted⟩⟩
    · rcases List.mem_cons.mp hi with rfl | hi
      · exact ⟨layered.progress.queued _ (.head _), hm.trans here.ge⟩
      · exact ⟨(later i hi).1, hm.trans (later i hi).2⟩
    · exact here.le.trans (later i hi).2

/-! ### Ids asked for once, and their answers -/

/-- A walk asks for no id twice and for none that the graph holds. -/
theorem Yields.asked_fresh {queue : List String} {g : Graph} {run : Run ε}
    (h : Yields ask queue g run) :
    run.asked.Nodup ∧ ∀ id ∈ run.asked, g.contains id = false := by
  induction h with
  | done g => simp
  | held _ _ ih => exact ih
  | refused fresh answer =>
    exact ⟨List.nodup_singleton _, fun i hi => List.mem_singleton.mp hi ▸ fresh⟩
  | @resolved id rest imports g run fresh answer _ ih =>
    obtain ⟨nodup, later⟩ := ih
    have other : ∀ i ∈ run.asked, i ≠ id ∧ g.contains i = false := by
      intro i hi
      have h := later i hi
      rw [Graph.contains_insert, Bool.or_eq_false_iff, beq_eq_false_iff_ne] at h
      exact ⟨h.1.symm, h.2⟩
    refine ⟨List.nodup_cons.mpr ⟨fun hi => (other id hi).1 rfl, nodup⟩, fun i hi => ?_⟩
    rcases List.mem_cons.mp hi with rfl | hi
    · exact fresh
    · exact (other i hi).2

/-- All ids that a walk asks for are answered, or all but the last, whose refusal is the outcome. -/
theorem Yields.answers {queue : List String} {g : Graph} {run : Run ε}
    (h : Yields ask queue g run) :
    match run.outcome with
    | .ok _ => ∀ id ∈ run.asked, ∃ imports, ask id = .ok imports
    | .error e => ∃ before last, run.asked = before ++ [last] ∧ ask last = .error e ∧
        ∀ id ∈ before, ∃ imports, ask id = .ok imports := by
  induction h with
  | done g => simp
  | held _ _ ih => exact ih
  | @refused id rest g e fresh answer => exact ⟨[], id, rfl, answer, by simp⟩
  | @resolved id rest imports g run fresh answer _ ih =>
    have here : ∀ ids : List String, (∀ i ∈ ids, ∃ is, ask i = .ok is) →
        ∀ i ∈ id :: ids, ∃ is, ask i = .ok is := by
      intro ids later i hi
      rcases List.mem_cons.mp hi with rfl | hi
      · exact ⟨imports, answer⟩
      · exact later i hi
    cases outcome : run.outcome with
    | ok g =>
      simp only [outcome] at ih ⊢
      exact here _ ih
    | error e =>
      simp only [outcome] at ih ⊢
      obtain ⟨before, last, hasked, refused, later⟩ := ih
      exact ⟨id :: before, last, by rw [hasked, List.cons_append], refused, here _ later⟩

/-- The outcome of a walk is the refusal of the id asked for last, if it is refused. -/
theorem Yields.error_iff {queue : List String} {g : Graph} {run : Run ε}
    (h : Yields ask queue g run) (e : ε) : run.outcome = .error e ↔
      ∃ before last, run.asked = before ++ [last] ∧ ask last = .error e ∧
        ∀ id ∈ before, ∃ imports, ask id = .ok imports := by
  have answers := h.answers
  cases outcome : run.outcome with
  | ok g =>
    simp only [outcome] at answers
    simp only [reduceCtorEq, false_iff]
    rintro ⟨before, last, hasked, refused, -⟩
    obtain ⟨imports, answer⟩ := answers last (by simp [hasked])
    cases refused.symm.trans answer
  | error e' =>
    simp only [outcome] at answers
    obtain ⟨before, last, hasked, refused, earlier⟩ := answers
    constructor
    · rintro ⟨⟩
      exact ⟨before, last, hasked, refused, earlier⟩
    · rintro ⟨before', last', hasked', refused', -⟩
      have same := (List.append_inj' (hasked.symm.trans hasked') rfl).2
      cases same
      cases refused.symm.trans refused'
      rfl

/-! ### The walk without a filter -/

/-- What becomes of a walk whose queue all imports join: the ids taken from the queue, and the
run. -/
inductive Unfiltered (ask : String → Except ε (List String)) :
    List String → Graph → List String → Run ε → Prop
  | done (g : Graph) : Unfiltered ask [] g [] ⟨[], 0, .ok g⟩
  | held {id : String} {rest taken : List String} {g : Graph} {run : Run ε} :
    g.contains id = true → Unfiltered ask rest g taken run →
    Unfiltered ask (id :: rest) g (id :: taken) { run with rounds := run.rounds + 1 }
  | refused {id : String} {rest : List String} {g : Graph} {e : ε} :
    g.contains id = false → ask id = .error e →
    Unfiltered ask (id :: rest) g [id] ⟨[id], 1, .error e⟩
  | resolved {id : String} {rest imports taken : List String} {g : Graph} {run : Run ε} :
    g.contains id = false → ask id = .ok imports →
    Unfiltered ask (rest ++ imports) (g.insert ⟨id, imports⟩) taken run →
    Unfiltered ask (id :: rest) g (id :: taken)
      { run with asked := id :: run.asked, rounds := run.rounds + 1 }

/-- A queue made of another by leaving out ids that the graph holds. -/
inductive Thinned (g : Graph) : List String → List String → Prop
  | nil : Thinned g [] []
  | keep {id : String} {thin full : List String} :
    Thinned g thin full → Thinned g (id :: thin) (id :: full)
  | skip {id : String} {thin full : List String} :
    g.contains id = true → Thinned g thin full → Thinned g thin (id :: full)

namespace Thinned

variable {g : Graph} {thin full : List String}

theorem refl (g : Graph) : ∀ ids : List String, Thinned g ids ids
  | [] => .nil
  | _ :: ids => .keep (refl g ids)

theorem filter (g : Graph) : ∀ ids : List String,
    Thinned g (ids.filter fun id => ! g.contains id) ids
  | [] => .nil
  | id :: ids => by
    cases held : g.contains id with
    | true =>
      rw [List.filter_cons_of_neg (by simp [held])]
      exact .skip held (filter g ids)
    | false =>
      rw [List.filter_cons_of_pos (by simp [held])]
      exact .keep (filter g ids)

theorem append (h : Thinned g thin full) {thin' full' : List String}
    (h' : Thinned g thin' full') : Thinned g (thin ++ thin') (full ++ full') := by
  induction h with
  | nil => exact h'
  | keep _ ih => exact .keep ih
  | skip held _ ih => exact .skip held ih

theorem insert (h : Thinned g thin full) (p : Package) : Thinned (g.insert p) thin full := by
  induction h with
  | nil => exact .nil
  | keep _ ih => exact .keep ih
  | skip held _ ih => exact .skip (by rw [Graph.contains_insert, held, Bool.or_true]) ih

theorem contains_of_nil (h : Thinned g [] full) : ∀ id ∈ full, g.contains id = true := by
  induction full with
  | nil => simp
  | cons i full ih =>
    cases h with
    | skip held h =>
      intro id hid
      rcases List.mem_cons.mp hid with rfl | hid
      · exact held
      · exact ih h id hid

/-- Before the id in front of the shorter queue there are only ids that the graph holds. -/
theorem split_cons {id : String} {rest : List String} (h : Thinned g (id :: rest) full) :
    ∃ skipped more, full = skipped ++ id :: more ∧ (∀ i ∈ skipped, g.contains i = true) ∧
      Thinned g rest more := by
  induction full with
  | nil => cases h
  | cons i full ih =>
    cases h with
    | keep h => exact ⟨[], full, rfl, by simp, h⟩
    | skip held h =>
      obtain ⟨skipped, more, rfl, all, h⟩ := ih h
      refine ⟨i :: skipped, more, rfl, fun j hj => ?_, h⟩
      rcases List.mem_cons.mp hj with rfl | hj
      · exact held
      · exact all j hj

end Thinned

namespace Unfiltered

variable {queue taken : List String} {g : Graph} {run : Run ε}

/-- Ids in front of the queue that the graph holds come to nothing. -/
theorem skip (h : Unfiltered ask queue g taken run) : ∀ {skipped : List String},
    (∀ id ∈ skipped, g.contains id = true) → Unfiltered ask (skipped ++ queue) g
      (skipped ++ taken) { run with rounds := run.rounds + skipped.length }
  | [], _ => h
  | id :: _, all => .held (all id (.head _)) (skip h fun i hi => all i (.tail _ hi))

/-- The ids asked for are those taken that the graph does not hold, each when it is first taken. -/
theorem asked_eq (h : Unfiltered ask queue g taken run) :
    run.asked = (taken.filter fun id => ! g.contains id).eraseDups := by
  induction h with
  | done g => rfl
  | held held _ ih => rw [List.filter_cons_of_neg (by simp [held]), ← ih]
  | refused fresh answer =>
    rw [List.filter_cons_of_pos (by simp [fresh])]
    rfl
  | @resolved id rest imports taken g run fresh answer _ ih =>
    rw [List.filter_cons_of_pos (by simp [fresh]), List.eraseDups_cons, ih, List.filter_filter]
    refine congrArg (id :: ·.eraseDups) (List.filter_congr fun i _ => ?_)
    rw [Graph.contains_insert, Bool.not_or, Bool.beq_comm]

end Unfiltered

/-- The walk without a filter makes the run of the walk with it, but for the length of its queue. -/
theorem Yields.unfiltered {queue : List String} {g : Graph} {run : Run ε}
    (h : Yields ask queue g run) : ∀ {full : List String}, Thinned g queue full →
      ∃ taken rounds, Unfiltered ask full g taken { run with rounds := rounds } := by
  induction h with
  | done g =>
    intro full thinned
    have all := thinned.contains_of_nil
    rw [← List.append_nil full]
    exact ⟨_, _, (Unfiltered.done g).skip all⟩
  | held held _ ih =>
    intro full thinned
    obtain ⟨skipped, more, rfl, all, thin⟩ := thinned.split_cons
    obtain ⟨taken, rounds, h⟩ := ih thin
    exact ⟨_, _, (Unfiltered.held held h).skip all⟩
  | refused fresh answer =>
    intro full thinned
    obtain ⟨skipped, more, rfl, all, thin⟩ := thinned.split_cons
    exact ⟨_, _, (Unfiltered.refused fresh answer).skip all⟩
  | @resolved id rest imports g run fresh answer _ ih =>
    intro full thinned
    obtain ⟨skipped, more, rfl, all, thin⟩ := thinned.split_cons
    have joined := (thin.append (Thinned.filter g imports)).insert ⟨id, imports⟩
    obtain ⟨taken, rounds, h⟩ := ih joined
    exact ⟨_, _, (Unfiltered.resolved fresh answer h).skip all⟩

/-- A search asks for no id twice, for reachable ids only, and by their distance from the roots:
in the order in which ids are first taken from a queue that every import joins.  It makes the run
of the walk with that queue.  It fails exactly if an id is refused after none before was, with the
refusal of this id, the last that was asked for. -/
theorem search_breadth_first (ends : Ends ask roots .empty) :
    (search ask roots ends).asked.Nodup ∧
    (∀ id ∈ (search ask roots ends).asked, ∃ n, Steps ask roots n id) ∧
    ((search ask roots ends).asked.Pairwise fun i j =>
      distance ask roots i ≤ distance ask roots j) ∧
    (∃ taken rounds, Unfiltered ask roots .empty taken
        { search ask roots ends with rounds := rounds } ∧
      (search ask roots ends).asked = taken.eraseDups) ∧
    ∀ e, (search ask roots ends).outcome = .error e ↔
      ∃ before last, (search ask roots ends).asked = before ++ [last] ∧ ask last = .error e ∧
        ∀ id ∈ before, ∃ imports, ask id = .ok imports := by
  have h : Yields ask roots .empty (search ask roots ends) := yields_walk ends
  obtain ⟨reached, sorted⟩ := h.distance_le (List.append_nil roots) .start
  obtain ⟨taken, rounds, full⟩ := h.unfiltered (.refl _ roots)
  have order := full.asked_eq
  have everything : (taken.filter fun id => ! Graph.empty.contains id) = taken :=
    List.filter_eq_self.mpr fun id _ => rfl
  rw [everything] at order
  exact ⟨h.asked_fresh.1, fun id hid => reaches_iff.mp (reached id hid).1, sorted,
    ⟨taken, rounds, full, order⟩, h.error_iff⟩

/-- A package that imports itself and two others, the first of them twice; a refused id follows
the second, which imports the root again. -/
theorem search_breadth_first_refused :
    let ask : String → Except String (List String) := fun id =>
      if id = "a" then .ok ["c", "b", "a", "c"] else if id = "b" then .ok ["a", "d"]
      else if id = "c" then .ok [] else .error id
    ∃ ends : Ends ask ["a", "a"] .empty,
      (search ask ["a", "a"] ends).asked = ["a", "c", "b", "d"] ∧
      (search ask ["a", "a"] ends).outcome = .error "d" ∧
      distance ask ["a", "a"] "c" ≤ distance ask ["a", "a"] "d" := by
  intro ask
  have made : Yields ask ["a", "a"] .empty _ :=
    .resolved rfl rfl <| .held rfl <| .resolved rfl rfl <| .resolved rfl rfl <| .held rfl <|
    .held rfl <| .refused rfl rfl
  have ends : Ends ask ["a", "a"] .empty := ⟨_, made⟩
  have asked : (search ask ["a", "a"] ends).asked = ["a", "c", "b", "d"] :=
    congrArg Run.asked (walk_eq made ends)
  obtain ⟨-, -, sorted, -, failure⟩ := search_breadth_first ends
  rw [asked] at sorted failure
  refine ⟨ends, asked, (failure "d").mpr ⟨["a", "c", "b"], "d", rfl, rfl, ?_⟩, ?_⟩
  · intro id hid
    simp only [List.mem_cons, List.not_mem_nil, or_false] at hid
    rcases hid with rfl | rfl | rfl
    · exact ⟨_, rfl⟩
    · exact ⟨_, rfl⟩
    · exact ⟨_, rfl⟩
  · exact (List.pairwise_cons.mp (List.pairwise_cons.mp sorted).2).1 "d" (by simp)

end PackageCensus.Closure
