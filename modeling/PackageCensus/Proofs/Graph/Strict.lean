import Mathlib
import PackageCensus.Proofs.Graph.Reachable
import PackageCensus.Proofs.Manifest

/-! # Closures that refuse what is not listed

Of two walks that are told the same of known ids, one of which refuses the others, the strict one
keeps step with the lenient one until an unknown id is taken from the queue.  If none is, the two
make the same run; else the strict walk ends there, with the refusal of the first unknown id that
the lenient walk asks for (`Yields.until_unknown`).

A catalog that takes unknown ids for leaves refuses nothing, and the ids of the graph that it comes
to are those that were asked for (`Yields.contains_iff`).  So it tells whether the strict catalog
of the manifest comes to a graph, or which id it refuses (`Manifest.closure_strict`). -/

namespace PackageCensus

namespace Closure

variable {ε : Type} {queue : List String} {g : Graph} {run : Run ε}

/-- The graph that a walk comes to holds the ids that it held before and those asked for. -/
theorem Yields.contains_iff {ask : String → Except ε (List String)}
    (h : Yields ask queue g run) {found : Graph} (ok : run.outcome = .ok found) (id : String) :
    found.contains id = true ↔ g.contains id = true ∨ id ∈ run.asked := by
  induction h with
  | done g =>
    cases ok
    simp
  | held _ _ ih => exact ih ok
  | refused => cases ok
  | resolved _ _ _ ih =>
    rw [ih ok, Graph.contains_insert, Bool.or_eq_true, beq_iff_eq, List.mem_cons]
    tauto

section Strict

variable {lenient strict : String → Except ε (List String)} {known : String → Prop}
  {refusal : String → ε}

/-- A strict walk makes the run of the lenient one, or it makes the beginning of it that ends with
the first unknown id, which it refuses. -/
theorem Yields.until_unknown (agree : ∀ id, known id → strict id = lenient id)
    (refuse : ∀ id, ¬ known id → strict id = .error (refusal id))
    (h : Yields lenient queue g run) :
    (∀ id ∈ run.asked, known id) ∧ Yields strict queue g run ∨
      ∃ before x after rounds, run.asked = before ++ x :: after ∧ (∀ id ∈ before, known id) ∧
        ¬ known x ∧ Yields strict queue g ⟨before ++ [x], rounds, .error (refusal x)⟩ := by
  induction h with
  | done g => exact .inl ⟨by simp, .done g⟩
  | held held _ ih =>
    rcases ih with ⟨all, same⟩ | ⟨before, x, after, rounds, asked, all, unknown, ended⟩
    · exact .inl ⟨all, .held held same⟩
    · exact .inr ⟨before, x, after, _, asked, all, unknown, .held held ended⟩
  | @refused id rest g e fresh answer =>
    by_cases hid : known id
    · refine .inl ⟨fun i hi => ?_, .refused fresh ((agree id hid).trans answer)⟩
      exact List.mem_singleton.mp hi ▸ hid
    · exact .inr ⟨[], id, [], _, rfl, by simp, hid, .refused fresh (refuse id hid)⟩
  | @resolved id rest imports g run fresh answer _ ih =>
    by_cases hid : known id
    · have answer' := (agree id hid).trans answer
      rcases ih with ⟨all, same⟩ | ⟨before, x, after, rounds, asked, all, unknown, ended⟩
      · exact .inl ⟨List.forall_mem_cons.mpr ⟨hid, all⟩, .resolved fresh answer' same⟩
      · refine .inr ⟨id :: before, x, after, _, ?_, List.forall_mem_cons.mpr ⟨hid, all⟩, unknown,
          .resolved fresh answer' ended⟩
        rw [asked, List.cons_append]
    · exact .inr ⟨[], id, run.asked, _, rfl, by simp, hid, .refused fresh (refuse id hid)⟩

end Strict
end Closure

namespace Manifest

open Closure

variable {m : Manifest} {id : String}

/-! ### What catalogs tell -/

theorem catalog_of_nodup (distinct : m.ids.Nodup) (lenient : Bool) :
    m.catalog lenient = .ok ⟨.ofList m.packages, lenient⟩ := catalog_eq_ok.mpr ⟨distinct, rfl⟩

theorem get?_eq_none_of_notMem (h : id ∉ m.ids) : (Graph.ofList m.packages).get? id = none := by
  have absent : ¬ (Graph.ofList m.packages).contains id = true := by
    rwa [Graph.contains_ofList, ← List.mem_map]
  rw [Graph.contains_eq] at absent
  simpa using absent

/-- All catalogs of a manifest tell the same of the ids that it lists. -/
theorem imports_of_mem (h : id ∈ m.ids) (strict lenient : Bool) :
    Catalog.imports ⟨.ofList m.packages, strict⟩ id =
      Catalog.imports ⟨.ofList m.packages, lenient⟩ id := by
  have held : (Graph.ofList m.packages).contains id = true :=
    Graph.contains_ofList.mpr (List.mem_map.mp h)
  rw [Graph.contains_eq, Option.isSome_iff_exists] at held
  obtain ⟨p, hp⟩ := held
  rw [Catalog.imports, Catalog.imports, hp]

theorem imports_of_notMem (h : id ∉ m.ids) (lenient : Bool) :
    Catalog.imports ⟨.ofList m.packages, lenient⟩ id =
      if lenient = true then .ok [] else .error (.unknownPackage id) := by
  rw [Catalog.imports, get?_eq_none_of_notMem h]

theorem lenient_ok (m : Manifest) (id : String) :
    ∃ imports, Catalog.imports ⟨.ofList m.packages, true⟩ id = .ok imports := by
  unfold Catalog.imports
  split
  · exact ⟨_, rfl⟩
  · exact ⟨_, rfl⟩

/-! ### Closures -/

theorem lenient_closure (m : Manifest) (roots : List String) : ∃ g,
    (Catalog.resolver ⟨.ofList m.packages, true⟩ |>.closure roots).outcome = .ok g := by
  cases outcome : (Catalog.resolver ⟨.ofList m.packages, true⟩ |>.closure roots).outcome with
  | ok g => exact ⟨g, rfl⟩
  | error e =>
    obtain ⟨id, -, refused⟩ := search_error (Resolver.ends _ roots) outcome
    obtain ⟨imports, answer⟩ := lenient_ok m id
    cases refused.symm.trans answer

/-- With unknown ids as leaves a manifest always has a closure, in which what it does not list
imports nothing.  Without, there is a closure exactly if all ids of this one are listed, and it is
the same; or else it is the first id not listed, in the order in which they are asked for, that is
refused, and that nothing is asked for after. -/
theorem closure_strict (distinct : m.ids.Nodup) (roots : List String) :
    ∃ (lenient strict : Catalog) (g : Graph),
      m.catalog true = .ok lenient ∧ m.catalog false = .ok strict ∧
      (lenient.resolver.closure roots).outcome = .ok g ∧
      (∀ p ∈ g.packages, p.id ∉ m.ids → p.imports = []) ∧
      ((∃ h, (strict.resolver.closure roots).outcome = .ok h) ↔ ∀ id ∈ g.ids, id ∈ m.ids) ∧
      (∀ h, (strict.resolver.closure roots).outcome = .ok h → h = g) ∧
      ((¬ ∀ id ∈ g.ids, id ∈ m.ids) → ∃ before x after,
        (lenient.resolver.closure roots).asked = before ++ x :: after ∧
        (∀ id ∈ before, id ∈ m.ids) ∧ x ∉ m.ids ∧
        (strict.resolver.closure roots).asked = before ++ [x] ∧
        (strict.resolver.closure roots).outcome = .error (.unknownPackage x)) := by
  let lenient : Catalog := ⟨.ofList m.packages, true⟩
  let strict : Catalog := ⟨.ofList m.packages, false⟩
  have told : Yields lenient.imports roots .empty (lenient.resolver.closure roots) := yields_walk _
  have ended : ∀ {run}, Yields strict.imports roots .empty run →
      strict.resolver.closure roots = run := (yields_walk (strict.resolver.ends roots)).unique
  obtain ⟨g, ok⟩ := lenient_closure m roots
  have asked : ∀ id, id ∈ g.ids ↔ id ∈ (lenient.resolver.closure roots).asked := by
    intro id
    have held := told.contains_iff ok id
    rw [Graph.contains_iff] at held
    rw [Graph.ids, List.mem_map, held]
    exact or_iff_right Bool.false_ne_true
  refine ⟨lenient, strict, g, catalog_of_nodup distinct true, catalog_of_nodup distinct false, ok,
    fun p hp unlisted => ?_, ?_⟩
  · have answer := (search_progress (lenient.resolver.ends roots) ok).told p hp
    exact Except.ok.inj (answer.symm.trans (imports_of_notMem unlisted true))
  rcases told.until_unknown (fun _ h => imports_of_mem h false true)
      (fun _ h => imports_of_notMem h false) with
    ⟨all, same⟩ | ⟨before, x, after, rounds, askedFor, all, unlisted, refused⟩
  · have listed : ∀ id ∈ g.ids, id ∈ m.ids := fun id hid => all id ((asked id).mp hid)
    rw [ended same, ok]
    exact ⟨⟨fun _ => listed, fun _ => ⟨g, rfl⟩⟩, fun h ok' => (Except.ok.inj ok').symm,
      fun missing => absurd listed missing⟩
  · have found : x ∈ g.ids := (asked x).mpr (by simp [askedFor])
    rw [ended refused]
    refine ⟨⟨nofun, fun listed => absurd (listed x found) unlisted⟩, nofun, fun _ => ?_⟩
    exact ⟨before, x, after, askedFor, all, unlisted, rfl, rfl⟩

/-- Two ids that are not listed, the first of them imported twice. -/
theorem closure_strict_unlisted :
    let m : Manifest := ⟨[⟨"a", ["b", "y", "y"]⟩, ⟨"b", ["x", "a"]⟩]⟩
    m.ids.Nodup ∧ ∃ lenient strict : Catalog,
      m.catalog true = .ok lenient ∧ m.catalog false = .ok strict ∧
      (lenient.resolver.closure ["a"]).asked = ["a", "b", "y", "x"] ∧
      (strict.resolver.closure ["a"]).asked = ["a", "b", "y"] ∧
      (strict.resolver.closure ["a"]).outcome = .error (.unknownPackage "y") := by
  intro m
  have distinct : m.ids.Nodup := by decide
  refine ⟨distinct, ?_⟩
  obtain ⟨lenient, strict, g, hl, hs, ok, -, -, -, failure⟩ := closure_strict distinct ["a"]
  refine ⟨lenient, strict, hl, hs, ?_⟩
  obtain rfl := (catalog_eq_ok.mp hl).2
  have made : Yields (Catalog.imports ⟨.ofList m.packages, true⟩) ["a"] .empty _ :=
    .resolved rfl rfl <| .resolved rfl rfl <| .resolved rfl rfl <| .held rfl <|
    .resolved rfl rfl <| .done _
  have run := walk_eq made (Resolver.ends (Catalog.resolver _) ["a"])
  have asked : _ = ["a", "b", "y", "x"] := congrArg Run.asked run
  have held : g = _ := Except.ok.inj (ok.symm.trans (congrArg Run.outcome run))
  subst held
  obtain ⟨before, x, after, askedFor, all, unlisted, asked', refused⟩ := failure (by decide)
  have parts := asked.symm.trans askedFor
  refine ⟨asked, ?_⟩
  -- the ids before the refused one are listed, and it is not: there is one such place only
  rcases before with _ | ⟨i, _ | ⟨j, _ | ⟨k, before⟩⟩⟩
  · cases parts
    exact absurd (by decide) unlisted
  · cases parts
    exact absurd (by decide) unlisted
  · cases parts
    exact ⟨asked', refused⟩
  · simp only [List.cons_append, List.cons.injEq] at parts
    obtain ⟨-, -, rfl, -⟩ := parts
    exact absurd (all "y" (by simp)) (by decide)

end Manifest
end PackageCensus
