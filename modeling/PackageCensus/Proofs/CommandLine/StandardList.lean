import Mathlib
import PackageCensus.Proofs.CommandLine.GraphCommand
import PackageCensus.Proofs.CommandLine.Listing
import PackageCensus.Proofs.StandardList

/-! # Lists of standard packages, printed and read again

The command that lists the standard packages prints one id on each line.  Every id that a list can hold
stands on a line such that reading finds it there and nothing else (`names_textOf`): it is no comment,
not empty, within one line and without blanks at its ends.  So a printed list is a list of the same
packages (`parse_of_printed`), and it can take the place of the one it was printed from
(`standardList_read_back`). -/

namespace PackageCensus.CommandLine

open Attempt (outcome)
open StandardList (Listable Lists leaf names parse store)

/-! ### Ids line by line -/

theorem names_textOf {ids : List String} (listable : ∀ id ∈ ids, Listable id) :
    names (textOf ids) = ids := by
  have solid : ∀ l ∈ ids.map String.toList, '\n' ∉ l :=
    List.forall_mem_map.mpr fun id hid => (listable id hid).one_line
  have trimmed : (ids.map String.toList).map Text.trim = ids.map String.toList := by
    rw [List.map_map]
    exact List.map_congr_left fun id hid => Text.trim_of_isTrimmed (listable id hid).trimmed
  have named : (ids.map String.toList).filter StandardList.isName = ids.map String.toList :=
    List.filter_eq_self.mpr (List.forall_mem_map.mpr fun id hid => (listable id hid).name)
  have last : ([[]].map Text.trim).filter StandardList.isName = [] := rfl
  rw [names, toList_textOf, Text.splitOnP_lines solid, List.map_append, List.filter_append, last,
    List.append_nil, trimmed, named, List.map_map]
  exact (List.map_congr_left fun _ _ => String.ofList_toList).trans (List.map_id ids)

/-- The ids of a graph make it again when they are printed and read. -/
theorem parse_textOf {ids : List String} (listable : ∀ id ∈ ids, Listable id) :
    parse (textOf (Graph.ofList (ids.map leaf)).ids) = .ofList (ids.map leaf) := by
  have held : ∀ id ∈ (Graph.ofList (ids.map leaf)).ids, Listable id := fun id hid =>
    listable id (StandardList.mem_ids_leaves.mp hid)
  rw [parse, names_textOf held, StandardList.leaves_ids]

/-! ### The list of a configuration -/

variable {h : Host} {c : Config} {g : Graph}

theorem standardListCommand_eq_ok {text : String} :
    outcome h (standardListCommand false c) = .ok text ↔
      ∃ g, outcome h (standardPackages c.graph) = .ok g ∧ textOf g.ids = text := by
  simp only [standardListCommand, Attempt.outcome_bind, Attempt.outcome_pure, bind_eq_ok,
    if_neg Bool.false_ne_true, Except.ok.injEq]

/-- All lists are graphs of ids that can stand on lines. -/
theorem exists_leaves (ok : outcome h (standardPackages c.graph) = .ok g) :
    ∃ ids : List String, (∀ id ∈ ids, Listable id) ∧ g = .ofList (ids.map leaf) := by
  rw [outcome_standardPackages] at ok
  split at ok
  · next path _ =>
    obtain ⟨text, -, rfl⟩ := map_eq_ok.mp (mapError_eq_ok.mp ok)
    exact ⟨names text, fun id hid => StandardList.listable_of_mem_names hid, rfl⟩
  · exact ⟨StandardList.bundledIds, StandardList.listable_bundled, (Except.ok.inj ok).symm⟩

/-- What is printed of a list lists the same packages. -/
theorem parse_of_printed {text : String}
    (printed : outcome h (standardListCommand false c) = .ok text) :
    outcome h (standardPackages c.graph) = .ok (parse text) := by
  obtain ⟨g, ok, rfl⟩ := standardListCommand_eq_ok.mp printed
  obtain ⟨ids, listable, rfl⟩ := exists_leaves ok
  rw [ok, parse_textOf listable]

theorem exists_printed_iff : (∃ text, outcome h (standardListCommand false c) = .ok text) ↔
    ∀ path, c.graph.standardList = some path → ∃ list, h.fileText path = .ok list := by
  have found : (∃ text, outcome h (standardListCommand false c) = .ok text) ↔
      ∃ g, outcome h (standardPackages c.graph) = .ok g := by
    simp only [standardListCommand_eq_ok]
    exact ⟨fun ⟨_, g, ok, _⟩ => ⟨g, ok⟩, fun ⟨g, ok⟩ => ⟨_, g, ok, rfl⟩⟩
  rw [found, outcome_standardPackages]
  cases c.graph.standardList with
  | none => exact ⟨fun _ _ => nofun, fun _ => ⟨_, rfl⟩⟩
  | some path =>
    simp only [Option.some.injEq, forall_eq', mapError_eq_ok, map_eq_ok]
    exact ⟨fun ⟨_, list, read, _⟩ => ⟨list, read⟩, fun ⟨list, read⟩ => ⟨_, list, read, rfl⟩⟩

/-- A text lists what stands on its lines, each id once, two texts with a line feed between list what
either lists, and what is printed of a list can stand for it, whatever it is: a command that reads
the printed text comes to the same, and with it the same is taken away from every graph. -/
theorem standardList_read_back (h : Host) (c : Config) :
    (∀ text, (∀ id, id ∈ (parse text).ids ↔ Lists text id) ∧ (parse text).ids.Nodup ∧
      (∀ p ∈ (parse text).packages, p.imports = []) ∧ (store text).Holds (parse text)) ∧
    (∀ a b, parse (a ++ "\n" ++ b) = (parse a).union (parse b) ∧
      (store (a ++ "\n" ++ b)).equal ((store a).union (store b)) = true) ∧
    ((∃ text, outcome h (standardListCommand false c) = .ok text) ↔
      ∀ path, c.graph.standardList = some path → ∃ list, h.fileText path = .ok list) ∧
    ∀ text, outcome h (standardListCommand false c) = .ok text →
      ∃ standard, outcome h (standardPackages c.graph) = .ok standard ∧ parse text = standard ∧
        (∀ s t : Storage, t.Holds standard →
          (store text).equal t = true ∧ s.subtract (store text) = s.subtract t) ∧
        ∀ (h' : Host) (path : String) (c' : Config),
          h'.answer (.file path) = .ok ⟨Text.encode text.toList, none⟩ →
          c'.graph.standardList = some path →
          (∀ json, outcome h' (standardListCommand json c') =
            outcome h (standardListCommand json c)) ∧
          (c'.graph.includeStandard = c.graph.includeStandard → ∀ g keep,
            outcome h' (withoutStandard g keep c'.graph) =
              outcome h (withoutStandard g keep c.graph)) := by
  refine ⟨fun text => ⟨fun id => StandardList.mem_ids_parse, (parse text).nodup_ids,
      fun p hp => StandardList.imports_leaves hp, StandardList.holds_store text⟩,
    fun a b => ⟨StandardList.parse_append a b, StandardList.store_append a b⟩,
    exists_printed_iff, fun text printed => ?_⟩
  have ok := parse_of_printed printed
  have held := StandardList.holds_store text
  refine ⟨parse text, ok, rfl, fun s t ht => ⟨held.equal ht, ?_⟩, fun h' path c' answer named => ?_⟩
  · rw [Storage.subtract, Storage.subtract, held.contains_funext, ht.contains_funext]
  · have ok' := outcome_standardPackages_of_text (Host.fileText_of_encode answer) named
    refine ⟨fun json => ?_, fun same g keep => ?_⟩
    · rw [standardListCommand, standardListCommand, Attempt.outcome_bind, Attempt.outcome_bind, ok, ok']
      rfl
    · rw [outcome_withoutStandard, outcome_withoutStandard, ok, ok', same]

/-- A list with carriage returns, blanks, comments and an id that is listed twice. -/
theorem standardList_read_back_carriage :
    let list := "# standard\n\n fmt \r\nos\r\n  #net\nfmt"
    let printed := "fmt\nos\n"
    let host (text : String) : Host := ⟨fun
      | .isFile _ => false
      | .file _ => .ok ⟨Text.encode text.toList, none⟩
      | .process _ => .error .notFound
      | .time => "now"⟩
    let c : Config := { graph := { standardList := some "list" } }
    outcome (host list) (standardListCommand false c) = .ok printed ∧
      ∀ g keep, outcome (host printed) (withoutStandard g keep c.graph) =
        outcome (host list) (withoutStandard g keep c.graph) := by
  intro list printed host c
  have read : outcome (host list) (standardPackages c.graph) = .ok (parse list) :=
    outcome_standardPackages_of_text (Host.fileText_of_encode rfl) rfl
  have shown : textOf (parse list).ids = printed := by
    have named : names list = ["fmt", "os", "fmt"] := by decide
    rw [parse, named]
    decide
  have ok := standardListCommand_eq_ok.mpr ⟨_, read, shown⟩
  obtain ⟨-, -, -, fed⟩ := standardList_read_back (host list) c
  obtain ⟨-, -, -, -, same⟩ := fed printed ok
  exact ⟨ok, (same (host printed) "list" c rfl rfl).2 rfl⟩

end PackageCensus.CommandLine
