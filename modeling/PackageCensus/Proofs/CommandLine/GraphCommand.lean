import PackageCensus.CommandLine.Outcome
import PackageCensus.Proofs.CommandLine.Graph
import PackageCensus.Proofs.Graph.Unlisted
import PackageCensus.Proofs.Host.Requests
import PackageCensus.Proofs.Json.Record
import PackageCensus.Proofs.Text.Utf8

/-! # What comes of showing a graph

The command that shows a graph has a few conditions, in a fixed order.  If all of them hold
(`Ready`), it comes to the drawing of the one graph that the manifest and the list of standard
packages determine (`Shows`).  Otherwise it fails, and the failure is that of the first condition
that does not hold (`FirstFault`).  One or the other is the case (`ready_or_firstFault`), and each
determines the outcome (`outcome_of_ready`, `outcome_of_firstFault`). -/

namespace PackageCensus.CommandLine

open Attempt (outcome requests)

/-! ### Conditions -/

/-- The template for labels: that of the command line, or else that of the configuration. -/
def template (a : GraphArguments) (c : Config) : String := a.format.getD c.graph.labelFormat

/-- What has to hold for a graph to be shown. -/
structure Ready (h : Host) (a : GraphArguments) (c : Config) (label : Dot.Label) (m : Manifest) :
    Prop where
  template : Dot.Label.parse (template a c) = .ok label
  manifest : h.manifest a.manifest = .ok m
  distinct : m.ids.Nodup
  listed : a.strict = true → ∀ id, m.Reaches a.roots id → id ∈ m.ids
  standard : a.standard = false → c.graph.includeStandard = false →
    ∀ path, c.graph.standardList = some path → ∃ text, h.fileText path = .ok text

/-- The failure of the first condition that does not hold. -/
inductive FirstFault (h : Host) (a : GraphArguments) (c : Config) : Failure → Prop
  | label {e : Dot.LabelError} :
    Dot.Label.parse (template a c) = .error e → FirstFault h a c (.label e)
  | unreadable {label : Dot.Label} {cause : AccessError} :
    Dot.Label.parse (template a c) = .ok label →
    h.fileText a.manifest = .error cause →
    FirstFault h a c (.manifest a.manifest (.unreadable a.manifest cause))
  | document {label : Dot.Label} {text : String} {e : DocumentError} :
    Dot.Label.parse (template a c) = .ok label →
    h.fileText a.manifest = .ok text →
    ((Format.ofPath? a.manifest).getD .json).parse Manifest text = .error e →
    FirstFault h a c (.manifest a.manifest (.document e))
  /-- The id is the first that stands in the manifest for the second time. -/
  | repeated {label : Dot.Label} {m : Manifest} {before after : List String} {id : String} :
    Dot.Label.parse (template a c) = .ok label →
    h.manifest a.manifest = .ok m →
    m.ids = before ++ id :: after → before.Nodup → id ∈ before →
    FirstFault h a c (.invalidManifest a.manifest (.duplicatePackage id))
  /-- The id is the first that is asked for and not listed. -/
  | unlisted {label : Dot.Label} {m : Manifest} {id : String} :
    Dot.Label.parse (template a c) = .ok label →
    h.manifest a.manifest = .ok m →
    m.ids.Nodup →
    a.strict = true → m.Reaches a.roots id →
    (m.asked a.roots).find? (fun id => ! m.ids.contains id) = some id →
    FirstFault h a c (.closure (.unknownPackage id))
  | standardList {label : Dot.Label} {m : Manifest} {path : String} {cause : AccessError} :
    Dot.Label.parse (template a c) = .ok label →
    h.manifest a.manifest = .ok m →
    m.ids.Nodup →
    (a.strict = true → ∀ id, m.Reaches a.roots id → id ∈ m.ids) →
    a.standard = false → c.graph.includeStandard = false →
    c.graph.standardList = some path → h.fileText path = .error cause →
    FirstFault h a c (.standardList path cause)

/-- The graph that is shown: of what the manifest reaches from the roots, through standard packages
as well, the packages that stay, each with its imports in the manifest.  Its edges are the imports of
which both ends stay, as often as they are listed. -/
structure Shows (h : Host) (a : GraphArguments) (c : Config) (m : Manifest) (g : Graph) :
    Prop where
  ids : ∀ id, g.contains id = true ↔ m.Reaches a.roots id ∧
    (a.standard = true ∨ c.graph.includeStandard = true ∨ ¬ IsStandard h c.graph id)
  imports : ∀ p ∈ g.packages, p.imports = m.importsOf p.id
  edges : ∀ x y, g.edges.count (x, y) =
    if g.contains x = true ∧ g.contains y = true then (m.importsOf x).count y else 0

variable {h : Host} {a : GraphArguments} {c : Config} {label : Dot.Label} {m : Manifest} {g : Graph}

/-- The ids of the packages and their imports determine the graph. -/
theorem Shows.unique {g' : Graph} (shows_ : Shows h a c m g) (shows' : Shows h a c m g') :
    g = g' := by
  have sub {f f' : Graph} (hf : Shows h a c m f) (hf' : Shows h a c m f') {id : String}
      {p : Package} (hp : f.get? id = some p) : f'.get? id = some p := by
    obtain ⟨mem, rfl⟩ := Graph.get?_eq_some.mp hp
    have held : f'.contains p.id = true :=
      (hf'.ids p.id).mpr ((hf.ids p.id).mp (Graph.contains_iff.mpr ⟨p, mem, rfl⟩))
    obtain ⟨q, hq, same⟩ := Graph.contains_iff.mp held
    have imports : q.imports = p.imports := by
      rw [hf'.imports q hq, hf.imports p mem, same]
    have equal : q = p := by
      cases q
      cases p
      cases same
      cases imports
      rfl
    exact Graph.get?_eq_some.mpr ⟨equal ▸ hq, rfl⟩
  exact Graph.ext_get? fun id => Option.ext fun p => ⟨sub shows_ shows', sub shows' shows_⟩

/-! ### Outcomes of the steps -/

theorem outcome_closureOf (h : Host) (path : String) (roots : List String) (strict : Bool) :
    outcome h (closureOf path roots strict) = (do
      let m ← (h.manifest path).mapError (.manifest path)
      let catalog ← (m.catalog !strict).mapError (.invalidManifest path)
      (catalog.resolver.closure roots).outcome.mapError .closure) := by
  simp only [closureOf, Attempt.outcome_bind, Attempt.outcome_adapt, Attempt.outcome_ofExcept,
    Attempt.outcome_report, Manifest.outcome_load]
  rfl

theorem outcome_graphCommand (h : Host) (a : GraphArguments) (c : Config) :
    outcome h (graphCommand a c) = (do
      let label ← (Dot.Label.parse (template a c)).mapError .label
      let g ← outcome h (closureOf a.manifest a.roots a.strict)
      let g ← outcome h (withoutStandard g a.standard c.graph)
      return Dot.render label g) := by
  simp only [graphCommand, Attempt.outcome_bind, Attempt.outcome_ofExcept, Attempt.outcome_report,
    Attempt.outcome_pure]
  rfl

/-! ### The graph is shown -/

theorem exists_withoutStandard (g : Graph) (ready : Ready h a c label m) :
    ∃ kept, outcome h (withoutStandard g a.standard c.graph) = .ok kept ∧
      ∀ p ∈ kept.packages, p ∈ g.packages := by
  rw [outcome_withoutStandard]
  by_cases stays : a.standard = true ∨ c.graph.includeStandard = true
  · rw [if_pos stays]
    exact ⟨g, rfl, fun _ hp => hp⟩
  · rw [if_neg stays, outcome_standardPackages]
    simp only [not_or, Bool.not_eq_true] at stays
    have part (standard : Graph) : ∀ p ∈ (g.subtract standard).packages, p ∈ g.packages :=
      fun p hp => (List.mem_filter.mp hp).1
    cases hlist : c.graph.standardList with
    | none => exact ⟨_, rfl, part _⟩
    | some path =>
      obtain ⟨text, read⟩ := ready.standard stays.1 stays.2 path hlist
      simp only [read]
      exact ⟨_, rfl, part _⟩

theorem closureOf_found (read : h.manifest a.manifest = .ok m) (distinct : m.ids.Nodup)
    (listed : a.strict = true → ∀ id, m.Reaches a.roots id → id ∈ m.ids) :
    ∃ found, outcome h (closureOf a.manifest a.roots a.strict) = .ok found ∧
      (∀ id, found.contains id = true ↔ m.Reaches a.roots id) ∧
      ∀ p ∈ found.packages, p.imports = m.importsOf p.id := by
  obtain ⟨found, closure, told⟩ := Manifest.closure_found distinct listed
  have catalog := Manifest.catalog_of_nodup distinct (!a.strict)
  exact ⟨found, closureOf_eq_ok.mpr ⟨m, _, read, catalog, closure⟩, told⟩

/-- If all conditions hold, the drawing of the one graph is shown. -/
theorem outcome_of_ready (ready : Ready h a c label m) :
    ∃ g, Shows h a c m g ∧ outcome h (graphCommand a c) = .ok (Dot.render label g) := by
  obtain ⟨found, closed, reached, imports⟩ :=
    closureOf_found ready.manifest ready.distinct ready.listed
  obtain ⟨kept, without, part⟩ := exists_withoutStandard found ready
  have ids := contains_withoutStandard without
  refine ⟨kept, ⟨fun id => ?_, fun p hp => imports p (part p hp), fun x y => ?_⟩, ?_⟩
  · rw [ids, reached]
  · cases hx : kept.contains x with
    | false =>
      rw [Graph.count_edges_of_notMem hx]
      simp
    | true =>
      obtain ⟨p, hp, rfl⟩ := Graph.contains_iff.mp hx
      rw [Graph.count_edges hp, imports p (part p hp)]
      simp
  · rw [outcome_graphCommand, ready.template, closed]
    show (do
      let g ← outcome h (withoutStandard found a.standard c.graph)
      return Dot.render label g) = _
    rw [without]
    rfl

/-! ### The first condition that does not hold -/

/-- The failure of the first condition that does not hold is what the command comes to. -/
theorem outcome_of_firstFault {f : Failure} (fault : FirstFault h a c f) :
    outcome h (graphCommand a c) = .error f := by
  rw [outcome_graphCommand]
  cases fault with
  | label bad =>
    rw [bad]
    rfl
  | unreadable parsed unread =>
    rw [parsed, outcome_closureOf, Host.manifest_of_unreadable unread]
    rfl
  | document parsed read bad =>
    rw [parsed, outcome_closureOf, Host.manifest_of_text read, Manifest.ofText, bad]
    rfl
  | @repeated _ m _ _ id parsed read split before again =>
    have refused : m.catalog (!a.strict) = .error (.duplicatePackage id) := by
      rw [Manifest.catalog, Manifest.repeated?_eq_some.mpr ⟨_, _, split, before, again⟩]
    rw [parsed, outcome_closureOf, read]
    simp only [Except.mapError, bind, Except.bind, refused]
  | unlisted parsed read distinct strict _ first =>
    have refused := Manifest.closure_refused first
    rw [parsed, outcome_closureOf, read]
    simp only [Except.mapError, bind, Except.bind, Manifest.catalog_of_nodup distinct, strict,
      Bool.not_true, refused]
  | @standardList _ _ path cause parsed read distinct listed leave leave' hlist unread =>
    obtain ⟨found, closed, -⟩ := closureOf_found read distinct listed
    have refused : outcome h (withoutStandard found a.standard c.graph) =
        .error (.standardList path cause) := by
      have leaves : ¬ (a.standard = true ∨ c.graph.includeStandard = true) := by
        simp [leave, leave']
      rw [outcome_withoutStandard, if_neg leaves, outcome_standardPackages, hlist]
      simp only [unread]
      rfl
    rw [parsed, closed]
    simp only [Except.mapError, bind, Except.bind, refused]

/-- Either all conditions hold, or there is a first one that does not. -/
theorem ready_or_firstFault (h : Host) (a : GraphArguments) (c : Config) :
    (∃ label m, Ready h a c label m) ∨ ∃ f, FirstFault h a c f := by
  cases parsed : Dot.Label.parse (template a c) with
  | error e => exact .inr ⟨_, .label parsed⟩
  | ok label =>
  cases read : h.fileText a.manifest with
  | error cause => exact .inr ⟨_, .unreadable parsed read⟩
  | ok text =>
  cases document : ((Format.ofPath? a.manifest).getD .json).parse Manifest text with
  | error e => exact .inr ⟨_, .document parsed read document⟩
  | ok m =>
  have manifest : h.manifest a.manifest = .ok m := by
    rw [Host.manifest_of_text read, Manifest.ofText, document]
    rfl
  cases repetition : m.repeated? with
  | some id =>
    obtain ⟨before, after, split, nodup, again⟩ := Manifest.repeated?_eq_some.mp repetition
    exact .inr ⟨_, .repeated parsed manifest split nodup again⟩
  | none =>
  have distinct : m.ids.Nodup := Manifest.repeated?_eq_none.mp repetition
  by_cases listed : a.strict = true → ∀ id, m.Reaches a.roots id → id ∈ m.ids
  case neg =>
    rw [Classical.not_imp] at listed
    obtain ⟨id, first⟩ := Manifest.exists_first_unlisted distinct listed.2
    have reached := (Manifest.mem_asked distinct).mp (Manifest.not_mem_of_first first).1
    exact .inr ⟨_, .unlisted parsed manifest distinct listed.1 reached first⟩
  by_cases readable : a.standard = false → c.graph.includeStandard = false →
    ∀ path, c.graph.standardList = some path → ∃ text, h.fileText path = .ok text
  case pos => exact .inl ⟨label, m, parsed, manifest, distinct, listed, readable⟩
  case neg =>
    push Not at readable
    obtain ⟨leave, leave', path, hlist, unread⟩ := readable
    cases failed : h.fileText path with
    | ok text => exact absurd failed (unread text)
    | error cause =>
      exact .inr ⟨_, .standardList parsed manifest distinct listed leave leave' hlist failed⟩

/-! ### What is asked for -/

theorem requests_closureOf (h : Host) (path : String) (roots : List String) (strict : Bool) :
    requests h (closureOf path roots strict) = [.file path] := by
  have loading : requests h (Manifest.load path) = [.file path] := by
    rw [Manifest.load, Attempt.requests_bind, Attempt.requests_adapt, Attempt.requests_readText]
    cases outcome h ((Attempt.readText path).adapt (ManifestError.unreadable path)) <;> rfl
  rw [closureOf, Attempt.requests_bind, Attempt.requests_adapt, loading]
  cases outcome h ((Manifest.load path).adapt (Failure.manifest path)) with
  | error e => rfl
  | ok m =>
    simp only [Attempt.requests_bind, Attempt.requests_ofExcept, Attempt.requests_report,
      Attempt.outcome_ofExcept, Attempt.outcome_report]
    cases (m.catalog !strict).mapError (Failure.invalidManifest path) <;> rfl

/-- When standard packages are to stay, nothing is asked for but the manifest. -/
theorem requests_graphCommand (h : Host) (a : GraphArguments) (c : Config)
    (stay : a.standard = true ∨ c.graph.includeStandard = true) :
    requests h (graphCommand a c) = [] ∨ requests h (graphCommand a c) = [.file a.manifest] := by
  have stays (g : Graph) : withoutStandard g a.standard c.graph = pure g := by
    rw [withoutStandard, if_pos (by simpa using stay)]
  rw [graphCommand, Attempt.requests_bind, Attempt.requests_ofExcept, Attempt.outcome_ofExcept,
    List.nil_append]
  cases (Dot.Label.parse (a.format.getD c.graph.labelFormat)).mapError Failure.label with
  | error e => exact .inl rfl
  | ok label =>
    refine .inr ?_
    simp only [stays, Attempt.requests_bind, requests_closureOf, Attempt.requests_pure,
      Attempt.requests_report, Attempt.outcome_pure, Attempt.outcome_report]
    cases outcome h (closureOf a.manifest a.roots a.strict) <;> rfl

/-! ### What is written -/

/-- A command line asks for a graph, and the configuration of its run and the filter for its log are
at hand. -/
def Asks (words : List String) (env : Environment) (h : Host) (a : GraphArguments) (c : Config) :
    Prop :=
  ∃ i filter, read words = .ok (.invoke i) ∧ i.command = .graph a ∧
    outcome h (loadConfig i.config env) = .ok c ∧ logFilter i env = some filter

/-- The command line ends as the command does. -/
theorem Asks.outcome_of {words : List String} {env : Environment} (asks : Asks words env h a c) :
    ∃ log, Outcome.of words env h = match outcome h (graphCommand a c) with
      | .ok text => .finished text log
      | .error f => .failed f log := by
  obtain ⟨i, filter, invoked, graph, loaded, filtered⟩ := asks
  have done : outcome h (execute i env) = outcome h (graphCommand a c) := by
    rw [execute, Attempt.outcome_bind, loaded]
    simp only [graph]
    rfl
  refine ⟨((execute i env).run.on h).1.filter filter.admits, ?_⟩
  rw [← done, Outcome.of, invoked]
  simp only [filtered]
  rfl

/-! ### The command -/

/-- A graph is shown exactly if the template of its labels is valid, the manifest can be read and
lists no id twice, a strict run reaches listed ids only, and a configured list of standard packages
can be read.  The last does not matter if standard packages are to stay: nothing is asked for then
but the manifest.  If a condition does not hold, the command comes to no text but to the failure of
the first that does not, and nothing is written.  What is written otherwise is the drawing of what
the manifest reaches, without the standard packages unless these are to stay. -/
theorem graphCommand_comes (h : Host) (a : GraphArguments) (c : Config) :
    ((∃ text, outcome h (graphCommand a c) = .ok text) ↔ ∃ label m, Ready h a c label m) ∧
    (∀ f, outcome h (graphCommand a c) = .error f ↔ FirstFault h a c f) ∧
    (∀ text, outcome h (graphCommand a c) = .ok text ↔ ∃ label m g,
      Ready h a c label m ∧ Shows h a c m g ∧ text = Dot.render label g) ∧
    (a.standard = true ∨ c.graph.includeStandard = true →
      requests h (graphCommand a c) = [] ∨ requests h (graphCommand a c) = [.file a.manifest]) ∧
    ∀ words env, Asks words env h a c →
      (∀ f, FirstFault h a c f → (∃ log, Outcome.of words env h = .failed f log) ∧
        (Outcome.of words env h).output = "") ∧
      ∀ label m g, Ready h a c label m → Shows h a c m g →
        (Outcome.of words env h).output = Dot.render label g := by
  refine ⟨⟨?_, ?_⟩, fun f => ⟨?_, outcome_of_firstFault⟩, fun text => ⟨?_, ?_⟩,
    requests_graphCommand h a c, fun words env asks => ⟨fun f fault => ?_, ?_⟩⟩
  · rintro ⟨text, ok⟩
    rcases ready_or_firstFault h a c with ready | ⟨f, fault⟩
    · exact ready
    · cases ok.symm.trans (outcome_of_firstFault fault)
  · rintro ⟨label, m, ready⟩
    obtain ⟨g, -, ok⟩ := outcome_of_ready ready
    exact ⟨_, ok⟩
  · intro error
    rcases ready_or_firstFault h a c with ⟨label, m, ready⟩ | ⟨f', fault⟩
    · obtain ⟨g, -, ok⟩ := outcome_of_ready ready
      cases error.symm.trans ok
    · cases error.symm.trans (outcome_of_firstFault fault)
      exact fault
  · intro ok
    rcases ready_or_firstFault h a c with ⟨label, m, ready⟩ | ⟨f, fault⟩
    · obtain ⟨g, shows_, ok'⟩ := outcome_of_ready ready
      exact ⟨label, m, g, ready, shows_, Except.ok.inj (ok.symm.trans ok')⟩
    · cases ok.symm.trans (outcome_of_firstFault fault)
  · rintro ⟨label, m, g, ready, shows_, rfl⟩
    obtain ⟨g', shows', ok⟩ := outcome_of_ready ready
    rw [ok, shows_.unique shows']
  · obtain ⟨log, ends⟩ := asks.outcome_of
    rw [outcome_of_firstFault fault] at ends
    rw [ends]
    exact ⟨⟨log, rfl⟩, rfl⟩
  · intro label m g ready shows_
    obtain ⟨g', shows', ok⟩ := outcome_of_ready ready
    obtain ⟨log, ends⟩ := asks.outcome_of
    rw [ok] at ends
    rw [ends, shows_.unique shows']
    rfl

/-- Standard packages that are to stay, of which there is a list that cannot be read, and the same
command line with a manifest that cannot be read. -/
theorem graphCommand_comes_stay :
    let m : Manifest := ⟨[⟨"a", ["fmt", "b"]⟩, ⟨"b", []⟩]⟩
    let c : Config := { graph := { standardList := some "list" } }
    let h : Host := ⟨fun
      | .isFile _ => false
      | .file path =>
        if path = "m" then .ok ⟨Text.encode (Json.compactText m).toList, none⟩
        else if path = "c.json" then .ok ⟨Text.encode (Json.compactText c).toList, none⟩
        else .error .notFound
      | .process _ => .error .notFound
      | .time => "now"⟩
    let a (manifest : String) : GraphArguments := ⟨manifest, ["a"], true, some "package", false⟩
    let words (manifest : String) : List String :=
      ["--config", "c.json", "graph", "--std", "--manifest", manifest, "--format=package", "a"]
    (∃ text, outcome h (graphCommand (a "m") c) = .ok text) ∧
      .file "list" ∉ requests h (graphCommand (a "m") c) ∧
      (∃ g, Shows h (a "m") c m g ∧
        (Outcome.of (words "m") {} h).output = Dot.render ⟨[.text "package".toList]⟩ g) ∧
      (∃ log, Outcome.of (words "n") {} h =
        .failed (.manifest "n" (.unreadable "n" .notFound)) log) ∧
      (Outcome.of (words "n") {} h).output = "" := by
  intro m c h a words
  have manifest : h.manifest "m" = .ok m :=
    Host.manifest_of_compactText (Host.fileText_of_encode rfl) (by decide)
  have label : Dot.Label.parse (template (a "m") c) = .ok ⟨[.text "package".toList]⟩ := by
    have opening : Dot.breakAtPair '\x7b' (template (a "m") c).toList = none := by decide
    have segments : Dot.readSegments (template (a "m") c).toList =
        .ok [.text "package".toList] := by
      have pieces : Dot.Segment.ofText (template (a "m") c).toList =
        [.text "package".toList] := by decide
      rw [Dot.readSegments]
      split
      · rw [pieces]
      · next yes => cases opening.symm.trans yes
    rw [Dot.Label.parse, segments]
  have ready : Ready h (a "m") c ⟨[.text "package".toList]⟩ m := by
    refine ⟨label, manifest, by decide, fun strict => ?_, fun leave => ?_⟩
    · cases strict
    · cases leave
  have configured : h.fileText "c.json" = .ok (Json.compactText c) := Host.fileText_of_encode rfl
  have asks : ∀ manifest ∈ ["m", "n"], Asks (words manifest) {} h (a manifest) c := by
    have loaded : outcome h (loadConfig (some "c.json") {}) = .ok c :=
      outcome_loadConfig configured (by decide)
    intro manifest either
    refine ⟨⟨some "c.json", .warn, .graph (a manifest)⟩, .atLeast .warn, ?_, rfl, loaded, rfl⟩
    simp only [List.mem_cons, List.not_mem_nil, or_false] at either
    rcases either with rfl | rfl <;> decide +kernel +zetaReduce
  obtain ⟨shown, -, -, asked, written⟩ := graphCommand_comes h (a "m") c
  obtain ⟨-, -, -, -, written'⟩ := graphCommand_comes h (a "n") c
  have fault : FirstFault h (a "n") c (.manifest "n" (.unreadable "n" .notFound)) :=
    .unreadable label rfl
  obtain ⟨g, shows_, -⟩ := outcome_of_ready ready
  refine ⟨shown.mpr ⟨_, _, ready⟩, ?_, ⟨g, shows_, ?_⟩, ?_⟩
  · rcases asked (.inl rfl) with none | one
    · rw [none]
      decide
    · rw [one]
      decide
  · exact (written _ _ (asks "m" (by decide))).2 _ _ _ ready shows_
  · exact (written' _ _ (asks "n" (by decide))).1 _ fault

end PackageCensus.CommandLine
