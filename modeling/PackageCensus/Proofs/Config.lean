import PackageCensus.Config
import PackageCensus.Proofs.Except
import PackageCensus.Proofs.Json.Printer

/-! # Configurations in part

A document may give any of the settings: the object of a section has just one member for each
setting that is chosen and none for the others, at any place, and whatever members of other names
(`Config.Given`).  What is read from such a document has the chosen settings from it and the default
of every other one (`Config.ofText_overlays`). -/

namespace PackageCensus

open Json (Document Members Named IsText Given under)

/-! ### Parts of a configuration -/

/-- The settings of a configuration. -/
inductive Setting where
  | program
  | arguments
  | includeStandard
  | labelFormat
  | standardList
  | limit
deriving DecidableEq

namespace Setting

variable {α : Type} (f : Setting) (S : Finset Setting) (value missing : α)

/-- The value of a setting if it is kept, and its default otherwise. -/
def keep : α := if f ∈ S then value else missing

/-- The value that a document is to give of a setting. -/
def chosen : Option α := if f ∈ S then some value else none

theorem getD_chosen : (f.chosen S value).getD missing = f.keep S value missing := by
  unfold chosen keep
  split <;> rfl

variable {f S value}

theorem keep_of_chosen_eq_none (h : f.chosen S value = none) :
    f.keep S value missing = missing := by
  rw [← getD_chosen, h, Option.getD_none]

end Setting

/-- The settings for symbol tables of which some are kept, and the others are the default. -/
def ToolConfig.keeping (S : Finset Setting) (c : ToolConfig) : ToolConfig :=
  let missing : ToolConfig := {}
  ⟨Setting.program.keep S c.program missing.program,
    Setting.arguments.keep S c.arguments missing.arguments⟩

/-- The settings for graphs of which some are kept, and the others are the default. -/
def GraphConfig.keeping (S : Finset Setting) (c : GraphConfig) : GraphConfig :=
  let missing : GraphConfig := {}
  ⟨Setting.includeStandard.keep S c.includeStandard missing.includeStandard,
    Setting.labelFormat.keep S c.labelFormat missing.labelFormat,
    Setting.standardList.keep S c.standardList missing.standardList⟩

/-- The settings for weights of which some are kept, and the others are the default. -/
def WeightConfig.keeping (S : Finset Setting) (c : WeightConfig) : WeightConfig :=
  let missing : WeightConfig := {}
  ⟨Setting.limit.keep S c.limit missing.limit⟩

/-- The configuration of which some settings are kept, and the others are the default. -/
def Config.keeping (S : Finset Setting) (c : Config) : Config :=
  ⟨c.tool.keeping S, c.graph.keeping S, c.weight.keeping S⟩

/-! ### What documents give -/

section Members

variable {α : Type} (depicts : Document → α → Prop) (gives : Members → Prop) (name : String)
  (ms : Members)

/-- Whether members give what may be left out or be given as nothing. -/
def GivenOrNull : Option α → Prop
  | none => under name ms = [] ∨ under name ms = [.null]
  | some value => Given depicts name ms (some value)

/-- Whether members give a section, which may be left out if it is to give nothing. -/
def GivenSection : Prop :=
  (under name ms = [] ∧ gives []) ∨ ∃ inner, under name ms = [.object inner] ∧ gives inner

end Members

/-- Whether a document is a list of strings with some texts. -/
def IsTexts (d : Document) (ss : List String) : Prop :=
  ∃ items, d = .list items ∧ List.Forall₂ IsText items ss

/-- Whether members give the chosen settings for symbol tables. -/
structure ToolConfig.Given (S : Finset Setting) (c : ToolConfig) (ms : Members) : Prop where
  named : Named ms
  program : Json.Given IsText "program" ms (Setting.program.chosen S c.program)
  arguments : Json.Given IsTexts "args" ms (Setting.arguments.chosen S c.arguments)

/-- Whether members give the chosen settings for graphs. -/
structure GraphConfig.Given (S : Finset Setting) (c : GraphConfig) (ms : Members) : Prop where
  named : Named ms
  includeStandard : Json.Given (fun d b => d = .boolean b) "include_std" ms
    (Setting.includeStandard.chosen S c.includeStandard)
  labelFormat : Json.Given IsText "label_format" ms
    (Setting.labelFormat.chosen S c.labelFormat)
  standardList : GivenOrNull IsText "std_list" ms
    (Setting.standardList.keep S c.standardList none)

/-- Whether members give the chosen settings for weights. -/
structure WeightConfig.Given (S : Finset Setting) (c : WeightConfig) (ms : Members) : Prop where
  named : Named ms
  limit : GivenOrNull (fun d (n : UInt64) => d = .number (.ofInt n.toNat)) "limit" ms
    (Setting.limit.keep S c.limit none)

/-- Whether members give the chosen settings. -/
structure Config.Given (S : Finset Setting) (c : Config) (ms : Members) : Prop where
  named : Named ms
  tool : GivenSection (c.tool.Given S) "nm" ms
  graph : GivenSection (c.graph.Given S) "graph" ms
  weight : GivenSection (c.weight.Given S) "weight" ms

/-! ### Reading what is given -/

section Members

variable {α : Type} {depicts : Document → α → Prop} {gives : Members → Prop} {name : String}
  {ms : Members}

theorem eq_none_of_given_nil {value : Option α} (h : Json.Given depicts name [] value) :
    value = none := by
  cases value with
  | none => rfl
  | some value =>
    obtain ⟨d, given, -⟩ := h
    cases given

theorem eq_none_of_givenOrNull_nil {value : Option α} (h : GivenOrNull depicts name [] value) :
    value = none := by
  cases value with
  | none => rfl
  | some value => exact eq_none_of_given_nil h

/-- What is left out and what is given as nothing come to the same. -/
theorem GivenOrNull.depicted (inner : Shape) {value : Option inner.Carrier}
    (h : GivenOrNull inner.Depicts name ms value) :
    ∃ met, Json.Given (Shape.optional inner).Depicts name ms met ∧ met.getD none = value := by
  cases value with
  | none =>
    obtain left | null := h
    · exact ⟨none, left, rfl⟩
    · exact ⟨some none, ⟨_, null, rfl⟩, rfl⟩
  | some value => exact ⟨some (some value), h, rfl⟩

theorem givenOrNull_of_given {inner : Shape} {value : Option inner.Carrier}
    (h : Json.Given (Shape.optional inner).Depicts name ms (value.map some)) :
    GivenOrNull inner.Depicts name ms value := by
  cases value with
  | none => exact .inl h
  | some value => exact h

variable [Shaped α] {kept missing : α}

/-- A section that is left out comes to its default, and so does what it gives if it gives
nothing. -/
theorem GivenSection.depicted (h : GivenSection gives name ms) (empty : gives [] → kept = missing)
    (full : ∀ inner, gives inner →
      ∃ v, (Shaped.shape α).Depicts (.object inner) v ∧ Shaped.ofCarrier v = kept) :
    ∃ met, Json.Given (Shaped.shape α).Depicts name ms met ∧ Shaped.field α missing met = kept := by
  obtain ⟨left, nothing⟩ | ⟨inner, given, gives⟩ := h
  · exact ⟨none, left, (empty nothing).symm⟩
  · obtain ⟨v, depicts, made⟩ := full inner gives
    exact ⟨some v, ⟨_, given, depicts⟩, made⟩

end Members

section Sections

variable {S : Finset Setting} {ms : Members}

theorem ToolConfig.Given.depicted {c : ToolConfig} (h : c.Given S ms) :
    ∃ v, (Shaped.shape ToolConfig).Depicts (.object ms) v ∧ Shaped.ofCarrier v = c.keeping S := by
  refine ⟨(_, _, ()), ⟨ms, rfl, h.named, h.program, h.arguments, trivial⟩, ?_⟩
  show ToolConfig.mk (Option.getD _ _) (Option.getD _ _) = _
  rw [Setting.getD_chosen, Setting.getD_chosen]
  rfl

theorem ToolConfig.Given.eq_of_nil {c : ToolConfig} (h : c.Given S []) : c.keeping S = {} := by
  have program := eq_none_of_given_nil h.program
  have arguments := eq_none_of_given_nil h.arguments
  rw [keeping, Setting.keep_of_chosen_eq_none _ program, Setting.keep_of_chosen_eq_none _ arguments]

theorem GraphConfig.Given.depicted {c : GraphConfig} (h : c.Given S ms) :
    ∃ v, (Shaped.shape GraphConfig).Depicts (.object ms) v ∧ Shaped.ofCarrier v = c.keeping S := by
  obtain ⟨standardList, given, kept⟩ := GivenOrNull.depicted .path h.standardList
  refine ⟨(_, _, standardList, ()),
    ⟨ms, rfl, h.named, h.includeStandard, h.labelFormat, given, trivial⟩, ?_⟩
  show GraphConfig.mk (Option.getD _ _) (Option.getD _ _) (standardList.getD none) = _
  rw [Setting.getD_chosen, Setting.getD_chosen, kept]
  rfl

theorem GraphConfig.Given.eq_of_nil {c : GraphConfig} (h : c.Given S []) : c.keeping S = {} := by
  have includeStandard := eq_none_of_given_nil h.includeStandard
  have labelFormat := eq_none_of_given_nil h.labelFormat
  have standardList := eq_none_of_givenOrNull_nil h.standardList
  rw [keeping, Setting.keep_of_chosen_eq_none _ includeStandard,
    Setting.keep_of_chosen_eq_none _ labelFormat, standardList]

theorem WeightConfig.Given.depicted {c : WeightConfig} (h : c.Given S ms) :
    ∃ v, (Shaped.shape WeightConfig).Depicts (.object ms) v ∧ Shaped.ofCarrier v = c.keeping S := by
  obtain ⟨limit, given, kept⟩ := GivenOrNull.depicted (.unsigned "usize") h.limit
  exact ⟨(limit, ()), ⟨ms, rfl, h.named, given, trivial⟩, congrArg WeightConfig.mk kept⟩

theorem WeightConfig.Given.eq_of_nil {c : WeightConfig} (h : c.Given S []) : c.keeping S = {} :=
  congrArg WeightConfig.mk (eq_none_of_givenOrNull_nil h.limit)

theorem Config.Given.depicted {c : Config} (h : c.Given S ms) :
    ∃ v, (Shaped.shape Config).Depicts (.object ms) v ∧ Shaped.ofCarrier v = c.keeping S := by
  obtain ⟨tool, givenTool, keptTool⟩ :=
    h.tool.depicted (fun gives => gives.eq_of_nil) fun _ gives => gives.depicted
  obtain ⟨graph, givenGraph, keptGraph⟩ :=
    h.graph.depicted (fun gives => gives.eq_of_nil) fun _ gives => gives.depicted
  obtain ⟨weight, givenWeight, keptWeight⟩ :=
    h.weight.depicted (fun gives => gives.eq_of_nil) fun _ gives => gives.depicted
  refine ⟨(tool, graph, weight, ()),
    ⟨ms, rfl, h.named, givenTool, givenGraph, givenWeight, trivial⟩, ?_⟩
  show Config.mk (Shaped.field ToolConfig {} tool) (Shaped.field GraphConfig {} graph)
    (Shaped.field WeightConfig {} weight) = _
  rw [keptTool, keptGraph, keptWeight]
  rfl

end Sections

/-! ### Whole configurations -/

namespace Config

theorem shape_clear : (Shaped.shape Config).clear = true := by decide

theorem ofCarrier_toCarrier (c : Config) : Shaped.ofCarrier (Shaped.toCarrier c) = c := by
  have list : (c.graph.standardList.map some).getD none = c.graph.standardList := by
    cases c.graph.standardList <;> rfl
  have limit : (c.weight.limit.map some).getD none = c.weight.limit := by
    cases c.weight.limit <;> rfl
  show Config.mk c.tool ⟨_, _, (c.graph.standardList.map some).getD none⟩
    ⟨(c.weight.limit.map some).getD none⟩ = c
  rw [list, limit]
  rfl

/-- Any settings of a configuration are given by some document. -/
theorem exists_given (c : Config) (S : Finset Setting) :
    ∃ text ms, Json.Holds text (.object ms) ∧ c.Given S ms := by
  let tool : ToolConfig.shape.Carrier :=
    (Setting.program.chosen S c.tool.program, Setting.arguments.chosen S c.tool.arguments, ())
  let graph : GraphConfig.shape.Carrier :=
    (Setting.includeStandard.chosen S c.graph.includeStandard,
      Setting.labelFormat.chosen S c.graph.labelFormat,
      (Setting.standardList.keep S c.graph.standardList none).map some, ())
  let weight : WeightConfig.shape.Carrier :=
    ((Setting.limit.keep S c.weight.limit none).map some, ())
  let v : Config.shape.Carrier := (some tool, some graph, some weight, ())
  obtain ⟨ms, hms, named, ⟨_, underTool, toolMembers, rfl, toolNamed, program, arguments, -⟩,
    ⟨_, underGraph, graphMembers, rfl, graphNamed, includeStandard, labelFormat, standardList, -⟩,
    ⟨_, underWeight, weightMembers, rfl, weightNamed, limit, -⟩, -⟩ :=
    Json.depicts_shapeValue Config.shape shape_clear v
  have holds := Json.holds_of_written (Json.written_compact (Json.shapeValue Config.shape v))
  rw [hms] at holds
  exact ⟨_, ms, holds, named, .inr ⟨_, underTool, toolNamed, program, arguments⟩,
    .inr ⟨_, underGraph, graphNamed, includeStandard, labelFormat,
      givenOrNull_of_given standardList⟩,
    .inr ⟨_, underWeight, weightNamed, givenOrNull_of_given limit⟩⟩

theorem ofText_json {text : String} {c : Config} (h : Json.parse Config text = .ok c) :
    ofText .json text = .ok c := by
  rw [ofText, if_neg fun yaml => nomatch yaml.1]
  exact mapError_eq_ok.mpr (mapError_eq_ok.mpr h)

/-- Any part of a configuration overlays the default: what is read from a text of an object that
gives the chosen settings of a configuration, in any order and among any other members, has these
settings and the default of the others.  There is such a text for any choice of settings.  What is
written of a configuration is read as the configuration. -/
theorem ofText_overlays :
    (∀ (c : Config) (S : Finset Setting) (ms : Members) (text : String),
      Json.Holds text (.object ms) → c.Given S ms → ofText .json text = .ok (c.keeping S)) ∧
    (∀ (c : Config) (S : Finset Setting),
      ∃ text ms, Json.Holds text (.object ms) ∧ c.Given S ms) ∧
    ∀ c : Config, ofText .json (Json.compactText c) = .ok c ∧
      ofText .json (Json.prettyText c) = .ok c := by
  refine ⟨fun c S ms text holds given => ofText_json ?_, exists_given, fun c => ?_⟩
  · obtain ⟨v, depicts, kept⟩ := given.depicted
    rw [Json.parse, Json.readAs_holds shape_clear holds depicts, ← kept]
    rfl
  · have compact := Json.parse_compactText shape_clear c
    have pretty := Json.parse_prettyText shape_clear c
    rw [ofCarrier_toCarrier] at compact pretty
    exact ⟨ofText_json compact, ofText_json pretty⟩

set_option maxRecDepth 4000 in
/-- Two sections given in part, behind an unknown member that holds a number out of range and half
of a pair of surrogates. -/
theorem ofText_overlays_partly :
    ofText .json "\x7b\"x\": [1e999,\x7b\"\\ud800\":null\x7d],\"graph\":\x7b\"std_list\":null,
      \"label_format\":\"\\u0061\\\"\"\x7d,\"weight\":\x7b\x7d\x7d" =
      .ok { graph := { labelFormat := "a\"" } } := by
  let name (s : String) := s.toList.map Json.writtenPiece
  have written (s : String) := Json.written_pieces s.toList
  let graph : Members :=
    [(name "std_list", .null), (name "label_format", .text [.unit 0x61, .char '"'])]
  let number : Json.NumberForm := ⟨false, ['1'], none, some (false, ['9', '9', '9'])⟩
  let other : Document := .list [.number number, .object [([.unit 0xD800], .null)]]
  let ms : Members :=
    [(name "x", other), (name "graph", .object graph), (name "weight", .object [])]
  let c : Config := { tool := { program := "nm" }, graph := { labelFormat := "a\"" } }
  have given : c.Given {.labelFormat, .standardList} ms :=
    ⟨by decide, .inl ⟨rfl, by decide, rfl, rfl⟩,
      .inr ⟨graph, rfl, by decide, rfl, ⟨_, rfl, _, rfl, by decide⟩, .inr rfl⟩,
      .inr ⟨[], rfl, by decide, .inl rfl⟩⟩
  have blank : Json.Blank [] := Json.blank_nil
  have space : Json.Blank [' '] := Json.blank_space
  have line : Json.Blank (Json.newLine 3) := Json.blank_newLine 3
  have one : Json.NumberForm.Whole ['1'] := .inr ⟨⟨nofun, List.all_eq_true.mp rfl⟩, nofun⟩
  have nines : Json.NumberForm.Digits ['9', '9', '9'] := ⟨nofun, List.all_eq_true.mp rfl⟩
  have writtenNumber : number.Written _ :=
    .positive rfl (.mk one .absent (.present (.inl rfl) .absent nines))
  have half : Json.WrittenPieces [.unit 0xD800] "\\ud800\"".toList := .cons (.unit rfl) .close
  have writtenOther : Json.Written other _ :=
    .list (.cons blank (.number writtenNumber) blank
      (.last blank (.object (.last blank half blank blank .null blank)) blank))
  have format : Json.WrittenPieces [.unit 0x61, .char '"'] "\\u0061\\\"\"".toList :=
    .cons (.unit rfl) (.cons (.escape rfl) .close)
  have writtenGraph : Json.Written (.object graph) _ :=
    .object (.cons blank (written "std_list") blank blank .null blank
      (.last line (written "label_format") blank blank (.text format) blank))
  have writtenAll : Json.Written (.object ms) _ :=
    .object (.cons blank (written "x") blank space writtenOther blank
      (.cons blank (written "graph") blank blank writtenGraph blank
        (.last blank (written "weight") blank blank (.emptyObject blank) blank)))
  exact ofText_overlays.1 c _ ms _ ⟨[], _, [], blank, writtenAll, blank, String.toList_ofList⟩ given

end Config

end PackageCensus
