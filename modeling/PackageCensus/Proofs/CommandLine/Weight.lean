import Mathlib
import PackageCensus.Proofs.CommandLine.Graph
import PackageCensus.Proofs.Graph.Strict
import PackageCensus.Proofs.Symbol.Line
import PackageCensus.Proofs.Symbol.Table
import PackageCensus.Proofs.Symbol.Tool
import PackageCensus.Proofs.Weight.Aggregate

/-! # What the weights of a binary account for

Whenever the command that shows weights comes to a text, its rows and their sum account for the
symbols of the table whose package is in scope (`rows_account`).  The report behind the text does
not depend on the limit (`fullReport_limit`), which only says how many of the rows are listed
(`weightText_eq`). -/

namespace PackageCensus.CommandLine

open Attempt (outcome)

variable {h : Host} {a : WeightArguments} {c : Config} {env : Environment}

/-! ### Scopes -/

/-- The packages that the rows of a listing are restricted to: with a manifest those that it
reaches from the roots, without the standard packages unless these are to stay. -/
def InScope (h : Host) (a : WeightArguments) (c : GraphConfig) (id : String) : Prop :=
  match a.scope with
  | none => True
  | some (manifest, roots) =>
    (∃ m, h.manifest manifest = .ok m ∧ m.Reaches roots id) ∧
      (a.standard = true ∨ c.includeStandard = true ∨ ¬ IsStandard h c id)

/-- Whether a package belongs to the rows that are restricted to a scope. -/
def admits (scope : Option Graph) (id : String) : Bool := scope.all (·.contains id)

theorem weightRows_eq (symbols : List Symbol) (scope : Option Graph) :
    weightRows symbols scope =
      (Weight.aggregate symbols).filter fun row => admits scope row.package := by
  cases scope with
  | none => simp [weightRows, admits]
  | some g => rfl

theorem outcome_scopeGraph (h : Host) (a : WeightArguments) (c : Config) :
    outcome h (scopeGraph a c) = match a.scope with
      | none => .ok none
      | some (manifest, roots) => outcome h (closureOf manifest roots false) >>= fun g =>
        (outcome h (withoutStandard g a.standard c.graph)).map some := by
  unfold scopeGraph
  cases a.scope with
  | none => rfl
  | some restriction => simp only [Attempt.outcome_bind, Attempt.outcome_map]

theorem admits_scopeGraph {scope : Option Graph} (ok : outcome h (scopeGraph a c) = .ok scope)
    (id : String) : admits scope id = true ↔ InScope h a c.graph id := by
  rw [outcome_scopeGraph] at ok
  unfold InScope
  cases hscope : a.scope with
  | none =>
    simp only [hscope, Except.ok.injEq] at ok
    simp [← ok, admits]
  | some restriction =>
    obtain ⟨manifest, roots⟩ := restriction
    simp only [hscope, bind_eq_ok, map_eq_ok] at ok
    obtain ⟨g, hg, kept, hk, rfl⟩ := ok
    obtain ⟨m, hm, reached⟩ := contains_closureOf hg
    have unique : (∃ m, h.manifest manifest = .ok m ∧ m.Reaches roots id) ↔ m.Reaches roots id := by
      simp [hm]
    rw [admits, Option.all_some, contains_withoutStandard hk, reached, ← unique]

/-! ### Reports -/

theorem size_nonneg_of_symbols {source : Source} {kept : List Symbol}
    (ok : SymbolTable.symbols source = .ok kept) : ∀ s ∈ kept, 0 ≤ s.size.toInt := by
  intro s hs
  obtain ⟨line, parsed⟩ := SymbolTable.parsed_of_symbols ok hs
  exact Symbol.size_nonneg_of_parse parsed

theorem symbolsOf_eq_ok {binary : String} {kept : List Symbol} :
    outcome h (symbolsOf binary c env) = .ok kept ↔ h.answer (.isFile binary) = true ∧
      ∃ source, TableOf h (SymbolTool.ofConfig c.tool env.toolProgram?) env.substituteTable? binary
        source ∧ SymbolTable.symbols source = .ok kept := by
  rw [symbolsOf, Attempt.outcome_adapt, mapError_eq_ok, SymbolTool.symbols_eq_ok]

theorem fullReport_eq_ok {r : WeightReport} : outcome h (fullReport a c env) = .ok r ↔
    ∃ kept scope hash, outcome h (symbolsOf a.binary c env) = .ok kept ∧
      outcome h (scopeGraph a c) = .ok scope ∧ outcome h (binaryDigest a) = .ok hash ∧
      r = WeightReport.make a.binary hash (h.answer .time) (weightRows kept scope) := by
  simp only [fullReport, Attempt.outcome_bind, Attempt.outcome_report, Attempt.outcome_time,
    Attempt.outcome_pure, bind_eq_ok, Except.ok.injEq]
  constructor
  · rintro ⟨kept, hk, scope, hs, -, -, hash, hd, _, rfl, rfl⟩
    exact ⟨kept, scope, hash, hk, hs, hd, rfl⟩
  · rintro ⟨kept, scope, hash, hk, hs, hd, rfl⟩
    exact ⟨kept, hk, scope, hs, (), trivial, hash, hd, _, rfl, rfl⟩

theorem weightCommand_eq_ok {text : String} : outcome h (weightCommand a c env) = .ok text ↔
    ∃ full, outcome h (fullReport a c env) = .ok full ∧
      weightText a.json (full.limit ((a.limit <|> c.weight.limit).map UInt64.toNat)) = text := by
  simp only [weightCommand, Attempt.outcome_bind, Attempt.outcome_pure, bind_eq_ok,
    Except.ok.injEq]

/-- The full report does not depend on limits or on how it is to be shown. -/
theorem fullReport_limit (json : Bool) (flag setting : Option UInt64) :
    fullReport { a with json := json, limit := flag } { c with weight := { limit := setting } } env =
      fullReport a c env := rfl

/-- A full report is made of rows that account for the symbols in scope. -/
theorem rows_account {full : WeightReport} (ok : outcome h (fullReport a c env) = .ok full) :
    ∃ source kept digest? rows,
      TableOf h (SymbolTool.ofConfig c.tool env.toolProgram?) env.substituteTable? a.binary source ∧
      SymbolTable.symbols source = .ok kept ∧ outcome h (binaryDigest a) = .ok digest? ∧
      Weight.Accounts kept (InScope h a c.graph) rows (Weight.total rows) ∧
      full = .make a.binary digest? (h.answer .time) rows := by
  obtain ⟨kept, scope, digest?, hk, hs, hd, rfl⟩ := fullReport_eq_ok.mp ok
  obtain ⟨-, source, table, symbols⟩ := symbolsOf_eq_ok.mp hk
  refine ⟨source, kept, digest?, weightRows kept scope, table, symbols, hd, ?_, rfl⟩
  rw [weightRows_eq]
  exact Weight.accounts_filter (size_nonneg_of_symbols symbols) (admits_scopeGraph hs)

/-! ### What is shown -/

/-- A row as it is shown in a document. -/
def rowValue (w : PackageWeight) : Json.Value :=
  .object [("package", .text w.package), ("size", .integer w.size.toInt),
    ("symbols", .integer (UInt64.ofNat w.symbols).toNat)]

/-- The rows that are listed. -/
def listed (limit : Option UInt64) (rows : List PackageWeight) : List PackageWeight :=
  match limit with
  | some n => rows.take n.toNat
  | none => rows

/-- A sum and rows as they are shown, after some lines or members. -/
def shown (json : Bool) (lines : List String) (members : List (String × Json.Value)) (sum : Int64)
    (rows : List PackageWeight) : String :=
  if json then
    textOf [String.ofList (Json.pretty 0 (.object (members ++
      [("total_size", .integer sum.toInt), ("packages", .list (rows.map rowValue))])))]
  else
    textOf (lines ++ ["Total size: " ++ toString sum.toInt, "Packages:"] ++
      if rows = [] then ["(none)"] else rows.map weightLine)

theorem limit_eq (r : WeightReport) (limit : Option UInt64) :
    r.limit (limit.map UInt64.toNat) = { r with packages := listed limit r.packages } := by
  cases limit <;> rfl

/-- The lines before the sum: the binary, and its digest if it was taken. -/
def headLines (binary : String) (digest? : Option String) : List String :=
  ("Binary: " ++ binary) :: (digest?.map ("SHA-256: " ++ ·)).toList

/-- The members before the sum: as well the time and the version of the program. -/
def headMembers (binary : String) (digest? : Option String) (time made : String) :
    List (String × Json.Value) :=
  ("binary", .text binary) :: ((digest?.map fun digest => ("binary_hash", .text digest)).toList ++
    [("generated_at", .text time), ("tool_version", .text made)])

theorem value_eq (r : WeightReport) :
    Json.shapeValue WeightReport.shape (Shaped.toCarrier r) =
      .object (headMembers r.binary r.binaryHash r.generatedAt r.toolVersion ++
        [("total_size", .integer r.totalSize.toInt),
          ("packages", .list (r.packages.map rowValue))]) := by
  have rows : (r.packages.map Shaped.toCarrier).map (Json.shapeValue PackageWeight.shape) =
      r.packages.map rowValue := List.map_map
  rw [← rows]
  obtain ⟨binary, hash, time, version, sum, packages⟩ := r
  cases hash <;> rfl

theorem weightLines_eq (r : WeightReport) :
    weightLines r = headLines r.binary r.binaryHash ++
      ["Total size: " ++ toString r.totalSize.toInt, "Packages:"] ++
        if r.packages = [] then ["(none)"] else r.packages.map weightLine := by
  simp [weightLines, headLines]

/-- A report is shown by its sum and its rows, behind what does not depend on the limit. -/
theorem weightText_eq (r : WeightReport) (json : Bool) (limit : Option UInt64) :
    weightText json (r.limit (limit.map UInt64.toNat)) =
      shown json (headLines r.binary r.binaryHash)
        (headMembers r.binary r.binaryHash r.generatedAt r.toolVersion) r.totalSize
        (listed limit r.packages) := by
  rw [limit_eq]
  cases json with
  | true =>
    show textOf [String.ofList (Json.pretty 0 (Json.shapeValue WeightReport.shape _))] = _
    rw [value_eq]
    rfl
  | false =>
    show textOf (weightLines _) = _
    rw [weightLines_eq]
    rfl

/-- Whenever weights are shown, the rows and their sum account for the symbols of the table whose
package is in scope.  With any limits, and for either output, the command then shows the same sum
after the same lines or members, and of the rows as many as the limit allows, that of the command
line going before that of the configuration. -/
theorem weightCommand_accounts {text : String}
    (ok : outcome h (weightCommand a c env) = .ok text) :
    ∃ source kept digest? rows sum,
      TableOf h (SymbolTool.ofConfig c.tool env.toolProgram?) env.substituteTable? a.binary source ∧
      SymbolTable.symbols source = .ok kept ∧
      outcome h (binaryDigest a) = .ok digest? ∧
      Weight.Accounts kept (InScope h a c.graph) rows sum ∧
      text = shown a.json (headLines a.binary digest?)
        (headMembers a.binary digest? (h.answer .time) version) sum
        (listed (a.limit <|> c.weight.limit) rows) ∧
      ∀ json flag setting,
        outcome h (weightCommand { a with json := json, limit := flag }
          { c with weight := { limit := setting } } env) =
          .ok (shown json (headLines a.binary digest?)
            (headMembers a.binary digest? (h.answer .time) version) sum
            (listed (flag <|> setting) rows)) := by
  obtain ⟨full, hfull, rfl⟩ := weightCommand_eq_ok.mp ok
  obtain ⟨source, kept, digest?, rows, table, symbols, digest, accounts, rfl⟩ := rows_account hfull
  have text_eq := weightText_eq (.make a.binary digest? (h.answer .time) rows)
  refine ⟨source, kept, digest?, rows, Weight.total rows, table, symbols, digest, accounts,
    text_eq _ _, fun json flag setting => ?_⟩
  rw [weightCommand_eq_ok]
  refine ⟨_, ?_, text_eq json (flag <|> setting)⟩
  rw [fullReport_limit]
  exact hfull

/-- A scope of two packages beside a standard one that is taken away, and a limit on the command
line that cuts off one of two rows.  Without it the limit of the configuration lets both stand. -/
theorem weightCommand_accounts_scope :
    let table := "5 T app.main\n9 T lib.f\n20 T fmt.Print\n7 D app.x\n40 T other.y\n"
    let m : Manifest := ⟨[⟨"app", ["fmt", "lib"]⟩, ⟨"other", []⟩]⟩
    let text (path : String) : String :=
      if path = "table" then table
      else if path = "list" then "# ours\nfmt\n"
      else Json.compactText m
    let h : Host := ⟨fun
      | .isFile _ => true
      | .file path => .ok ⟨Text.encode (text path).toList, none⟩
      | .process _ => .error .notFound
      | .time => "now"⟩
    let a : WeightArguments := ⟨"x", false, some 1, some ("m", ["app"]), false, true⟩
    let c : Config := { graph := { standardList := some "list" }, weight := { limit := some 5 } }
    let env : Environment := { substituteTable? := some "table" }
    outcome h (weightCommand a c env) =
      .ok "Binary: x\nTotal size: 21\nPackages:\n          12        2  app\n" ∧
    outcome h (weightCommand { a with json := true, limit := none } c env) = .ok
      ("\x7b\n  \"binary\": \"x\",\n  \"generated_at\": \"now\",\n" ++
        "  \"tool_version\": \"0.1.0\",\n  \"total_size\": 21,\n  \"packages\": [\n    \x7b\n" ++
        "      \"package\": \"app\",\n      \"size\": 12,\n      \"symbols\": 2\n    \x7d,\n" ++
        "    \x7b\n      \"package\": \"lib\",\n      \"size\": 9,\n      \"symbols\": 1\n" ++
        "    \x7d\n  ]\n\x7d\n") := by
  intro table m text h a c env
  let kept : List Symbol :=
    [⟨0, 5, 'T', "app.main", "", ["app"], "main"⟩, ⟨0, 9, 'T', "lib.f", "", ["lib"], "f"⟩,
      ⟨0, 20, 'T', "fmt.Print", "", ["fmt"], "Print"⟩, ⟨0, 7, 'D', "app.x", "", ["app"], "x"⟩,
      ⟨0, 40, 'T', "other.y", "", ["other"], "y"⟩]
  have parsed : SymbolTable.symbols ⟨Text.encode table.toList, none⟩ = .ok kept := by
    rw [SymbolTable.symbols_eq, SymbolTable.judgeFrom_eq_ok]
    exact ⟨kept, by decide +zetaReduce, by cbv⟩
  have read : outcome h (symbolsOf "x" c env) = .ok kept :=
    symbolsOf_eq_ok.mpr ⟨rfl, _, .substitute rfl rfl, parsed⟩
  have manifest : h.manifest "m" = .ok m :=
    Host.manifest_of_compactText (Host.fileText_of_encode rfl) (by decide)
  have catalog : m.catalog true = .ok ⟨.ofList m.packages, true⟩ :=
    Manifest.catalog_of_nodup (by decide) true
  let found : Graph :=
    ((Graph.empty.insert ⟨"app", ["fmt", "lib"]⟩).insert ⟨"fmt", []⟩).insert ⟨"lib", []⟩
  have made : Closure.Yields (Catalog.imports ⟨.ofList m.packages, true⟩) ["app"] .empty _ :=
    .resolved rfl rfl <| .resolved rfl rfl <| .resolved rfl rfl <| .done _
  have reached := congrArg Closure.Run.outcome
    (Closure.walk_eq made (Resolver.ends (Catalog.resolver _) ["app"]))
  have closed : outcome h (closureOf "m" ["app"] false) = .ok found :=
    closureOf_eq_ok.mpr ⟨m, _, manifest, catalog, reached⟩
  have list : h.fileText "list" = .ok "# ours\nfmt\n" := Host.fileText_of_encode rfl
  have standard : outcome h (standardPackages c.graph) = .ok (StandardList.parse "# ours\nfmt\n") :=
    outcome_standardPackages_of_text list rfl
  let scope : Graph := found.subtract (StandardList.parse "# ours\nfmt\n")
  have without : outcome h (withoutStandard found false c.graph) = .ok scope := by
    rw [outcome_withoutStandard, standard]
    rfl
  have restricted : outcome h (scopeGraph a c) = .ok (some scope) := by
    rw [outcome_scopeGraph]
    exact bind_eq_ok.mpr ⟨found, closed, map_eq_ok.mpr ⟨scope, without, rfl⟩⟩
  have rows : weightRows kept scope = [⟨"app", 12, 2⟩, ⟨"lib", 9, 1⟩] := by
    simp only [kept, scope, found]
    cbv
  have full := fullReport_eq_ok.mpr ⟨kept, _, none, read, restricted, rfl, rfl⟩
  have ok := weightCommand_eq_ok.mpr ⟨_, full, rfl⟩
  obtain ⟨source, kept', digest?, rows', sum, made, symbols, digest, accounts, shown_, again⟩ :=
    weightCommand_accounts ok
  obtain rfl : source = ⟨Text.encode table.toList, none⟩ := by
    cases made with
    | substitute named answer =>
      cases named
      exact (Except.ok.inj answer).symm
    | made none => cases none
  obtain rfl : kept' = kept := Except.ok.inj (symbols.symm.trans parsed)
  obtain rfl : digest? = none := Except.ok.inj digest.symm
  have known :=
    Weight.accounts_filter (size_nonneg_of_symbols parsed) (admits_scopeGraph restricted)
  have twenty_one : Weight.total [⟨"app", 12, 2⟩, ⟨"lib", 9, 1⟩] = 21 := by decide
  rw [← weightRows_eq, rows, twenty_one] at known
  obtain ⟨rfl, rfl⟩ := accounts.unique known
  have lines : shown false (headLines "x" none) (headMembers "x" none "now" version) 21
      [⟨"app", 12, 2⟩] = "Binary: x\nTotal size: 21\nPackages:\n          12        2  app\n" := by
    decide +kernel
  have document := again true none (some 5)
  refine ⟨ok.trans (congrArg Except.ok (shown_.trans lines)), document.trans ?_⟩
  show Except.ok (shown true (headLines "x" none) (headMembers "x" none "now" version) 21
    [⟨"app", 12, 2⟩, ⟨"lib", 9, 1⟩]) = _
  decide +kernel

end PackageCensus.CommandLine
