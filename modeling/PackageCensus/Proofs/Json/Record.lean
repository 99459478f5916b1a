import PackageCensus.Manifest
import PackageCensus.Proofs.Except
import PackageCensus.Proofs.Json.Printer
import PackageCensus.Symbol.Record
import PackageCensus.Weight.Report

/-! # Records in documents

Each record type makes its values back from their carriers (`Symbol.ofCarrier_toCarrier` and its
like): a field that is left out stands for the one value for which it is left out.  Counts of symbols
are the only values that a carrier may fail to hold, as they are cut to sixty-four bits; counts that
were read are never that large (`WeightReport.symbols_lt_of_parse`). -/

namespace PackageCensus

open Json (parse compactText prettyText)

/-! ### Symbols -/

namespace Symbol

theorem shape_clear : (Shaped.shape Symbol).clear = true := by decide

theorem ofCarrier_toCarrier (s : Symbol) : Shaped.ofCarrier (Shaped.toCarrier s) = s := by
  have info : (if s.info.isEmpty then none else some s.info).getD "" = s.info := by
    cases empty : s.info.isEmpty with
    | true => exact (String.isEmpty_iff.mp empty).symm
    | false => rfl
  show Symbol.mk _ _ _ _ ((if s.info.isEmpty then none else some s.info).getD "") _ _ = s
  rw [info]
  rfl

end Symbol

/-! ### Packages and manifests -/

theorem Package.ofCarrier_toCarrier (p : Package) : Shaped.ofCarrier (Shaped.toCarrier p) = p := rfl

theorem Package.list_ofCarrier_toCarrier (packages : List Package) :
    Shaped.ofCarrier (Shaped.toCarrier packages) = packages := by
  show (packages.map Shaped.toCarrier).map Shaped.ofCarrier = packages
  rw [List.map_map]
  exact List.map_id'' Package.ofCarrier_toCarrier packages

namespace Manifest

theorem shape_clear : (Shaped.shape Manifest).clear = true := by decide

theorem ofCarrier_toCarrier (m : Manifest) : Shaped.ofCarrier (Shaped.toCarrier m) = m :=
  congrArg Manifest.mk (Package.list_ofCarrier_toCarrier m.packages)

end Manifest

/-! ### Reports -/

theorem PackageWeight.ofCarrier_toCarrier {w : PackageWeight}
    (small : w.symbols < 18446744073709551616) : Shaped.ofCarrier (Shaped.toCarrier w) = w := by
  have kept : (UInt64.ofNat w.symbols).toNat = w.symbols := Nat.mod_eq_of_lt small
  show PackageWeight.mk w.package w.size (UInt64.ofNat w.symbols).toNat = w
  rw [kept]

namespace WeightReport

theorem shape_clear : (Shaped.shape WeightReport).clear = true := by decide

/-- A report whose counts are of sixty-four bits is made back from its carrier. -/
theorem ofCarrier_toCarrier {r : WeightReport}
    (small : ∀ w ∈ r.packages, w.symbols < 18446744073709551616) :
    Shaped.ofCarrier (Shaped.toCarrier r) = r := by
  have hash : (r.binaryHash.map some).getD none = r.binaryHash := by
    cases r.binaryHash <;> rfl
  have packages : (r.packages.map Shaped.toCarrier).map Shaped.ofCarrier = r.packages := by
    rw [List.map_map]
    conv_rhs => rw [← List.map_id r.packages]
    exact List.map_congr_left fun w hw => PackageWeight.ofCarrier_toCarrier (small w hw)
  show WeightReport.mk _ ((r.binaryHash.map some).getD none) _ _ _
    ((r.packages.map Shaped.toCarrier).map Shaped.ofCarrier) = r
  rw [hash, packages]
  rfl

/-- The counts of a report that was read are of sixty-four bits. -/
theorem symbols_lt_of_parse {text : String} {r : WeightReport}
    (read : parse WeightReport text = .ok r) :
    ∀ w ∈ r.packages, w.symbols < 18446744073709551616 := by
  obtain ⟨carrier, -, rfl⟩ := map_eq_ok.mp read
  intro w hw
  obtain ⟨row, -, rfl⟩ := List.mem_map.mp hw
  exact UInt64.toNat_lt row.2.2.1

end WeightReport

/-! ### Reading undoes writing -/

/-- What is written of a symbol, of a manifest or of a report with counts of sixty-four bits, in
either layout, is read as the same value.  The counts of a report that was read are of sixty-four
bits, so that printing it anew gives a document of the same report, whatever it was read from. -/
theorem records_read_back :
    (∀ s : Symbol, parse Symbol (compactText s) = .ok s ∧ parse Symbol (prettyText s) = .ok s) ∧
    (∀ m : Manifest,
      parse Manifest (compactText m) = .ok m ∧ parse Manifest (prettyText m) = .ok m) ∧
    (∀ r : WeightReport, (∀ w ∈ r.packages, w.symbols < 18446744073709551616) →
      parse WeightReport (compactText r) = .ok r ∧ parse WeightReport (prettyText r) = .ok r) ∧
    (∀ (text : String) (r : WeightReport), parse WeightReport text = .ok r →
      parse WeightReport (compactText r) = .ok r ∧ parse WeightReport (prettyText r) = .ok r) := by
  have report (r : WeightReport) (small : ∀ w ∈ r.packages, w.symbols < 18446744073709551616) :
      parse WeightReport (compactText r) = .ok r ∧ parse WeightReport (prettyText r) = .ok r := by
    have kept := WeightReport.ofCarrier_toCarrier small
    rw [Json.parse_compactText WeightReport.shape_clear,
      Json.parse_prettyText WeightReport.shape_clear, kept]
    exact ⟨rfl, rfl⟩
  refine ⟨fun s => ?_, fun m => ?_, report, fun text r read =>
    report r (WeightReport.symbols_lt_of_parse read)⟩
  · rw [Json.parse_compactText Symbol.shape_clear, Json.parse_prettyText Symbol.shape_clear,
      s.ofCarrier_toCarrier]
    exact ⟨rfl, rfl⟩
  · rw [Json.parse_compactText Manifest.shape_clear, Json.parse_prettyText Manifest.shape_clear,
      m.ofCarrier_toCarrier]
    exact ⟨rfl, rfl⟩

/-- A report with an empty digest, which is kept apart from none, and with the largest count. -/
theorem records_read_back_extreme :
    let r : WeightReport := ⟨"a\"\\\u0001", some "", "", "", -9223372036854775808,
      [⟨"", 9223372036854775807, 18446744073709551615⟩]⟩
    parse WeightReport (compactText r) = .ok r ∧ parse WeightReport (prettyText r) = .ok r := by
  intro r
  have small : ∀ w ∈ r.packages, w.symbols < 18446744073709551616 := by decide
  have read := records_read_back.2.2.1 r small
  exact records_read_back.2.2.2 (compactText r) r read.1

end PackageCensus
