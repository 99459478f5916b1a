import PackageCensus.Json.Printer
import PackageCensus.Json.Reader
import PackageCensus.Yaml.Reader

/-! # Values that documents hold

A type is `Shaped` when its values are made from, and give, the values of a shape.  Such a type
can be read from a document of either format and be written as JSON. -/

namespace PackageCensus

/-- A type with a form in documents. -/
class Shaped (α : Type) where
  shape : Shape
  ofCarrier : shape.Carrier → α
  toCarrier : α → shape.Carrier

namespace Shaped

variable {α : Type}

instance : Shaped String := ⟨.string, id, id⟩
instance : Shaped Bool := ⟨.flag, id, id⟩
instance : Shaped Char := ⟨.letter, id, id⟩
instance : Shaped Int64 := ⟨.signed, id, id⟩

instance [Shaped α] : Shaped (List α) :=
  ⟨.list (shape α), List.map ofCarrier, List.map toCarrier⟩

instance [Shaped α] : Shaped (Option α) :=
  ⟨.optional (shape α), Option.map ofCarrier, Option.map toCarrier⟩

/-- A field that may be left out, with the value that stands for a missing one. -/
def field (α : Type) [Shaped α] (missing : α) (value : Option (shape α).Carrier) : α :=
  (value.map ofCarrier).getD missing

end Shaped

/-- A value from a JSON document. -/
def Json.parse (α : Type) [Shaped α] (document : String) : Except Json.Fault α :=
  (Json.readAs (Shaped.shape α) document).map Shaped.ofCarrier

/-- A value as a JSON document without blanks. -/
def Json.compactText {α : Type} [Shaped α] (value : α) : String :=
  Json.writeCompact (Shaped.shape α) (Shaped.toCarrier value)

/-- A value as a JSON document of many lines. -/
def Json.prettyText {α : Type} [Shaped α] (value : α) : String :=
  Json.writePretty (Shaped.shape α) (Shaped.toCarrier value)

/-- A value from a YAML document. -/
def Yaml.parse (α : Type) [Shaped α] (document : String) : Option α :=
  (Yaml.readAs (Shaped.shape α) document).map Shaped.ofCarrier

end PackageCensus
