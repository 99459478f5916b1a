import PackageCensus.Shaped
import PackageCensus.Symbol.Basic

/-! # Symbols in documents

A symbol is a record of its columns; remarks are left out when there are none. -/

namespace PackageCensus

/-- The shape of a symbol. -/
def Symbol.shape : Shape :=
  .record "Symbol" <|
    .required "address" (.unsigned "u64") <|
    .required "size" .signed <|
    .required "code" .letter <|
    .required "qualified_name" .string <|
    .defaulted "info" .string <|
    .defaulted "path" (.list .string) <|
    .required "name" .string .nil

instance : Shaped Symbol where
  shape := Symbol.shape
  ofCarrier := fun (address, size, code, qualifiedName, info, path, name, ()) =>
    ⟨address, size, code, qualifiedName, info.getD "", path.getD [], name⟩
  toCarrier s :=
    (s.address, s.size, s.code, s.qualifiedName,
      if s.info.isEmpty then none else some s.info, some s.path, s.name, ())

end PackageCensus
