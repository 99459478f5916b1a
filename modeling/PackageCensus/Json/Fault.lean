import PackageCensus.Double
import PackageCensus.Text.Quoted

/-! # What can be wrong with a JSON document

A document is malformed, or it ends too early, or it is sound as far as it was read and holds
something else than was asked for; only the last has a wording of its own, `Mismatch.message`. -/

namespace PackageCensus.Json

open Text (quoted)

/-- A number, as far as its kind matters: whole numbers of sixty-four bits, and all others. -/
inductive Number where
  | natural (n : Nat)
  | negative (n : Int)
  | real (x : Double)
deriving DecidableEq, Repr

/-- What was found where something else was asked for. -/
inductive Found where
  | null
  | boolean (b : Bool)
  | number (n : Number)
  | text (s : String)
  | list
  | object
deriving DecidableEq, Repr

/-- A value in words. -/
def Found.describe : Found → String
  | null => "null"
  | boolean b => "boolean \x60" ++ toString b ++ "\x60"
  | number (.natural n) => "integer \x60" ++ toString n ++ "\x60"
  | number (.negative n) => "integer \x60" ++ toString n ++ "\x60"
  | number (.real x) => "floating point \x60" ++ x.text ++ "\x60"
  | text s => "string " ++ quoted s
  | list => "sequence"
  | object => "map"

/-- How a document differs from what was asked for. -/
inductive Mismatch where
  | missingField (name : String)
  | duplicateField (name : String)
  | invalidType (found : Found) (expected : String)
  | invalidValue (found : Found) (expected : String)
  /-- A record written as a list of its fields that ends before its last required field. -/
  | invalidLength (count : Nat) (title : String) (fields : Nat)
deriving DecidableEq, Repr

/-- The wording of a mismatch. -/
def Mismatch.message : Mismatch → String
  | missingField name => "missing field \x60" ++ name ++ "\x60"
  | duplicateField name => "duplicate field \x60" ++ name ++ "\x60"
  | invalidType found expected =>
    "invalid type: " ++ found.describe ++ ", expected " ++ expected
  | invalidValue found expected =>
    "invalid value: " ++ found.describe ++ ", expected " ++ expected
  | invalidLength count title fields =>
    "invalid length " ++ toString count ++ ", expected struct " ++ title ++ " with "
      ++ toString fields ++ (if fields = 1 then " element" else " elements")

/-- Why a document was refused. -/
inductive Fault where
  | malformed
  | truncated
  | mismatch (m : Mismatch)
deriving DecidableEq, Repr

end PackageCensus.Json
