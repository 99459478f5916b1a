import PackageCensus.Text.Utf8

/-! # Access to files and programs

What opening a file or a program can come to: a `Source` of octets, or the reason why there is
none.  A source may break off while it is read, as that of a directory does at once. -/

namespace PackageCensus

/-- Why a file cannot be opened or read, or a program not be started. -/
inductive AccessError where
  | notFound
  | permissionDenied
  | notADirectory
  | isADirectory
  | nameTooLong
  | argumentsTooLong
  /-- The octets are not those of a text. -/
  | notText
  | nullInPath
  | nullInArgument
  /-- Another reason, in words. -/
  | other (reason : String)
deriving DecidableEq, Repr

namespace AccessError

/-- The reason of an error in words. -/
def reason : AccessError → String
  | notFound => "No such file or directory"
  | permissionDenied => "Permission denied"
  | notADirectory => "Not a directory"
  | isADirectory => "Is a directory"
  | nameTooLong => "File name too long"
  | argumentsTooLong => "Argument list too long"
  | notText => "stream did not contain valid UTF-8"
  | nullInPath => "file name contained an unexpected NUL byte"
  | nullInArgument => "nul byte found in provided data"
  | other reason => reason

/-- The number of an error, if the system has one for it. -/
def number? : AccessError → Option Nat
  | notFound => some 2
  | argumentsTooLong => some 7
  | permissionDenied => some 13
  | notADirectory => some 20
  | isADirectory => some 21
  | nameTooLong => some 36
  | notText | nullInPath | nullInArgument | other _ => none

/-- The wording of an error. -/
def message (e : AccessError) : String :=
  e.reason ++ match e.number? with
    | some n => " (os error " ++ toString n ++ ")"
    | none => ""

end AccessError

/-- Octets that arrive one after the other, and the failure that breaks them off, if any. -/
structure Source where
  octets : List UInt8
  failure : Option AccessError := none
deriving DecidableEq, Repr

/-- The text that a source holds. -/
def Source.text (s : Source) : Except AccessError String :=
  match s.failure, Text.decode? s.octets with
  | some e, _ => .error e
  | none, some cs => .ok (String.ofList cs)
  | none, none => .error .notText

end PackageCensus
