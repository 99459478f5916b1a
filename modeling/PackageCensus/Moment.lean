import PackageCensus.Text.Column

/-! # Moments

A moment is a number of seconds and nanoseconds since the beginning of 1970, shown as a date and a
time of day.  Years are counted from March, so that the day that some of them have more comes
last. -/

namespace PackageCensus

/-- A moment of universal time. -/
structure Moment where
  seconds : Nat
  nanoseconds : Nat
deriving DecidableEq, Repr

namespace Moment

/-- A year, a month and a day. -/
structure Date where
  year : Nat
  month : Nat
  day : Nat
deriving DecidableEq, Repr

/-- The days from the first of March of year zero to the beginning of 1970. -/
def daysBefore1970 : Nat := 719468

/-- The days of four hundred years. -/
def daysOfEra : Nat := 146097

/-- The date after so many days since the beginning of 1970. -/
def Date.ofDays (days : Nat) : Date :=
  let shifted := days + daysBefore1970
  let era := shifted / daysOfEra
  let dayOfEra := shifted % daysOfEra
  let yearOfEra := (dayOfEra - dayOfEra / 1460 + dayOfEra / 36524 - dayOfEra / 146096) / 365
  let dayOfYear := dayOfEra - (365 * yearOfEra + yearOfEra / 4 - yearOfEra / 100)
  let month := (5 * dayOfYear + 2) / 153
  let day := dayOfYear - (153 * month + 2) / 5 + 1
  let year := yearOfEra + 400 * era
  if month < 10 then ⟨year, month + 3, day⟩ else ⟨year + 1, month - 9, day⟩

/-- A number with zeros before it. -/
def digits (width n : Nat) : String :=
  String.ofList (Text.padLeft '0' width (toString n).toList)

/-- The part of a second, in as few groups of three digits as will do. -/
def fractionText (nanoseconds : Nat) : String :=
  if nanoseconds = 0 then ""
  else if nanoseconds % 1000000 = 0 then "." ++ digits 3 (nanoseconds / 1000000)
  else if nanoseconds % 1000 = 0 then "." ++ digits 6 (nanoseconds / 1000)
  else "." ++ digits 9 nanoseconds

/-- A moment as a date and a time of day. -/
def text (m : Moment) : String :=
  let date := Date.ofDays (m.seconds / 86400)
  let second := m.seconds % 86400
  digits 4 date.year ++ "-" ++ digits 2 date.month ++ "-" ++ digits 2 date.day ++ "T" ++
    digits 2 (second / 3600) ++ ":" ++ digits 2 (second / 60 % 60) ++ ":" ++
    digits 2 (second % 60) ++ fractionText m.nanoseconds ++ "+00:00"

end Moment
end PackageCensus
