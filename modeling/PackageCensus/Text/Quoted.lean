import PackageCensus.Text.Unseen

/-! # Quoted text

Messages show a piece of input between double quotes, on one line and without any character that
cannot be seen: quotes and backslashes follow a backslash, the usual blanks and the null character
have letters, and every other character of the class `isUnseen` is given by its number. -/

namespace PackageCensus.Text

/-- The digits of a number in base sixteen, with the letters in lower case. -/
def hexDigits (n : Nat) : List Char := Nat.toDigits 16 n

/-- How a character stands in a quoted text. -/
def quotedChar (c : Char) : List Char :=
  if c = '"' then ['\\', '"']
  else if c = '\\' then ['\\', '\\']
  else if c = '\t' then ['\\', 't']
  else if c = '\n' then ['\\', 'n']
  else if c = '\r' then ['\\', 'r']
  else if c = '\x00' then ['\\', '0']
  else if isUnseen c then ['\\', 'u', '\x7b'] ++ hexDigits c.toNat ++ ['\x7d']
  else [c]

/-- A string between double quotes, every character of it visible. -/
def quoted (s : String) : String :=
  String.ofList ('"' :: (s.toList.flatMap quotedChar ++ ['"']))

/-- Several strings as a bracketed list of quoted texts. -/
def quotedList (ss : List String) : String :=
  "[" ++ ", ".intercalate (ss.map quoted) ++ "]"

end PackageCensus.Text
