import PackageCensus.Host.Script.Expression

/-! # Formatted text

What `echo` and `printf` write.  A format is used again as long as it takes arguments; in it,
letters ask for the next argument as text or as a whole number, set in some width. -/

namespace PackageCensus.Script

/-! ### Escapes -/

/-- Whether a character is a digit in base eight. -/
def isOctal (c : Char) : Bool := '0' ≤ c && c ≤ '7'

/-- The character that a backslash stands for with what follows it, and what is left of that. -/
def unescape (cs : List Char) : Char × List Char :=
  let digits := (cs.take 3).takeWhile isOctal
  if digits.isEmpty then match cs with
    | '\\' :: rest => ('\\', rest)
    | 'a' :: rest => ('\x07', rest)
    | 'b' :: rest => ('\x08', rest)
    | 'e' :: rest => ('\x1b', rest)
    | 'f' :: rest => ('\x0c', rest)
    | 'n' :: rest => ('\n', rest)
    | 'r' :: rest => ('\r', rest)
    | 't' :: rest => ('\t', rest)
    | 'v' :: rest => ('\x0b', rest)
    | rest => ('\\', rest)
  else
    let n := digits.foldl (fun n c => 8 * n + (c.toNat - '0'.toNat)) 0
    (.ofNat (n % 256), cs.drop digits.length)

/-- A text with its escapes replaced, and whether output goes on behind it. -/
def unescaped : Nat → List Char → Octets × Bool
  | 0, _ | _, [] => ([], true)
  | n + 1, '\\' :: rest =>
    if rest.head? = some 'c' then ([], false)
    else
      let rest := match rest with
        | '0' :: c :: more => if isOctal c then c :: more else rest
        | rest => rest
      let (c, rest) := unescape rest
      let (more, goesOn) := unescaped n rest
      (c :: more, goesOn)
  | n + 1, c :: rest =>
    let (more, goesOn) := unescaped n rest
    (c :: more, goesOn)

/-- The words of an echo as they are shown, with the text behind the last one. -/
def echoWords (shown : Octets → Octets × Bool) (ending : Octets) : List Octets → Octets
  | [] => ending
  | word :: rest =>
    let (text, goesOn) := shown word
    if ! goesOn then text
    else if rest.isEmpty then text ++ ending
    else text ++ [' '] ++ echoWords shown ending rest

/-- What `echo` writes. -/
def echoed (words : List Octets) : Octets :=
  let shown (word : Octets) := unescaped (word.length + 1) word
  match words with
  | ['-', 'n'] :: words => echoWords shown [] words
  | words => echoWords shown ['\n'] words

/-- What the program of that name writes, which takes several options, and replaces escapes if one
of them asks for it. -/
def echoedApart (escapes ends : Bool) : List Octets → Octets
  | ('-' :: c :: cs) :: words =>
    let letters := c :: cs
    if letters.all "neE".toList.contains then
      let last := (letters.filter (· != 'n')).getLast?
      echoedApart (last.elim escapes (· == 'e')) (ends && ! letters.contains 'n') words
    else finish (('-' :: letters) :: words)
  | words => finish words
where
  /-- The words behind the options. -/
  finish (words : List Octets) : Octets :=
    echoWords (fun word => if escapes then unescaped (word.length + 1) word else (word, true))
      (if ends then ['\n'] else []) words

/-! ### Settings -/

/-- How a value is set. -/
structure Setting where
  left : Bool := false
  plus : Bool := false
  space : Bool := false
  /-- Whether the base of a number, or its point, is told in any case. -/
  alternate : Bool := false
  zeros : Bool := false
  width : Nat := 0
  precision? : Option Nat := none
deriving DecidableEq, Repr

namespace Setting

/-- A setting with a flag more. -/
def withFlag (s : Setting) : Char → Setting
  | '-' => { s with left := true }
  | '+' => { s with plus := true }
  | ' ' => { s with space := true }
  | '#' => { s with alternate := true }
  | _ => { s with zeros := true }

/-- A text within the width. -/
def pad (s : Setting) (text : Octets) : Octets :=
  let room := List.replicate (s.width - text.length) ' '
  if s.left then text ++ room else room ++ text

/-- A number within the width, given what stands in front of its digits. -/
def padNumber (s : Setting) (zeros : Bool) (front digits : Octets) : Octets :=
  if zeros && ! s.left then
    front ++ List.replicate (s.width - front.length - digits.length) '0' ++ digits
  else s.pad (front ++ digits)

/-- The sign of a number. -/
def signOf (s : Setting) (negative : Bool) : Octets :=
  if negative then ['-'] else if s.plus then ['+'] else if s.space then [' '] else []

/-- A whole number with at least as many digits as the precision tells. -/
def whole (s : Setting) (front digits : Octets) : Octets :=
  let digits := match s.precision? with
    | some p =>
      if p = 0 && digits = ['0'] then [] else List.replicate (p - digits.length) '0' ++ digits
    | none => digits
  s.padNumber (s.zeros && s.precision?.isNone) front digits

/-- A text, of which no more is set than the precision tells. -/
def apply (s : Setting) (text : Octets) : Octets :=
  s.pad (match s.precision? with
    | some p => text.take p
    | none => text)

/-- A number with a sign in base ten. -/
def signed (s : Setting) (a : Int) : Octets :=
  s.whole (s.signOf (a < 0)) (Nat.toDigits 10 a.natAbs)

/-- A number without a sign, in the base that a letter tells. -/
def unsigned (s : Setting) (letter : Char) (a : Nat) : Octets :=
  match letter with
  | 'o' =>
    let digits := Nat.toDigits 8 a
    if ! s.alternate then s.whole [] digits
    else if a = 0 ∧ s.precision? = some 0 then s.pad ['0']
    else if a = 0 then s.whole [] digits
    else s.whole [] (if s.precision?.getD 0 ≤ digits.length then '0' :: digits else digits)
  | 'x' => s.whole (if s.alternate && a ≠ 0 then ['0', 'x'] else []) (Nat.toDigits 16 a)
  | 'X' =>
    s.whole (if s.alternate && a ≠ 0 then ['0', 'X'] else [])
      ((Nat.toDigits 16 a).map Char.toUpper)
  | _ => s.whole [] (Nat.toDigits 10 a)

end Setting

/-! ### Formats -/

/-- What `printf` has made: the text, the last part first, the arguments that are left, whether
some of them were no numbers, and whether it ends here. -/
structure Printed where
  text : List Octets := []
  arguments : List Octets
  failed : Bool := false
  stopped : Bool := false
  /-- Whether the format itself is wrong. -/
  broken : Bool := false

/-- Formats that are being printed; what is wrong is told at once. -/
abbrev Printing := StateT Printed Shell

namespace Printing

/-- Text more. -/
def put (text : Octets) : Printing Unit := modify fun p => { p with text := text :: p.text }

/-- The next argument, if there is one. -/
def next : Printing (Option Octets) := do
  match (← get).arguments with
  | [] => return none
  | argument :: rest =>
    modify fun p => { p with arguments := rest }
    return some argument

/-- Gives up the format. -/
def refuse (complaint : Octets) : Printing Unit := do
  Shell.warn complaint
  modify fun p => { p with stopped := true, broken := true }

/-- Tells what is wrong with an argument, of which something is left. -/
def check (argument rest : Octets) (inRange : Bool) : Printing Unit := do
  let complaint : Option String :=
    if ! rest.isEmpty then
      some (if rest.length = argument.length then "expected numeric value"
        else "not completely converted")
    else if inRange then none
    else some "Numerical result out of range"
  match complaint with
  | none => pure ()
  | some complaint =>
    Shell.warn (argument ++ ": ".toList ++ complaint.toList)
    modify fun p => { p with failed := true }

/-- The octet behind a quotation mark at the start of an argument. -/
def quotedOctet? : Octets → Option Nat
  | '\'' :: rest | '"' :: rest => some ((rest.head?.map Char.toNat).getD 0)
  | _ => none

/-- The next argument as a whole number. -/
def integer (isSigned : Bool) : Printing Int := do
  match ← next with
  | none => return 0
  | some argument => match quotedOctet? argument with
    | some n => return n
    | none =>
      let (a, rest) := takeSigned takeConstant argument
      let a := a.getD 0
      let least : Int := if isSigned then -(greatest : Int) - 1 else -(2 * greatest + 1 : Int)
      let most : Int := if isSigned then greatest else 2 * greatest + 1
      check argument rest (least ≤ a && a ≤ most)
      if isSigned then return max least (min most a)
      else if least ≤ a ∧ a ≤ most then return a % (most + 1)
      else return most

/-- Reads a width or a precision, which may be the next argument. -/
def readCount (cs : List Char) : Printing (Int × List Char) := do
  match cs with
  | '*' :: rest => return (← integer true, rest)
  | cs =>
    let (n, rest) := takeDigits 10 cs
    return ((n.getD 0 : Nat), rest)

/-- Reads the setting of a value. -/
def readSetting (cs : List Char) : Printing (Setting × List Char) := do
  let flags := cs.takeWhile "#-+ 0".toList.contains
  let s := flags.foldl Setting.withFlag {}
  let (width, rest) ← readCount (cs.drop flags.length)
  let s := { s with width := width.natAbs, left := s.left || width < 0 }
  match rest with
  | '.' :: rest =>
    let (precision, rest) ← readCount rest
    return ({ s with precision? := if precision < 0 then none else some precision.toNat }, rest)
  | rest => return (s, rest)

/-- Prints a value as a letter asks for it. -/
def value (s : Setting) (letter : Char) (written : Octets) : Printing Unit := do
  match letter with
  | 's' => put (s.apply ((← next).getD []))
  | 'b' =>
    let argument := (← next).getD []
    let (text, goesOn) := unescaped (argument.length + 1) argument
    put (s.apply text)
    if ! goesOn then modify fun p => { p with stopped := true }
  | 'c' => put (s.pad [(((← next).getD []).head?).getD '\x00'])
  | 'd' | 'i' => put (s.signed (← integer true))
  | 'o' | 'u' | 'x' | 'X' => put (s.unsigned letter (← integer false).toNat)
  | _ => refuse (written ++ ": invalid directive".toList)

/-- Prints a format once. -/
def once : Nat → List Char → Printing Unit
  | 0, _ | _, [] => pure ()
  | n + 1, '\\' :: rest => do
    let (c, rest) := unescape rest
    put [c]
    once n rest
  | n + 1, '%' :: '%' :: rest => do
    put ['%']
    once n rest
  | n + 1, '%' :: rest => do
    let (s, behind) ← readSetting rest
    match behind with
    | [] => refuse "missing format character".toList
    | letter :: behind =>
      value s letter ('%' :: rest.take (rest.length - behind.length))
      if (← get).stopped then return
      once n behind
  | n + 1, c :: rest => do
    put (c :: rest.takeWhile fun c => c != '\\' && c != '%')
    once n (rest.dropWhile fun c => c != '\\' && c != '%')

/-- Prints a format as often as arguments are left for it. -/
def all (format : Octets) : Nat → Printing Unit
  | 0 => pure ()
  | n + 1 => do
    let before := (← get).arguments.length
    once (format.length + 1) format
    let p ← get
    if ! p.stopped && ! p.arguments.isEmpty && p.arguments.length < before then all format n

end Printing
end PackageCensus.Script
