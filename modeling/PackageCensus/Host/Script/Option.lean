import PackageCensus.Host.Script.Expression

/-! # Options

Commands of the shell take letters as options at the start of their arguments.  The options of a
script itself are set and unset in the same way, by letters or by names, at its start and while it
runs. -/

namespace PackageCensus.Script

namespace Shell

/-! ### Arguments of commands -/

/-- The greatest number that commands take. -/
def numberLimit : Int := 2147483647

/-- The number that an argument of a command is. -/
def numberOf (text : Octets) : Shell Nat :=
  match decimal? text with
  | some a => if 0 ≤ a ∧ a ≤ numberLimit then return a.toNat else failNumber text
  | none => failNumber text

/-- The letters of the options at the start of arguments, and the arguments behind them. -/
def optionsOf (letters : String) : List Octets → Shell (List Char × List Octets)
  | [] => return ([], [])
  | argument :: rest => match argument with
    | ['-', '-'] => return ([], rest)
    | '-' :: c :: cs => do
      if let some other := (c :: cs).find? fun c => ! letters.toList.contains c then
        fail ("Illegal option -".toList ++ [other])
      let (more, rest) ← optionsOf letters rest
      return (c :: cs ++ more, rest)
    | _ => return ([], argument :: rest)

/-! ### Options of scripts -/

/-- The names of the options, with their letters.  Those that are about traces, terminals and jobs
are taken, and change nothing. -/
def optionNames : List (String × Char) :=
  [("errexit", 'e'), ("noglob", 'f'), ("ignoreeof", 'I'), ("interactive", 'i'), ("monitor", 'm'),
   ("noexec", 'n'), ("stdin", 's'), ("xtrace", 'x'), ("verbose", 'v'), ("vi", 'V'),
   ("emacs", 'E'), ("noclobber", 'C'), ("allexport", 'a'), ("notify", 'b'), ("nounset", 'u')]

/-- Sets or unsets an option. -/
def turn (on : Bool) (c : Char) : Shell Unit := update fun p =>
  let others := p.options.filter (· != c)
  { p with options := if on then c :: others else others }

/-- Sets or unsets the option of a letter. -/
def turnLetter (on : Bool) (c : Char) : Shell Unit :=
  if optionNames.any (·.2 == c) then turn on c else fail ("Illegal option -".toList ++ [c])

/-- Sets or unsets the option of a name. -/
def turnNamed (on : Bool) (name : Octets) : Shell Unit :=
  match optionNames.lookup (String.ofList name) with
  | some c => turn on c
  | none => fail ("Illegal option -o ".toList ++ name)

/-- What is known behind some options of a script. -/
structure Settings where
  /-- What follows the options. -/
  rest : List Octets := []
  /-- Whether the options were ended by a sign. -/
  closed : Bool := false
  /-- Whether the script is the first of the arguments behind the options. -/
  inArgument : Bool := false

/-- Sets and unsets the options of letters; gives the arguments behind, of which some letters take
one. -/
def turnLetters (starting on : Bool) : Octets → Settings → Shell Settings
  | [], k => return k
  | c :: letters, k => do
    if c = 'c' && starting then turnLetters starting on letters { k with inArgument := true }
    else if c = 'o' then
      match k.rest with
      | [] => return k
      | name :: rest =>
        turnNamed on name
        turnLetters starting on letters { k with rest }
    else
      turnLetter on c
      turnLetters starting on letters k

/-- Sets and unsets the options at the start of arguments, at the start of a script or later. -/
def turnAll (starting : Bool) : Nat → Settings → Shell Settings
  | 0, k => return k
  | n + 1, k => match k.rest with
    | [] => return k
    | argument :: rest => match argument with
      | ['-'] => return { k with rest }
      | ['-', '-'] => return { k with rest, closed := true }
      | sign :: letters =>
        if sign = '-' || sign = '+' then do
          turnAll starting n (← turnLetters starting (sign = '-') letters { k with rest })
        else return k
      | _ => return k

end Shell
end PackageCensus.Script
