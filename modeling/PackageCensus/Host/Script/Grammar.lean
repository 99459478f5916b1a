import PackageCensus.Host.Script.Reader

/-! # The grammar of scripts

`readLine` reads the statement of the next line, which can go on over several lines.  The readers
count down a number that no script is long enough to use up.  Words and statements are read
together, since the output of a statement can be part of a word. -/

namespace PackageCensus.Script

/-! ### Words -/

/-- Where a run of pieces ends. -/
inductive Ending where
  /-- In front of what ends a word. -/
  | word
  | quote
  | brace
  /-- With two parentheses, behind some that are open. -/
  | parentheses (opened : Nat)
  /-- With the text. -/
  | text
deriving DecidableEq, Repr

/-- The characters that are kept apart in quotes, since they mean something elsewhere. -/
def inertInQuotes : List Char := "!*?[=~:/-]".toList

/-- A character in quotes. -/
def quotedPiece (c : Char) : Piece := if inertInQuotes.contains c then .exact c else .text [c]

/-- Pieces with the texts in them joined. -/
def joined (pieces : List Piece) : Word :=
  pieces.foldr (fun p word => match p, word with
    | .text cs, .text ds :: rest => .text (cs ++ ds) :: rest
    | p, word => p :: word) []

/-- Whether there are quotes in a word. -/
def Word.isQuoted (w : Word) : Bool := w.any fun
  | .quote | .exact _ => true
  | _ => false

/-- Whether a character is the name of a parameter that is not a variable. -/
def isSpecial (c : Char) : Bool := c.isDigit || "#?$!-*@".toList.contains c

/-- The name of a parameter that a text in braces begins with. -/
def parameterName : List Char → Octets
  | [] => []
  | c :: rest =>
    if beginsName c then c :: rest.takeWhile isNameChar
    else if c.isDigit then c :: rest.takeWhile Char.isDigit
    else if isSpecial c then [c]
    else []

/-- What is to be done with a parameter, as the signs behind its name tell, and whether an empty
value counts as none; and the number of the signs. -/
def treatmentOf : List Char → Treatment × Bool × Nat
  | ':' :: '-' :: _ => (.fallback, true, 2)
  | ':' :: '+' :: _ => (.replacement, true, 2)
  | ':' :: '?' :: _ => (.demand, true, 2)
  | ':' :: '=' :: _ => (.assignment, true, 2)
  | '-' :: _ => (.fallback, false, 1)
  | '+' :: _ => (.replacement, false, 1)
  | '?' :: _ => (.demand, false, 1)
  | '=' :: _ => (.assignment, false, 1)
  | '%' :: '%' :: _ => (.trimmed true true, false, 2)
  | '%' :: _ => (.trimmed true false, false, 1)
  | '#' :: '#' :: _ => (.trimmed false true, false, 2)
  | '#' :: _ => (.trimmed false false, false, 1)
  | '\x7d' :: _ => (.value, false, 0)
  | _ => (.unknown, false, 0)

/-! ### Descriptors -/

/-- What a sign for a descriptor says. -/
inductive Sign where
  | read
  | write
  | append
  /-- The same as another descriptor. -/
  | same
  /-- Text on the following lines, whose tabs at the start of lines may be dropped. -/
  | document (dropsTabs : Bool)
deriving DecidableEq, Repr

/-- The signs for descriptors, of two with a common beginning the longer one first, and which
descriptor is sent elsewhere if none is told. -/
def redirectSigns : List (String × Sign × Nat) :=
  [("<<-", .document true, 0), ("<<", .document false, 0), ("<&", .same, 0), ("<", .read, 0),
   (">>", .append, 1), (">&", .same, 1), (">|", .write, 1), (">", .write, 1)]

/-- Takes a sign for a descriptor, perhaps with the number of the descriptor in front. -/
def takeSign : Reading (Option (Nat × Sign)) := do
  let rest ← Reading.upcoming
  let number? : Option Nat := match rest with
    | d :: c :: _ =>
      if d.isDigit && (c == '<' || c == '>') then some (d.toNat - '0'.toNat) else none
    | _ => none
  let behind := rest.drop (number?.elim 0 fun _ => 1)
  match redirectSigns.find? fun s => s.1.toList.isPrefixOf behind with
  | none => return none
  | some (text, sign, usual) =>
    Reading.skip (rest.length - behind.length + text.length)
    return some (number?.getD usual, sign)

/-- The channel of a word behind a sign. -/
def channelOf (sign : Sign) (w : Word) : Reading Channel :=
  match sign, w with
  | .read, w => return .read w
  | .write, w => return .write w
  | .append, w => return .append w
  | .same, [.text ['-']] => return .nowhere
  | .same, [.text [c]] =>
    if c.isDigit then return .same (c.toNat - '0'.toNat) else Reading.refuse "Bad fd number"
  | .same, _ => Reading.refuse "Bad fd number"
  | .document dropsTabs, w => do
    let number := (← get).next
    let a : Awaited := { number, mark := Word.mark w, dropsTabs, filled := ! Word.isQuoted w }
    modify fun r => { r with awaited := r.awaited ++ [a], next := number + 1 }
    return .document number a.filled

/-- A statement with descriptors sent elsewhere, if there are any. -/
def Statement.withRedirects (line : Nat) (redirects : List Redirect) (s : Statement) : Statement :=
  if redirects.isEmpty then s else .redirected line s redirects

/-- What has been read of a command. -/
structure Simple where
  assignments : List Word := []
  words : List Word := []
  redirects : List Redirect := []

/-! ### The readers -/

mutual

/-- Reads pieces up to where they end; the sign of the end is taken, but that of a word. -/
def readPieces (n : Nat) (quoted : Bool) (ending : Ending) : Reading (List Piece) :=
  match n with
  | 0 => Reading.unexpected
  | n + 1 => do
    match ← Reading.rest with
    | [] =>
      if ending = .word || ending = .text then return []
      else Reading.refuse "Unterminated quoted string"
    | '\\' :: '\n' :: _ =>
      Reading.skip 2
      readPieces n quoted ending
    | '\\' :: c :: _ =>
      Reading.skip 2
      let escapes := ! quoted || c == '\\' || c == '\x60' || c == '$' ||
        (c == '"' && ending != .text) || (c == '\x7d' && ending = .brace)
      let more ← readPieces n quoted ending
      return if escapes then .exact c :: more else .exact '\\' :: .exact c :: more
    | '$' :: _ =>
      Reading.skip 1
      let piece ← readDollar n quoted
      return piece :: (← readPieces n quoted ending)
    | '\x60' :: _ =>
      Reading.skip 1
      let text ← Reading.takeBackticks quoted readingLimit
      let body ← Reading.within text (readScript n)
      return .output body :: (← readPieces n quoted ending)
    | c :: rest =>
      if c = '"' && ending != .text then
        Reading.skip 1
        if ending = .quote then return []
        let inner ← readPieces n true .quote
        return .quote :: inner ++ .quote :: (← readPieces n quoted ending)
      else if c = '\'' && ! quoted then
        Reading.skip 1
        let inner ← Reading.takeWhile (· != '\'')
        if ! (← Reading.takes "'") then Reading.refuse "Unterminated quoted string"
        return .quote :: inner.map quotedPiece ++ .quote :: (← readPieces n quoted ending)
      else if c = '\x7d' && ending = .brace then
        Reading.skip 1
        return []
      else match ending with
        | .word =>
          if endsWord c then return []
          else readOn n quoted ending c
        | .parentheses opened =>
          if c = '(' then readOn n quoted (.parentheses (opened + 1)) c
          else if c = ')' && 0 < opened then readOn n quoted (.parentheses (opened - 1)) c
          else if c = ')' && rest.head? = some ')' then
            Reading.skip 2
            return []
          else readOn n quoted ending c
        | ending => readOn n quoted ending c

/-- Reads a character that stands for itself, and the pieces behind it. -/
def readOn (n : Nat) (quoted : Bool) (ending : Ending) (c : Char) : Reading (List Piece) :=
  match n with
  | 0 => Reading.unexpected
  | n + 1 => do
    Reading.skip 1
    let piece : Piece := match ending with
      | .parentheses _ => .text [c]
      | _ => if quoted then quotedPiece c else .text [c]
    return piece :: (← readPieces n quoted ending)

/-- Reads what stands behind a dollar sign. -/
def readDollar (n : Nat) (quoted : Bool) : Reading Piece :=
  match n with
  | 0 => Reading.unexpected
  | n + 1 => do
    match ← Reading.rest with
    | '(' :: '(' :: _ =>
      Reading.skip 2
      return .number (joined (← readPieces n true (.parentheses 0)))
    | '(' :: _ =>
      Reading.skip 1
      let awaited := (← get).awaited
      modify fun r => { r with awaited := [] }
      let body ← readList n true none
      Reading.expectSign ")"
      modify fun r => { r with awaited }
      return .output body
    | '\x7b' :: _ =>
      Reading.skip 1
      readBraces n quoted
    | c :: rest =>
      let name := if beginsName c then c :: rest.takeWhile isNameChar
        else if isSpecial c then [c] else []
      Reading.skip name.length
      return if name.isEmpty then .text ['$'] else .parameter name .value false []
    | [] => return .text ['$']

/-- Reads a parameter in braces. -/
def readBraces (n : Nat) (quoted : Bool) : Reading Piece :=
  match n with
  | 0 => Reading.unexpected
  | n + 1 => do
    let rest ← Reading.rest
    let measured := parameterName (rest.drop 1)
    if rest.head? = some '#' && ! measured.isEmpty &&
        (rest.drop (1 + measured.length)).head? = some '\x7d' then
      Reading.skip (measured.length + 2)
      return .parameter measured .length false []
    let name := parameterName rest
    let (treatment, orEmpty, count) := treatmentOf (rest.drop name.length)
    Reading.skip (name.length + count)
    let ofPattern : Bool := match treatment with
      | .trimmed .. => true
      | _ => false
    let word ← readPieces n (quoted && ! ofPattern) .brace
    return .parameter name (if name.isEmpty then .unknown else treatment) orEmpty (joined word)

/-- Reads a word, if one comes next. -/
def readWord (n : Nat) : Reading (Option Word) :=
  match n with
  | 0 => Reading.unexpected
  | n + 1 => do
    match ← Reading.upcoming with
    | [] => return none
    | c :: _ => if endsWord c then return none else return joined (← readPieces n false .word)

/-- Reads a word that has to be there. -/
def readSomeWord (n : Nat) : Reading Word :=
  match n with
  | 0 => Reading.unexpected
  | n + 1 => do
    match ← readWord n with
    | some w => return w
    | none => Reading.unexpected

/-- Reads words, as many as there are. -/
def readWords (n : Nat) : Reading (List Word) :=
  match n with
  | 0 => Reading.unexpected
  | n + 1 => do
    match ← readWord n with
    | some w => return w :: (← readWords n)
    | none => return []

/-- Passes over the ends of lines, and reads the texts that are awaited there. -/
def passLines (n : Nat) : Reading Unit :=
  match n with
  | 0 => Reading.unexpected
  | n + 1 => do
    match ← Reading.upcoming with
    | '\n' :: _ =>
      Reading.skip 1
      readDocuments n (← get).awaited
      passLines n
    | _ => return

/-- Reads some texts, one after the other. -/
def readDocuments (n : Nat) (awaited : List Awaited) : Reading Unit :=
  match n, awaited with
  | 0, _ => Reading.unexpected
  | _ + 1, [] => modify fun r => { r with awaited := [] }
  | n + 1, a :: awaited => do
    let text ← Reading.takeLines a readingLimit
    let word ← if a.filled then joined <$> Reading.within text (readPieces n true .text)
      else pure [.text text]
    modify fun r => { r with documents := (a.number, word) :: r.documents }
    readDocuments n awaited

/-- Reads a whole text of statements. -/
def readScript (n : Nat) : Reading (Option Statement) :=
  match n with
  | 0 => Reading.unexpected
  | n + 1 => do
    let body ← readList n true none
    readDocuments n (← get).awaited
    if (← Reading.upcoming).isEmpty then return body else Reading.unexpected

/-- Reads statements behind the one given, up to what ends them; `inner` ones go on over the ends of
lines. -/
def readList (n : Nat) (inner : Bool) (first? : Option Statement) : Reading (Option Statement) :=
  match n with
  | 0 => Reading.unexpected
  | n + 1 => do
    if inner then passLines n
    let ends : Bool := match ← Reading.upcoming with
      | [] | '\n' :: _ | ')' :: _ | ';' :: ';' :: _ => true
      | _ => false
    if ends || ((← Reading.keyword?).any closingKeywords.contains && inner) then return first?
    let s ← readChain n
    let rest ← Reading.upcoming
    let line := (← get).line
    let s := if rest.head? = some '&' then .background line s else s
    let whole := match first? with
      | some first => .both first s
      | none => s
    match rest with
    | '\n' :: _ => if inner then readList n inner (some whole) else return some whole
    | ';' :: ';' :: _ => if inner then return some whole else Reading.unexpected
    | '&' :: _ | ';' :: _ =>
      Reading.skip 1
      readList n inner (some whole)
    | _ => if inner || rest.isEmpty then return some whole else Reading.unexpected

/-- Reads statements that depend on each other's success. -/
def readChain (n : Nat) : Reading Statement :=
  match n with
  | 0 => Reading.unexpected
  | n + 1 => do continueChain n (← readPipeline n)

/-- Reads what depends on the success of a statement, if anything does. -/
def continueChain (n : Nat) (first : Statement) : Reading Statement :=
  match n with
  | 0 => Reading.unexpected
  | n + 1 => do
    let _ ← Reading.upcoming
    if ← Reading.takes "&&" then
      passLines n
      continueChain n (.andThen first (← readPipeline n))
    else if ← Reading.takes "||" then
      passLines n
      continueChain n (.orElse first (← readPipeline n))
    else return first

/-- Reads statements that read what others write. -/
def readPipeline (n : Nat) : Reading Statement :=
  match n with
  | 0 => Reading.unexpected
  | n + 1 => do
    let negated := (← Reading.keyword?) = some "!"
    if negated then Reading.skip 1
    let first ← readStatement n []
    let stages ← readStages n
    let whole := if stages.isEmpty then first else .pipeline (first :: stages)
    return if negated then .negated whole else whole

/-- Reads the stages of a pipeline behind the first one. -/
def readStages (n : Nat) : Reading (List Statement) :=
  match n with
  | 0 => Reading.unexpected
  | n + 1 => do
    match ← Reading.upcoming with
    | '|' :: '|' :: _ => return []
    | '|' :: _ =>
      Reading.skip 1
      passLines n
      let stage ← readStatement n []
      return stage :: (← readStages n)
    | _ => return []

/-- Reads one statement, in which some aliases are not looked up any more. -/
def readStatement (n : Nat) (used : List Octets) : Reading Statement :=
  match n with
  | 0 => Reading.unexpected
  | n + 1 => do
    let keyword? ← Reading.keyword?
    let line := (← get).line
    if (← Reading.rest).head? = some '(' then
      Reading.skip 1
      let body ← readBody n
      Reading.expectSign ")"
      closeStatement n line (.apart line body)
    else match keyword? with
      | none => readSimple n line used {}
      | some keyword =>
        Reading.skip keyword.length
        let s ← match keyword with
          | "if" => readChoice n
          | "while" => readLoop n false
          | "until" => readLoop n true
          | "for" => readEach n line
          | "case" => readSelect n line
          | "\x7b" => do
            let body ← readBody n
            Reading.expect "\x7d"
            pure body
          | _ => Reading.unexpected
        closeStatement n line s

/-- A statement with the descriptors sent elsewhere behind it. -/
def closeStatement (n : Nat) (line : Nat) (s : Statement) : Reading Statement :=
  match n with
  | 0 => Reading.unexpected
  | n + 1 => return s.withRedirects line (← readRedirects n)

/-- Reads descriptors sent elsewhere. -/
def readRedirects (n : Nat) : Reading (List Redirect) :=
  match n with
  | 0 => Reading.unexpected
  | n + 1 => do
    match ← takeSign with
    | none => return []
    | some (descriptor, sign) =>
      let channel ← channelOf sign (← readSomeWord n)
      return .mk descriptor channel :: (← readRedirects n)

/-- Reads statements, of which there must be one. -/
def readBody (n : Nat) : Reading Statement :=
  match n with
  | 0 => Reading.unexpected
  | n + 1 => do
    match ← readList n true none with
    | some s => return s
    | none => Reading.unexpected

/-- Reads a choice behind its first word. -/
def readChoice (n : Nat) : Reading Statement :=
  match n with
  | 0 => Reading.unexpected
  | n + 1 => do
    let test ← readBody n
    Reading.expect "then"
    let yes ← readBody n
    match ← Reading.keyword? with
    | some "elif" =>
      Reading.skip 4
      let no ← readChoice n
      return .choice test yes (some no)
    | some "else" =>
      Reading.skip 4
      let no ← readBody n
      Reading.expect "fi"
      return .choice test yes (some no)
    | _ =>
      Reading.expect "fi"
      return .choice test yes none

/-- Reads the body of a loop. -/
def readRound (n : Nat) : Reading Statement :=
  match n with
  | 0 => Reading.unexpected
  | n + 1 => do
    Reading.expect "do"
    let body ← readBody n
    Reading.expect "done"
    return body

/-- Reads a loop behind its first word. -/
def readLoop (n : Nat) (stopsOn : Bool) : Reading Statement :=
  match n with
  | 0 => Reading.unexpected
  | n + 1 => do
    let test ← readBody n
    let body ← readRound n
    return .loop stopsOn test body

/-- Reads a loop over words behind its first word. -/
def readEach (n : Nat) (line : Nat) : Reading Statement :=
  match n with
  | 0 => Reading.unexpected
  | n + 1 => do
    let name := (Word.literal? (← readSomeWord n)).getD []
    if ! isName name then Reading.refuse "Bad for loop variable"
    passLines n
    let told := (← Reading.keyword?) = some "in"
    if told then Reading.skip 2
    let words ← if told then readWords n else pure [allArguments]
    let _ ← Reading.upcoming
    let _ ← Reading.takes ";"
    passLines n
    let body ← readRound n
    return .each line name words body

/-- Reads a selection behind its first word. -/
def readSelect (n : Nat) (line : Nat) : Reading Statement :=
  match n with
  | 0 => Reading.unexpected
  | n + 1 => do
    let word ← readSomeWord n
    passLines n
    Reading.expect "in"
    let clauses ← readClauses n
    return .select line word clauses

/-- Reads the clauses of a selection and its end. -/
def readClauses (n : Nat) : Reading (List (List Word × Option Statement)) :=
  match n with
  | 0 => Reading.unexpected
  | n + 1 => do
    passLines n
    if (← Reading.keyword?) = some "esac" then
      Reading.skip 4
      return []
    let _ ← Reading.takes "("
    let patterns ← readPatterns n
    let body ← readList n true none
    passLines n
    if ← Reading.takes ";;" then return (patterns, body) :: (← readClauses n)
    Reading.expect "esac"
    return [(patterns, body)]

/-- Reads the patterns of a clause, and the parenthesis behind them. -/
def readPatterns (n : Nat) : Reading (List Word) :=
  match n with
  | 0 => Reading.unexpected
  | n + 1 => do
    let w ← readSomeWord n
    let _ ← Reading.upcoming
    if ← Reading.takes "|" then return w :: (← readPatterns n)
    Reading.expectSign ")"
    return [w]

/-- Reads a command or a definition, given the part of it that has been read. -/
def readSimple (n : Nat) (line : Nat) (used : List Octets) (c : Simple) : Reading Statement :=
  match n with
  | 0 => Reading.unexpected
  | n + 1 => do
    match ← takeSign with
    | some (descriptor, sign) =>
      let channel ← channelOf sign (← readSomeWord n)
      readSimple n line used { c with redirects := c.redirects ++ [.mk descriptor channel] }
    | none => match ← readWord n, c with
      | some w, c =>
        let name := (Word.literal? w).getD []
        if c.words.isEmpty && Word.isAssignment w then
          readSimple n line used { c with assignments := c.assignments ++ [w] }
        else
          let alias? := (← get).aliases.lookup name
          match if c.words.isEmpty && ! used.contains name then alias? else none with
          | none => readSimple n line used { c with words := c.words ++ [w] }
          | some text =>
            modify fun r => { r with rest := text ++ r.rest }
            if c.assignments.isEmpty && c.redirects.isEmpty then readStatement n (name :: used)
            else readSimple n line (name :: used) c
      | none, ⟨[], [w], []⟩ =>
        let _ ← Reading.upcoming
        if ← Reading.takes "(" then
          Reading.expectSign ")"
          let name := (Word.literal? w).getD []
          if ! isName name || specialCommands.contains (String.ofList name) then
            Reading.refuse "Bad function name"
          passLines n
          return .define line name (← readStatement n [])
        else return .command line [] [w] []
      | none, c =>
        if c.assignments.isEmpty && c.words.isEmpty && c.redirects.isEmpty then Reading.unexpected
        return .command line c.assignments c.words c.redirects

end

/-! ### Lines -/

/-- What the next line of a script comes to. -/
inductive Line where
  /-- The script has ended. -/
  | none
  /-- A statement, if there is one on the line, and whether the script ends with it. -/
  | statement (s : Option Statement) (last : Bool)

/-- Reads the statement of the next line. -/
def readLine : Reading Line := do
  let s ← readList readingLimit false none
  let ended := (← Reading.upcoming).isEmpty
  if ended && s.isNone then return .none
  let starts := (← Reading.rest).head? = some '\n'
  if ! ended && ! starts then Reading.unexpected
  Reading.skip 1
  readDocuments readingLimit (← get).awaited
  return .statement s ended

end PackageCensus.Script
