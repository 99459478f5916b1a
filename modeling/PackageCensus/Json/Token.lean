import PackageCensus.Json.Number
import PackageCensus.Json.Text

/-! # Tokens of JSON documents

`lex` cuts a document into its marks, words, numbers and strings, without the blanks between
them.  It never fails: a start of a token that comes to nothing is a token of its own, the last,
which keeps what is wrong.  So a reader that takes one token at a time meets a fault just when it
gets there.

A number or a string may be sound enough to be passed over and yet have no value; a broken one
may be at fault in two ways, depending on whether its value was wanted or it was only to be
passed over. -/

namespace PackageCensus.Json

/-- A token. -/
inductive Token where
  | openList
  | closeList
  | openObject
  | closeObject
  | comma
  | colon
  | null
  | boolean (b : Bool)
  | number (value : Except Fault Number)
  | text (value : Except Fault String)
  /-- A start of a string that comes to nothing, and the fault if its text is wanted or not. -/
  | brokenText (wanted passed : Fault)
  /-- Any other start that comes to nothing. -/
  | broken (wanted passed : Fault)

/-- A token and what follows it, unless it is broken. -/
abbrev Lexeme := Token × Option (List Char)

/-- The white space of a document. -/
def isSpace (c : Char) : Bool := c = ' ' || c = '\n' || c = '\t' || c = '\r'

/-- The token of a word whose letters still to come are given. -/
def lexWord (token : Token) : List Char → List Char → Lexeme
  | [], cs => (token, some cs)
  | _ :: _, [] => (.broken .truncated .truncated, none)
  | e :: expected, c :: cs =>
    if e = c then lexWord token expected cs else (.broken .malformed .malformed, none)

/-- The token of a number.  One that is only passed over is malformed wherever it breaks off. -/
def lexNumber (negative : Bool) (cs : List Char) : Lexeme :=
  match NumberForm.scan negative cs with
  | .ok (form, rest) => (.number form.value, some rest)
  | .error fault => (.broken fault .malformed, none)

/-- The token of a string, its opening quote being read. -/
def lexText (cs : List Char) : Lexeme :=
  match scanText cs with
  | (pieces, .ok rest) => (.text (closedText pieces), some rest)
  | (pieces, .error fault) => (.brokenText (openFault pieces fault) fault, none)

/-- The token that a character begins. -/
def lexOne (c : Char) (rest : List Char) : Lexeme :=
  match c with
  | '[' => (.openList, some rest)
  | ']' => (.closeList, some rest)
  | '\x7b' => (.openObject, some rest)
  | '\x7d' => (.closeObject, some rest)
  | ',' => (.comma, some rest)
  | ':' => (.colon, some rest)
  | '"' => lexText rest
  | 'n' => lexWord .null ['u', 'l', 'l'] rest
  | 't' => lexWord (.boolean true) ['r', 'u', 'e'] rest
  | 'f' => lexWord (.boolean false) ['a', 'l', 's', 'e'] rest
  | '-' => lexNumber true rest
  | c =>
    if c.isDigit then lexNumber false (c :: rest) else (.broken .malformed .malformed, none)

theorem length_lexWord {token : Token} : ∀ {expected cs rest : List Char},
    (lexWord token expected cs).2 = some rest → rest.length ≤ cs.length
  | [], _, _, h => by simp only [lexWord, Option.some.injEq] at h; simp [h]
  | _ :: _, [], _, h => by simp [lexWord] at h
  | e :: expected, c :: cs, rest, h => by
    unfold lexWord at h
    split at h
    · have := length_lexWord h
      simp only [List.length_cons]
      omega
    · simp at h

theorem length_lexNumber {negative : Bool} {cs rest : List Char}
    (h : (lexNumber negative cs).2 = some rest) : rest.length < cs.length := by
  unfold lexNumber at h
  split at h
  · next form tail hs =>
    simp only [Option.some.injEq] at h
    exact h ▸ NumberForm.length_scan hs
  · simp at h

theorem length_lexText {cs rest : List Char} (h : (lexText cs).2 = some rest) :
    rest.length < cs.length := by
  unfold lexText at h
  split at h
  · next pieces tail hs =>
    simp only [Option.some.injEq] at h
    exact @length_scanText cs _ (by rw [hs, h])
  · simp at h

theorem length_lexOne {c : Char} {cs rest : List Char} (h : (lexOne c cs).2 = some rest) :
    rest.length ≤ cs.length := by
  unfold lexOne at h
  split at h
  iterate 6 (simp only [Option.some.injEq] at h; simp [h])
  · exact Nat.le_of_lt (length_lexText h)
  iterate 3 exact length_lexWord h
  · exact Nat.le_of_lt (length_lexNumber h)
  · split at h
    · have := length_lexNumber h
      simp only [List.length_cons] at this
      omega
    · simp at h

/-- The tokens of a document, up to the first that is broken. -/
def lex (cs : List Char) : List Token :=
  match cs with
  | [] => []
  | c :: rest =>
    if isSpace c then lex rest
    else match _step : lexOne c rest with
      | (token, some more) => token :: lex more
      | (token, none) => [token]
termination_by cs.length
decreasing_by
  · simp
  · have := @length_lexOne _ _ more (by rw [_step])
    simp only [List.length_cons]
    omega

end PackageCensus.Json
