/-! # Statements of scripts

A script is made of statements, and a statement of words.  A word is a list of pieces: text that
stands for itself, and places where the value of a parameter, the output of a statement or a number
goes in.  A statement is a command or made of others: one after the other, one if another went well
or failed, some that read what others write, a choice, a loop, the definition of a function.

The text that a command reads from the lines behind it is not part of the statement.  It goes by a
number, under which it is kept beside the statement. -/

namespace PackageCensus.Script

/-- Texts of octets. -/
abbrev Octets := List Char

/-! ### Words -/

/-- What goes into the place of a parameter. -/
inductive Treatment where
  | value
  /-- Another word if there is no value. -/
  | fallback
  /-- Another word if there is a value. -/
  | replacement
  /-- The end of the script if there is no value. -/
  | demand
  /-- Another word if there is no value, which then becomes the value. -/
  | assignment
  /-- The value without a beginning or an end that a pattern stands for. -/
  | trimmed (fromEnd longest : Bool)
  | length
  /-- Nothing that is known. -/
  | unknown
deriving DecidableEq, Repr

mutual

/-- A part of a word. -/
inductive Piece where
  /-- Characters that may be signs of a pattern and that can be cut at blanks. -/
  | text (cs : List Char)
  /-- A character that stands for itself alone. -/
  | exact (c : Char)
  /-- Where quotes begin or end. -/
  | quote
  /-- A parameter; an empty value may count as none. -/
  | parameter (name : Octets) (treatment : Treatment) (orEmpty : Bool) (word : List Piece)
  | output (body : Option Statement)
  | number (expression : List Piece)

/-- What is done with a descriptor. -/
inductive Channel where
  | read (path : List Piece)
  | write (path : List Piece)
  | append (path : List Piece)
  | same (descriptor : Nat)
  | nowhere
  /-- Text that goes by a number, and whether places in it are filled. -/
  | document (number : Nat) (filled : Bool)

/-- A descriptor sent elsewhere. -/
inductive Redirect where
  | mk (descriptor : Nat) (channel : Channel)

/-- A statement; most tell the line that they stand on. -/
inductive Statement where
  | command (line : Nat) (assignments words : List (List Piece)) (redirects : List Redirect)
  | redirected (line : Nat) (body : Statement) (redirects : List Redirect)
  | both (first second : Statement)
  | andThen (first second : Statement)
  | orElse (first second : Statement)
  | negated (body : Statement)
  | pipeline (stages : List Statement)
  /-- In a process of its own. -/
  | apart (line : Nat) (body : Statement)
  /-- In a process of its own that is not waited for. -/
  | background (line : Nat) (body : Statement)
  | choice (test yes : Statement) (no : Option Statement)
  /-- Repeated as long as a test goes well, or until it does. -/
  | loop (stopsOn : Bool) (test body : Statement)
  | each (line : Nat) (name : Octets) (words : List (List Piece)) (body : Statement)
  /-- The body of the first clause with a pattern that fits the word. -/
  | select (line : Nat) (word : List Piece)
      (clauses : List (List (List Piece) × Option Statement))
  | define (line : Nat) (name : Octets) (body : Statement)

end

/-- A word. -/
abbrev Word := List Piece

/-- The descriptor that is sent elsewhere. -/
def Redirect.descriptor : Redirect → Nat
  | .mk n _ => n

/-- What is done with the descriptor. -/
def Redirect.channel : Redirect → Channel
  | .mk _ c => c

/-! ### Names and plain words -/

/-- Whether a character can begin the name of a variable. -/
def beginsName (c : Char) : Bool := c.isAlpha || c == '_'

/-- Whether a character can stand in the name of a variable. -/
def isNameChar (c : Char) : Bool := c.isAlphanum || c == '_'

/-- The name of a variable that a text begins with, which may be empty, and what follows it. -/
def splitName (cs : List Char) : List Char × List Char :=
  if (cs.head?).any beginsName then (cs.takeWhile isNameChar, cs.dropWhile isNameChar)
  else ([], cs)

/-- Whether a text is the name of a variable. -/
def isName (cs : List Char) : Bool := ! (splitName cs).1.isEmpty && (splitName cs).2.isEmpty

/-- The text of a word that is nothing but plain text. -/
def Word.literal? : Word → Option (List Char)
  | [] => some []
  | .text cs :: rest => (literal? rest).map (cs ++ ·)
  | _ => none

/-- The text of a word without its quotes. -/
def Word.mark (w : Word) : Octets :=
  w.flatMap fun
    | .text cs => cs
    | .exact c => [c]
    | _ => []

/-- Whether a word gives a variable a value. -/
def Word.isAssignment : Word → Bool
  | .text cs :: _ =>
    let (name, rest) := splitName cs
    ! name.isEmpty && rest.head? == some '='
  | _ => false

/-- All arguments of a script, each as a word. -/
def allArguments : Word := [.quote, .parameter ['@'] .value false [], .quote]

end PackageCensus.Script
