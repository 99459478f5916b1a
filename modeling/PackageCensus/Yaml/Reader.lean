import PackageCensus.Numeral
import PackageCensus.Shape
import PackageCensus.Yaml.Linked

/-! # Reading YAML documents by their shape

A string is any scalar, in whatever style.  Truth values and numbers are plain scalars; an
optional value is missing where a plain scalar is empty or says so.  Lists are sequences and
records are mappings, and an empty plain scalar stands for an empty one of either.  Fields that
a record does not know are skipped, whatever they hold.

The marks of a document carry no meaning here, but for the tags of null, of truth values and of
whole numbers.  Everything that is wrong with a document is one fault: there is no answer. -/

namespace PackageCensus.Yaml

/-! ### Scalars -/

/-- The tag of a kind of scalars. -/
def coreTag (kind : String) : Option Tag := some (.ofText ("tag:yaml.org,2002:" ++ kind))

/-- Whether a scalar may be something else than a string: a plain one, or one in literal style
with the tag of that kind. -/
def isBare (kind : String) (tag : Option Tag) (style : Style) : Bool :=
  style == .plain || (style == .literal && tag == coreTag kind)

/-- The words for no value. -/
def nullWords : List String := ["null", "Null", "NULL", "~"]

/-- Whether a text is a word for no value. -/
def isNull (text : List Char) : Bool := nullWords.contains (String.ofList text)

/-- The truth value of a word. -/
def readFlag (text : List Char) : Option Bool :=
  let word := String.ofList text
  if ["true", "True", "TRUE"].contains word then some true
  else if ["false", "False", "FALSE"].contains word then some false
  else none

/-- A text without a beginning. -/
def after? (beginning : String) (text : List Char) : Option (List Char) :=
  if beginning.toList.isPrefixOf text then some (text.drop beginning.length) else none

/-- Whether a text begins with a sign. -/
def isSigned : List Char → Bool
  | '+' :: _ | '-' :: _ => true
  | _ => false

/-- Whether a text is more than one digit with a zero in front, behind a sign or not. -/
def hasLeadingZero (text : List Char) : Bool :=
  match if isSigned text then text.drop 1 else text with
  | '0' :: d :: rest => (d :: rest).all Char.isDigit
  | _ => false

/-- The beginnings of numerals in other bases than ten. -/
def bases : List (String × Nat) := [("0x", 16), ("0o", 8), ("0b", 2)]

/-- The base and the digits of a numeral that may begin with the mark of a base. -/
def divideBase (text : List Char) : Nat × List Char :=
  (bases.findSome? fun (beginning, base) => (after? beginning text).map (base, ·)).getD (10, text)

/-- A whole number from zero; a plus sign may stand before it. -/
def readUnsigned (text : List Char) : Option UInt64 :=
  let (base, digits) := divideBase ((after? "+" text).getD text)
  if isSigned digits || (base == 10 && hasLeadingZero text) then none
  else (Numeral.readUnsigned base digits).toOption.map .ofNat

/-- A whole number of either sign. -/
def readSigned (text : List Char) : Option Int64 :=
  let (base, digits) := divideBase (if isSigned text then text.drop 1 else text)
  if isSigned digits || (base == 10 && hasLeadingZero text) then none
  else (Numeral.readSigned base (text.takeWhile (· == '-') ++ digits)).toOption.map .ofInt

/-! ### Nodes -/

/-- Reading counts how often an alias was followed. -/
abbrev Following := StateT Nat Option

/-- No answer. -/
def refused {α : Type} : Following α := fun _ => none

/-- What an answer makes, if there is one. -/
def answer {α : Type} (a : Option α) : Following α := fun followed => a.map (·, followed)

/-- The node that a node stands for. -/
def follow (d : LinkedDocument) : Linked → Following Linked
  | .alias number => fun followed =>
    if followed < d.limit then (d.target? number).map (·, followed + 1) else none
  | node => pure node

/-- The text of a scalar that is a string. -/
def stringOf : Linked → Option String
  | .scalar _ _ text => some (String.ofList text)
  | _ => none

/-- The text of a scalar that may be something else than a string. -/
def bareText (kind : String) : Linked → Option (List Char)
  | .scalar tag style text => if isBare kind tag style then some text else none
  | _ => none

/-- Whether a node is an empty plain scalar, which stands for an empty collection. -/
def isVoid : Linked → Bool
  | .scalar _ style text => style == .plain && text.isEmpty
  | _ => false

/-- The items of a node as a list. -/
def itemsOf : Linked → Option (List Linked)
  | .sequence items => some items
  | node => if isVoid node then some [] else none

/-- The entries of a node as a record. -/
def entriesOf : Linked → Option (List (Linked × Linked))
  | .mapping entries => some entries
  | node => if isVoid node then some [] else none

/-- Whether a value is there; no answer where the tag of null stands before something else. -/
def isPresent : Linked → Option Bool
  | .scalar tag .plain text =>
    if tag = coreTag "null" then if isNull text then some false else none
    else if tag.isSome then some true
    else some !(text.isEmpty || isNull text)
  | _ => some true

/-- A text of one character. -/
def letterOf (s : String) : Option Char :=
  match s.toList with
  | [c] => some c
  | _ => none

/-- Adds the members of a record to a draft, one after the other. -/
def addMembers {δ : Type} (d : LinkedDocument)
    (member? : String → Option (Linked → δ → Following δ)) (draft : δ) :
    List (Linked × Linked) → Following δ
  | [] => pure draft
  | (key, value) :: rest => do
    let name ← answer (stringOf (← follow d key))
    match member? name with
    | none => addMembers d member? draft rest
    | some member => addMembers d member? (← member value draft) rest

mutual

/-- The value that a node holds. -/
def readShape (d : LinkedDocument) : (s : Shape) → Linked → Following s.Carrier
  | .text _, node => do answer (stringOf (← follow d node))
  | .letter, node => do answer ((stringOf (← follow d node)).bind letterOf)
  | .flag, node => do answer ((bareText "bool" (← follow d node)).bind readFlag)
  | .unsigned _, node => do answer ((bareText "int" (← follow d node)).bind readUnsigned)
  | .signed, node => do answer ((bareText "int" (← follow d node)).bind readSigned)
  | .list item, node => do
    (← answer (itemsOf (← follow d node))).mapM (readShape d item)
  | .optional inner, node => do
    let node ← follow d node
    if ← answer (isPresent node) then some <$> readShape d inner node else pure none
  | .record _ fields, node => do
    let entries ← answer (entriesOf (← follow d node))
    let draft ← addMembers d (readMember d fields) fields.blank entries
    answer (fields.finish draft).toOption

/-- Puts a named member into a draft; none for a name that the record does not know.  A member
that the draft has already is refused. -/
def readMember (d : LinkedDocument) :
    (fields : Fields) → String → Option (Linked → fields.Draft → Following fields.Draft)
  | .nil, _ => none
  | .required own shape rest, name =>
    if name = own then
      some fun node (value, draft) => match value with
        | none => do return (some (← readShape d shape node), draft)
        | some _ => refused
    else (readMember d rest name).map fun member node (value, draft) =>
      (fun draft => (value, draft)) <$> member node draft
  | .defaulted own shape rest, name =>
    if name = own then
      some fun node (value, draft) => match value with
        | none => do return (some (← readShape d shape node), draft)
        | some _ => refused
    else (readMember d rest name).map fun member node (value, draft) =>
      (fun draft => (value, draft)) <$> member node draft

end

/-- The node of a document; a text without a document stands for an empty node. -/
def Content.root : Content → Node
  | .void => .empty
  | .node n => n

/-- The value that a document holds. -/
def readAs (s : Shape) (document : String) : Option s.Carrier := do
  let content ← document? (← scanTokens? document)
  let linked ← LinkedDocument.of? content.root
  let (value, _) ← (readShape linked s linked.root).run 0
  return value

end PackageCensus.Yaml
