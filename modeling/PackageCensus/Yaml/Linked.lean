import PackageCensus.Yaml.Node

/-! # Anchors and aliases

An alias stands for the node that carries the anchor of its name.  `link` goes through a document
from its start, gives the anchors numbers and each alias the number that its name has at that
point.  A name that is used again takes a new number: as many as there are names.  So two anchors
can come to share a number, and it is the last of them that all its aliases stand for. -/

namespace PackageCensus.Yaml

/-- A node whose aliases refer to numbers. -/
inductive Linked where
  | alias (number : Nat)
  | scalar (tag : Option Tag) (style : Style) (text : List Char)
  | sequence (items : List Linked)
  | mapping (entries : List (Linked × Linked))

/-- The numbers that names have at some point of a document. -/
abbrev Names := List (List Char × Nat)

/-- Nodes with anchors, under their numbers, in the order of the document. -/
abbrev Targets := List (Nat × Linked)

/-- The names after an anchor, if there is one, and its number. -/
def Names.enter (names : Names) : Option (List Char) → Names × Option Nat
  | none => (names, none)
  | some name =>
    ((name, names.length) :: names.filter (·.1 != name), some names.length)

/-- A node as a target, if it has a number. -/
def target (number : Option Nat) (node : Linked) : Targets :=
  match number with
  | some n => [(n, node)]
  | none => []

mutual

/-- A node with its aliases numbered, the names behind it and the targets in it; none if a name
is not known where an alias uses it. -/
def link (names : Names) : Node → Option (Linked × Names × Targets)
  | .alias name => (names.lookup name).map fun number => (.alias number, names, [])
  | .scalar marks style text =>
    let (names, number) := names.enter marks.anchor
    let node := .scalar marks.tag style text
    some (node, names, target number node)
  | .sequence marks items =>
    let (names, number) := names.enter marks.anchor
    (linkItems names items).map fun (items, names, targets) =>
      let node := .sequence items
      (node, names, target number node ++ targets)
  | .mapping marks entries =>
    let (names, number) := names.enter marks.anchor
    (linkEntries names entries).map fun (entries, names, targets) =>
      let node := .mapping entries
      (node, names, target number node ++ targets)

/-- The items of a sequence, one after the other. -/
def linkItems (names : Names) : List Node → Option (List Linked × Names × Targets)
  | [] => some ([], names, [])
  | item :: rest => do
    let (item, names, here) ← link names item
    let (items, names, targets) ← linkItems names rest
    return (item :: items, names, here ++ targets)

/-- The entries of a mapping, each key before its value. -/
def linkEntries (names : Names) :
    List (Node × Node) → Option (List (Linked × Linked) × Names × Targets)
  | [] => some ([], names, [])
  | (key, value) :: rest => do
    let (key, names, inKey) ← link names key
    let (value, names, inValue) ← link names value
    let (entries, names, targets) ← linkEntries names rest
    return ((key, value) :: entries, names, inKey ++ inValue ++ targets)

end

mutual

/-- The extent of a node: one for a scalar or an alias, two for a collection beside its parts. -/
def Linked.extent : Linked → Nat
  | .alias _ | .scalar .. => 1
  | .sequence items => extentOfItems items + 2
  | .mapping entries => extentOfEntries entries + 2

/-- The extent of the items of a sequence. -/
def Linked.extentOfItems : List Linked → Nat
  | [] => 0
  | item :: rest => item.extent + extentOfItems rest

/-- The extent of the entries of a mapping. -/
def Linked.extentOfEntries : List (Linked × Linked) → Nat
  | [] => 0
  | (key, value) :: rest => key.extent + value.extent + extentOfEntries rest

end

/-- A document whose aliases can be followed. -/
structure LinkedDocument where
  root : Linked
  targets : Targets
  /-- How often aliases may be followed: what is built from a short document stays small. -/
  limit : Nat

/-- The document with a node at its root. -/
def LinkedDocument.of? (n : Node) : Option LinkedDocument :=
  (link [] n).map fun (root, _, targets) => ⟨root, targets, 100 * root.extent⟩

/-- The node that a number stands for: the last in the document. -/
def LinkedDocument.target? (d : LinkedDocument) (number : Nat) : Option Linked :=
  d.targets.reverse.lookup number

end PackageCensus.Yaml
