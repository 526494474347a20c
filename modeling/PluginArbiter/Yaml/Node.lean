/-
# Nodes

What a text in YAML describes: scalars, lists and records, any of which may carry an anchor, and
references to anchors.  Linking gives every reference the number of the anchor that it means; a
linked text can be read like any other source of values.
-/
import PluginArbiter.Document.Basic
import PluginArbiter.Yaml.Number

namespace PluginArbiter.Yaml

/-! ## 1. Nodes -/

/-- A node; anchors and references bear labels of some type. -/
inductive Node (label : Type)
  | scalar (plain : Bool) (text : String)
  | list (items : List (Node label))
  | record (fields : List (Node label × Node label))
  | anchored (name : label) (node : Node label)
  | reference (name : label)
  deriving Inhabited

namespace Node

variable {label : Type}

/-- A place where nothing is written. -/
def empty : Node label := .scalar true ""

/-- The node without its anchors. -/
def content : Node label → Node label
  | .anchored _ node => node.content
  | node => node

/-- Whether the node is a reference or carries an anchor. -/
def isLabelled : Node label → Bool
  | .anchored .. | .reference _ => true
  | _ => false

end Node

/-! ## 2. Linking -/

/-- The names of anchors that are bound, each with its number. -/
structure Anchors where
  numbers : List (String × Nat) := []

namespace Anchors

/-- The number of a name. -/
def number? (a : Anchors) (name : String) : Option Nat := a.numbers.lookup name

/-- Binds a name to the count of the names that were bound before; the number of a name that is
bound again may have been given away already. -/
def bind (a : Anchors) (name : String) : Nat × Anchors :=
  let number := a.numbers.length
  (number, { numbers := (name, number) :: a.numbers.filter fun p => p.1 ≠ name })

end Anchors

namespace Node

mutual

/-- Replaces labels by numbers in the order of the text.  A name has to be bound before it is
referred to. -/
def link (a : Anchors) : Node String → Option (Node Nat × Anchors)
  | .scalar plain text => some (.scalar plain text, a)
  | .list items => (linkItems a items).map fun (items, a) => (.list items, a)
  | .record fields => (linkFields a fields).map fun (fields, a) => (.record fields, a)
  | .anchored name node =>
    let (number, a) := a.bind name
    (link a node).map fun (node, a) => (.anchored number node, a)
  | .reference name => (a.number? name).map fun number => (.reference number, a)

/-- Links a list of nodes. -/
def linkItems (a : Anchors) : List (Node String) → Option (List (Node Nat) × Anchors)
  | [] => some ([], a)
  | node :: rest =>
    (link a node).bind fun (node, a) => (linkItems a rest).map fun (rest, a) => (node :: rest, a)

/-- Links a list of fields. -/
def linkFields (a : Anchors) :
    List (Node String × Node String) → Option (List (Node Nat × Node Nat) × Anchors)
  | [] => some ([], a)
  | (key, value) :: rest =>
    (link a key).bind fun (key, a) =>
      (link a value).bind fun (value, a) =>
        (linkFields a rest).map fun (rest, a) => ((key, value) :: rest, a)

end

mutual

/-- The anchored nodes, in the order of the text. -/
def targets : Node Nat → List (Nat × Node Nat)
  | .scalar .. | .reference _ => []
  | .list items => targetsOfItems items
  | .record fields => targetsOfFields fields
  | .anchored number node => (number, node) :: node.targets

/-- The anchored nodes in a list of nodes. -/
def targetsOfItems : List (Node Nat) → List (Nat × Node Nat)
  | [] => []
  | node :: rest => node.targets ++ targetsOfItems rest

/-- The anchored nodes in a list of fields. -/
def targetsOfFields : List (Node Nat × Node Nat) → List (Nat × Node Nat)
  | [] => []
  | (key, value) :: rest => key.targets ++ (value.targets ++ targetsOfFields rest)

end

end Node

/-! ## 3. Reading -/

/-- A linked node with the anchored nodes of its text. -/
structure Source where
  targets : List (Nat × Node Nat)
  node : Node Nat

namespace Source

/-- Links the node of a whole text.  Where two anchors bear one number the later one counts. -/
def ofNode (node : Node String) : Option Source :=
  (node.link {}).map fun (node, _) => { targets := node.targets.reverse, node }

/-- What the source says, without anchors and references. -/
def content (s : Source) : Node Nat :=
  match s.node.content with
  | .reference number => ((s.targets.lookup number).map Node.content).getD .empty
  | node => node

/-- Another node of the same text. -/
def at_ (s : Source) (node : Node Nat) : Source := { s with node }

/-- The text of a scalar. -/
def text? (s : Source) : Option String :=
  match s.content with
  | .scalar _ text => some text
  | _ => none

/-- The text of a plain scalar. -/
def plain? (s : Source) : Option String :=
  match s.content with
  | .scalar true text => some text
  | _ => none

/-- Every scalar is a text, whatever it looks like.  Truth values and numbers are plain, and where
nothing is written an empty list or record may be meant.  All keys of a record are scalars. -/
instance : Readable Source where
  text? s := s.text?
  flag? s := s.plain?.bind fun t =>
    if ["true", "True", "TRUE"].contains t then some true
    else if ["false", "False", "FALSE"].contains t then some false
    else none
  natural? s := s.plain?.bind fun t => Number.natural? t.toList
  items? s :=
    match s.content with
    | .list items => some (items.map s.at_)
    | .scalar true "" => some []
    | _ => none
  record? names s :=
    match s.content with
    | .record fields =>
      (fields.mapM fun (key, value) => (s.at_ key).text?.map fun key => (key, s.at_ value)).bind
        (Document.knownFields names)
    | .scalar true "" => some []
    | _ => none
  choice? s := s.text?

end Source

end PluginArbiter.Yaml
