/-
# How often references are followed

A reference stands for as much as its anchor holds, and what it stands for may hold references in
turn, so that a short text can describe a value of any size.  A reader therefore follows references
at most a hundred times for each mark of the text; of fields that it does not know it follows none.

Main statements:
* `follow_scalar`: a reader of a scalar follows one reference at most.
-/
import PluginArbiter.Document.Shape
import PluginArbiter.Yaml.Node

namespace PluginArbiter.Yaml

/-! ## 1. Marks -/

namespace Node

variable {label : Type}

mutual

/-- The marks of a text: one for a scalar or a reference, two around a list or a record. -/
def marks : Node label → Nat
  | .scalar .. | .reference _ => 1
  | .list items => marksOfItems items + 2
  | .record fields => marksOfFields fields + 2
  | .anchored _ node => node.marks

/-- The marks of a list of nodes. -/
def marksOfItems : List (Node label) → Nat
  | [] => 0
  | node :: rest => node.marks + marksOfItems rest

/-- The marks of a list of fields. -/
def marksOfFields : List (Node label × Node label) → Nat
  | [] => 0
  | (key, value) :: rest => key.marks + value.marks + marksOfFields rest

end

end Node

/-! ## 2. Following references -/

namespace Source

/-- What is left of a budget after a look at a node: a reference takes one from it. -/
def pay (node : Node Nat) (budget : Nat) : Option Nat :=
  match node with
  | .reference _ => if budget = 0 then none else some (budget - 1)
  | _ => some budget

mutual

/-- What is left of a budget after a value of a given shape was read from a node of the text. -/
def follow (s : Source) : Shape → Node Nat → Nat → Option Nat
  | .scalar, node, budget => pay node budget
  | .list item, node, budget =>
    (pay node budget).bind fun budget =>
      match (s.at_ node).content with
      | .list nodes => nodes.foldlM (fun budget node => follow s item node budget) budget
      | _ => some budget
  | .record fields, node, budget =>
    (pay node budget).bind fun budget =>
      match (s.at_ node).content with
      | .record entries =>
        entries.foldlM (fun budget (key, value) =>
          (pay key budget).bind fun budget =>
            followField s fields (s.at_ key).text? value budget) budget
      | _ => some budget

/-- What is left of a budget after a field was read, if it is one of those known. -/
def followField (s : Source) :
    List (String × Shape) → Option String → Node Nat → Nat → Option Nat
  | [], _, _, budget => some budget
  | (name, shape) :: rest, key, value, budget =>
    if key = some name then follow s shape value budget
    else followField s rest key value budget

end

/-- Whether a value of a given shape can be read within the limit. -/
def isModest (s : Source) (shape : Shape) : Bool :=
  (s.follow shape s.node (100 * s.node.marks)).isSome

/-! ## 3. Laws -/

/-- A reader of a scalar follows one reference at most. -/
theorem follow_scalar {s : Source} {node : Node Nat} {budget left : Nat}
    (h : s.follow .scalar node budget = some left) : budget ≤ left + 1 := by
  rw [follow] at h
  cases node <;> simp_all only [pay, Option.some.injEq] <;> try omega
  split at h
  · exact absurd h (by simp)
  · obtain rfl := Option.some.inj h
    omega

end Source

end PluginArbiter.Yaml
