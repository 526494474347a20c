/-
# Cancelling

What can be cancelled hangs in a tree of two levels: one root, and its children, numbered in the
order in which they were made.  To cancel the root is to cancel every child, those included that
are made later; to cancel a child touches nothing else.

This is what is documented of tokio's `CancellationToken`, and is assumed here: a child of a cancelled
root is cancelled from its making, cancelling takes effect at once, and nothing is ever taken back.

Main statements:
* `isCancelled_child`: making a child cancels nothing;
* `isCancelled_cancelAll`: exactly the named children are cancelled on top.
-/
namespace PluginArbiter

/-- A root and its children. -/
structure Cancellation where
  made : Nat := 0
  rootCancelled : Bool := false
  childrenCancelled : List Nat := []
  deriving DecidableEq, Inhabited

namespace Cancellation

/-- Makes a child and gives its number. -/
def child (c : Cancellation) : Nat × Cancellation := (c.made, { c with made := c.made + 1 })

/-- Whether a child is cancelled, be it alone or with the root. -/
def isCancelled (c : Cancellation) (child : Nat) : Bool :=
  c.rootCancelled || c.childrenCancelled.contains child

/-- Cancels some children. -/
def cancelAll (c : Cancellation) (children : List Nat) : Cancellation :=
  { c with childrenCancelled := children ++ c.childrenCancelled }

/-- Cancels the root. -/
def cancelRoot (c : Cancellation) : Cancellation := { c with rootCancelled := true }

/-! ## 1. Laws -/

/-- Making a child cancels nothing. -/
@[simp] theorem isCancelled_child (c : Cancellation) (child : Nat) :
    c.child.2.isCancelled child = c.isCancelled child := rfl

/-- Exactly the named children are cancelled on top. -/
@[simp] theorem isCancelled_cancelAll (c : Cancellation) (children : List Nat) (child : Nat) :
    (c.cancelAll children).isCancelled child
      = (children.contains child || c.isCancelled child) := by
  simp only [cancelAll, isCancelled, List.contains_append]
  exact Bool.or_left_comm ..

/-- With the root every child is cancelled. -/
theorem isCancelled_of_root {c : Cancellation} (h : c.rootCancelled = true) (child : Nat) :
    c.isCancelled child = true := by
  simp [isCancelled, h]

@[simp] theorem isCancelled_cancelRoot (c : Cancellation) (child : Nat) :
    c.cancelRoot.isCancelled child = true := isCancelled_of_root rfl child

end Cancellation

end PluginArbiter
