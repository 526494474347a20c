/-
# The first answer, kept

A value that takes time to come by is asked for by several callers.  One of them at a time has the
turn to fetch it; the others wait in line.  The first success is kept for good and serves everybody.
A caller that fails, or that gives up while it has the turn, hands the turn to the next in line.

This is taken over, as an assumption, from what is documented of tokio's `OnceCell` and of the fair
semaphore on which its callers wait: a permit goes to whoever asked first, a caller that is dropped
gives up its permit or its place, one that has its permit looks for the value before it starts, and
a value once set stays.
-/
namespace PluginArbiter

/-- The state of a kept value; callers are numbers. -/
structure Cache (α : Type) where
  stored : Option α := none
  holder : Option Nat := none
  waiting : List Nat := []
  deriving Inhabited

/-- What a caller is told. -/
inductive Admission (α : Type)
  /-- The value is there. -/
  | stored (value : α)
  /-- The caller is to fetch it. -/
  | turn
  /-- Somebody else is fetching it. -/
  | wait

namespace Cache

variable {α ε : Type}

/-- Whether the value is there. -/
def isWarm (c : Cache α) : Bool := c.stored.isSome

/-- The turn goes to the caller who has waited longest, if there is one. -/
def pass (c : Cache α) : Cache α :=
  { c with holder := c.waiting.head?, waiting := c.waiting.tail }

/-- A caller asks for the value. -/
def ask (c : Cache α) (caller : Nat) : Admission α × Cache α :=
  match c.stored, c.holder with
  | some value, _ => (.stored value, c)
  | none, none => (.turn, { c with holder := some caller })
  | none, some h =>
    if h = caller then (.turn, c)
    else if c.waiting.contains caller then (.wait, c)
    else (.wait, { c with waiting := c.waiting ++ [caller] })

/-- The caller who has the turn comes back with a result. -/
def finish (c : Cache α) (result : Except ε α) : Cache α :=
  match result with
  | .ok value => { stored := some value, holder := none, waiting := [] }
  | .error _ => c.pass

/-- A caller gives up. -/
def leave (c : Cache α) (caller : Nat) : Cache α :=
  if c.holder = some caller then c.pass
  else { c with waiting := c.waiting.filter (· ≠ caller) }

end Cache

end PluginArbiter
