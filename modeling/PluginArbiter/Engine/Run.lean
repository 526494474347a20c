/-
# An engine over time

What happens to an engine is a list of steps: operations of its users, and between them single polls
of the tasks of its dispatchers, in any order.  A task that is polled is judged by the engine as it
stands at that moment.

Main statements:
* `after_append`: what happens later is added to what happened before.
-/
import PluginArbiter.Engine

namespace PluginArbiter

namespace Engine

/-- One thing that happens to an engine. -/
inductive Step
  | operation (op : Operation)
  | poll (id : Nat)

/-- An engine after a step. -/
def step (e : Engine) : Step → Engine
  | .operation op => (e.apply op).2
  | .poll id => { e with hub := (e.hub.poll e.judge id).2 }

/-- An engine after some steps. -/
def after (e : Engine) (steps : List Step) : Engine := steps.foldl step e

@[simp] theorem after_nil (e : Engine) : e.after [] = e := rfl

/-- What happens later is added to what happened before. -/
theorem after_append (e : Engine) (before later : List Step) :
    e.after (before ++ later) = (e.after before).after later :=
  List.foldl_append

/-- One more step. -/
theorem after_concat (e : Engine) (steps : List Step) (s : Step) :
    e.after (steps ++ [s]) = (e.after steps).step s :=
  e.after_append steps [s]

end Engine

end PluginArbiter
