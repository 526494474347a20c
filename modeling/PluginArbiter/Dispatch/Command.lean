/-
# Commands

What the users of dispatchers do who leave it to the runtime when tasks are polled.  They make
dispatchers, call them, open the gate of the catalog, and from time to time let all tasks run until
none can go on.

Main statements:
* `obey_concat`: one more command.
-/
import PluginArbiter.Dispatch.Run

namespace PluginArbiter.Hub

/-- A command.  Letting all tasks run comes with the rule by which verdicts are given meanwhile. -/
inductive Command
  | addDispatcher (process : ProcessId) (handlers : Handlers)
  | call (place : Nat) (call : Call)
  | openGate
  | settle (judge : Judge)

namespace Command

/-- Whether a command is a call on the dispatcher at a place. -/
def isOn (place : Nat) : Command → Bool
  | .call p _ => p == place
  | _ => false

/-- The commands that are no calls on the dispatcher at a place. -/
def without (place : Nat) (commands : List Command) : List Command :=
  commands.filter fun c => !c.isOn place

/-- Whether a command submits to the dispatcher at a place. -/
def submitsTo (place : Nat) : Command → Bool
  | .call p (.submit _ _) => p == place
  | _ => false

end Command

/-- Carries out a command. -/
def perform (h : Hub) : Command → Event × Hub
  | .addDispatcher process handlers => h.act (.addDispatcher process handlers)
  | .call place call => h.act (.call place call)
  | .openGate => h.act .openGate
  | .settle judge => (.other, h.settle judge)

/-- Where commands lead. -/
def obey (h : Hub) (commands : List Command) : Hub :=
  commands.foldl (fun h c => (h.perform c).2) h

/-- What the calls on the dispatcher at a place are answered, one after the other. -/
def answersOn (place : Nat) (h : Hub) : List Command → List Event
  | [] => []
  | c :: rest =>
    if c.isOn place then (h.perform c).1 :: answersOn place (h.perform c).2 rest
    else answersOn place (h.perform c).2 rest

@[simp] theorem obey_nil (h : Hub) : h.obey [] = h := rfl

/-- One more command. -/
theorem obey_concat (h : Hub) (commands : List Command) (c : Command) :
    h.obey (commands ++ [c]) = ((h.obey commands).perform c).2 := by
  simp [obey]

end PluginArbiter.Hub
