/-
# Runs

What can happen to dispatchers at work, each thing as one step: calls by their users, the loss of a
receiver, the opening of the catalog's gate, and single polls of the tasks.  A run is a list of
such actions in any order, and its log says what each of them brought about.  Every poll comes with
the rule by which verdicts are given at that moment, for what the rule looks at may change between
two polls.

A call on a dispatcher that was dropped is allowed here, as on one that was shut down.

Main statements:
* `run_append`, `log_append`: a run goes on from where an earlier one stopped.
-/
import PluginArbiter.Dispatch.Hub

namespace PluginArbiter

namespace Hub

/-! ## 1. Actions and events -/

/-- What can be done to a dispatcher or to its sink. -/
inductive Call
  | submit (token : Token) (request : Request)
  | cancel (token : Token)
  | cancelFrame (frame : FrameId)
  | shut
  | drop
  | dropSink
  | closeReceiver

/-- One step of a run. -/
inductive Action
  | addDispatcher (process : ProcessId) (handlers : Handlers)
  | call (place : Nat) (call : Call)
  | openGate
  | poll (judge : Judge) (id : Nat)

/-- What a step brought about.  The caller of `submit` learns only whether it was accepted, that of
`cancel` only whether there was an entry, that of `cancelFrame` only how many rows there were. -/
inductive Event
  /-- Nothing that concerns a submission. -/
  | other
  | submitted (place : Nat) (result : Except DispatchError Submission)
  | cancelled (place : Nat) (token : Token) (entry : Option Entry)
  | frameCancelled (place : Nat) (rows : List Row)
  | shut (place : Nat) (rows : List Row)
  | polled (task : Task) (progress : Progress)

/-! ## 2. Steps -/

/-- Carries out a call on the dispatcher `d` at a place. -/
def serve (h : Hub) (place : Nat) (d : Dispatcher) : Call → Event × Hub
  | .submit token request =>
    (.submitted place (h.submit place d token request).1, (h.submit place d token request).2)
  | .cancel token => (.cancelled place token (h.cancel place d token).1, (h.cancel place d token).2)
  | .cancelFrame frame =>
    (.frameCancelled place (h.cancelFrame place d frame).1, (h.cancelFrame place d frame).2)
  | .shut => (.shut place (h.shut place d).1, (h.shut place d).2)
  | .drop => (.shut place (h.drop place d).1, (h.drop place d).2)
  | .dropSink => (.other, h.setDispatcher place d.dropSink)
  | .closeReceiver => (.other, h.setDispatcher place d.closeReceiver)

/-- Carries out an action.  A call on a dispatcher that does not exist, or a poll of a task that
has ended, changes nothing. -/
def act (h : Hub) : Action → Event × Hub
  | .addDispatcher process handlers => (.other, (h.addDispatcher process handlers).2)
  | .call place call =>
    match h.dispatchers[place]? with
    | none => (.other, h)
    | some d => h.serve place d call
  | .openGate => (.other, h.openGate)
  | .poll judge id =>
    match h.tasks.find? (·.id == id) with
    | none => (.other, h)
    | some t => (.polled t (h.pollTask judge t).1, (h.pollTask judge t).2)

/-! ## 3. Runs -/

/-- No dispatchers yet, over a catalog that nobody has asked. -/
def start (catalog : PluginSource) (cached gated : Bool) : Hub :=
  { supply := .ofSource catalog cached gated }

/-- Where a run leads. -/
def run (h : Hub) (actions : List Action) : Hub := actions.foldl (fun h a => (h.act a).2) h

/-- What the steps of a run bring about. -/
def log (h : Hub) : List Action → List Event
  | [] => []
  | a :: rest => (h.act a).1 :: log (h.act a).2 rest

@[simp] theorem run_nil (h : Hub) : h.run [] = h := rfl

@[simp] theorem log_nil (h : Hub) : h.log [] = [] := rfl

/-- A run goes on from where an earlier one stopped. -/
theorem run_append (h : Hub) (as bs : List Action) : h.run (as ++ bs) = (h.run as).run bs :=
  List.foldl_append

/-- The log of a run that goes on is the earlier log, continued. -/
theorem log_append (h : Hub) (as bs : List Action) :
    h.log (as ++ bs) = h.log as ++ (h.run as).log bs := by
  induction as generalizing h with
  | nil => rfl
  | cons a rest ih => exact congrArg ((h.act a).1 :: ·) (ih (h.act a).2)

/-- One more step. -/
theorem run_concat (h : Hub) (as : List Action) (a : Action) :
    h.run (as ++ [a]) = ((h.run as).act a).2 := run_append h as [a]

/-- One more event. -/
theorem log_concat (h : Hub) (as : List Action) (a : Action) :
    h.log (as ++ [a]) = h.log as ++ [((h.run as).act a).1] := log_append h as [a]

/-- Whether an action submits to the dispatcher at a place. -/
def Action.submitsTo (place : Nat) : Action → Bool
  | .call p (.submit _ _) => p == place
  | _ => false

/-- How often a run submits to the dispatcher at a place, whatever comes of it. -/
def submissionsTo (place : Nat) (actions : List Action) : Nat :=
  actions.countP (·.submitsTo place)

end Hub

end PluginArbiter
