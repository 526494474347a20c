/-
# Dispatchers at work

Several dispatchers share one catalog.  Every accepted submission has a task that asks for the
plugins, possibly waits, and then concludes the submission with a verdict.  A task only moves when
it is polled, and a poll is one step: nothing else happens meanwhile.

How tasks are polled is the runtime's affair.  What is assumed of tokio's single-threaded runtime is
that it polls one task at a time, first those that were spawned first, that it polls a task again
once what the task waits for has happened, and that a biased `select!` looks at its branches in the
order in which they are written.  Only `settle` relies on the order of the tasks; in a run any task
may be polled at any time.
-/
import PluginArbiter.Catalog.Supply
import PluginArbiter.Dispatch.Dispatcher

namespace PluginArbiter

/-! ## 1. State -/

/-- How far a task has come. -/
inductive Stage
  /-- The task asks for the plugins, or waits in line for its turn. -/
  | asking
  /-- The task has started the enumeration with this number and waits for its answer. -/
  | enumerating (number : Nat)
  deriving DecidableEq, Inhabited

/-- The task of an accepted submission; `owner` is the place of its dispatcher. -/
structure Task where
  id : Nat
  owner : Nat
  submission : Submission
  stage : Stage := .asking
  deriving DecidableEq, Inhabited

/-- Dispatchers that share a catalog, and the tasks that have not ended, in the order in which they
were submitted. -/
structure Hub where
  supply : Supply := {}
  dispatchers : List Dispatcher := []
  tasks : List Task := []
  nextTask : Nat := 0
  deriving Inhabited

/-- From a request and what the catalog answered to a verdict. -/
abbrev Judge := Request → CatalogAnswer → Verdict

namespace Hub

/-- Replaces the dispatcher at a place. -/
def setDispatcher (h : Hub) (place : Nat) (d : Dispatcher) : Hub :=
  { h with dispatchers := h.dispatchers.set place d }

/-- Whether the submission of a task was cancelled. -/
def isCancelled (h : Hub) (t : Task) : Bool :=
  match h.dispatchers[t.owner]? with
  | none => false
  | some d => d.cancels.isCancelled t.submission.cancel

/-! ## 2. Operations -/

/-- Makes a dispatcher and gives its place. -/
def addDispatcher (h : Hub) (process : ProcessId) (handlers : Handlers) : Nat × Hub :=
  (h.dispatchers.length, { h with dispatchers := h.dispatchers ++ [{ process, handlers }] })

/-- Submits a request to the dispatcher `d` at a place.  What is accepted gets a task. -/
def submit (h : Hub) (place : Nat) (d : Dispatcher) (token : Token) (request : Request) :
    Except DispatchError Submission × Hub :=
  match d.accept token request with
  | (.error e, d) => (.error e, h.setDispatcher place d)
  | (.ok s, d) =>
    (.ok s,
      { h.setDispatcher place d with
        tasks := h.tasks ++ [{ id := h.nextTask, owner := place, submission := s }]
        nextTask := h.nextTask + 1 })

/-- Cancels a submission and gives its entry, if it was open. -/
def cancel (h : Hub) (place : Nat) (d : Dispatcher) (token : Token) : Option Entry × Hub :=
  ((d.cancel token).1, h.setDispatcher place (d.cancel token).2)

/-- Cancels the submissions of a frame and gives their rows. -/
def cancelFrame (h : Hub) (place : Nat) (d : Dispatcher) (frame : FrameId) : List Row × Hub :=
  ((d.cancelFrame frame).1, h.setDispatcher place (d.cancelFrame frame).2)

/-- Shuts a dispatcher down and gives the rows that were cleared. -/
def shut (h : Hub) (place : Nat) (d : Dispatcher) : List Row × Hub :=
  (d.shut.1, h.setDispatcher place d.shut.2)

/-- Drops a dispatcher, which shuts it down. -/
def drop (h : Hub) (place : Nat) (d : Dispatcher) : List Row × Hub :=
  h.shut place { d with isDropped := true }

/-- Opens the gate of the catalog. -/
def openGate (h : Hub) : Hub := { h with supply := h.supply.openGate }

/-! ## 3. Polling -/

/-- What a poll did. -/
inductive Progress
  /-- The task cannot go on, or has ended before. -/
  | idle
  /-- The task has started an enumeration, whose answer is held back. -/
  | started
  /-- The task was cancelled and has ended. -/
  | withdrawn
  /-- The task has ended with a verdict. -/
  | concluded (how : Dispatcher.Conclusion) (verdict : Verdict)
  deriving DecidableEq, Inhabited

/-- Takes a task out. -/
def removeTask (h : Hub) (id : Nat) : Hub := { h with tasks := h.tasks.filter (·.id ≠ id) }

/-- Notes how far a task has come. -/
def setStage (h : Hub) (id : Nat) (stage : Stage) : Hub :=
  { h with tasks := h.tasks.map fun t => if t.id = id then { t with stage } else t }

/-- Ends a task with the verdict on what the catalog answered. -/
def conclude (judge : Judge) (h : Hub) (t : Task) (answer : CatalogAnswer) : Progress × Hub :=
  let h := h.removeTask t.id
  let verdict := judge t.submission.request answer
  match h.dispatchers[t.owner]? with
  | none => (.concluded .stale verdict, h)
  | some d =>
    let (how, d) := d.conclude t.submission verdict
    (.concluded how verdict, h.setDispatcher t.owner d)

/-- Ends a task that was cancelled.  It gives up its place at the catalog. -/
def withdraw (h : Hub) (t : Task) : Hub :=
  let h := { h with supply := h.supply.leave t.id }.removeTask t.id
  match h.dispatchers[t.owner]? with
  | none => h
  | some d => h.setDispatcher t.owner (d.withdraw t.submission)

/-- Ends a task whose own enumeration has ended. -/
def finish (judge : Judge) (h : Hub) (t : Task) (number : Nat) : Progress × Hub :=
  let answer := h.supply.catalog.answerAt number
  conclude judge { h with supply := h.supply.finish answer } t answer

/-- Polls a task.  That it was cancelled is noticed before anything else. -/
def pollTask (judge : Judge) (h : Hub) (t : Task) : Progress × Hub :=
  if h.isCancelled t then (.withdrawn, h.withdraw t)
  else
    match t.stage with
    | .enumerating number => if h.supply.gateOpen then finish judge h t number else (.idle, h)
    | .asking =>
      match h.supply.ask t.id with
      | (.stored plugins, supply) => conclude judge { h with supply } t (.ok plugins)
      | (.wait, supply) => (.idle, { h with supply })
      | (.turn, supply) =>
        let (number, supply) := supply.start
        let h := { h with supply }
        if supply.gateOpen then finish judge h t number
        else (.started, h.setStage t.id (.enumerating number))

/-- Polls the task with a given number. -/
def poll (judge : Judge) (h : Hub) (id : Nat) : Progress × Hub :=
  match h.tasks.find? (·.id == id) with
  | none => (.idle, h)
  | some t => pollTask judge h t

/-! ## 4. Running -/

/-- Polls every task once, in the order of submission. -/
def round (judge : Judge) (h : Hub) : Hub :=
  (h.tasks.map (·.id)).foldl (fun h id => (h.poll judge id).2) h

/-- How much the tasks still have to do. -/
def work (h : Hub) : Nat :=
  h.tasks.length + h.tasks.countP fun t => t.stage = .asking

/-- Lets all tasks run until none can go on, as the runtime does when it is left to itself: in rounds,
by order of submission, as long as somebody gets on. -/
def settle (judge : Judge) (h : Hub) : Hub :=
  let next := h.round judge
  if next.work < h.work then settle judge next else next
termination_by h.work

/-- Takes what the sinks were told since the last time, in the order of the dispatchers. -/
def collect (h : Hub) : List (List (Token × Verdict)) × Hub :=
  (h.dispatchers.map (·.received),
    { h with dispatchers := h.dispatchers.map fun d => { d with received := [] } })

/-- Asks for the plugins outside any task, under the number of no task.  Where a task has the turn,
the call lines up behind those who wait already and the tasks run; those that come to wait behind
the call are left waiting.  While callers are held back at the gate the call would not return, and
this says nothing about it. -/
def fetch (judge : Judge) (h : Hub) : CatalogAnswer × Hub :=
  let h :=
    match h.supply.ask h.nextTask with
    | (.wait, supply) => settle judge { h with supply }
    | (_, _) => h
  let (answer, supply) := h.supply.fetch
  (answer, { h with supply })

end Hub

end PluginArbiter
