/-
# Dispatchers

A dispatcher accepts the requests of one process, each under a token, and hands the verdicts to a
sink.  It keeps a table of the submissions that are still open.  A token may be used again once its
submission has ended, so a submission also has a number, by which its row is told apart from later
rows under the same token.  Numbers are 64 bits wide and start over when they run out.

Every submission can be cancelled by itself, and all of them with the root of the dispatcher.

Main statements:
* `shut_of_isShut`: to shut down twice is to shut down once;
* `isShut_shut`: who shuts down is shut down.
-/
import PluginArbiter.Dispatch.Cancellation
import PluginArbiter.Handlers
import PluginArbiter.Request
import PluginArbiter.Token
import PluginArbiter.Verdict

namespace PluginArbiter

/-! ## 1. Errors -/

/-- Why a dispatcher refuses. -/
inductive DispatchError
  | duplicateToken (token : Token)
  | processMismatch (expected actual : ProcessId)
  | shutDown
  | noRuntime
  deriving DecidableEq, Inhabited

/-- The wording of a refusal. -/
def DispatchError.message : DispatchError → String
  | duplicateToken token => "关联令牌重复: " ++ token.text
  | processMismatch expected actual =>
    "请求进程 " ++ actual.display ++ " 与分发器进程 " ++ expected.display ++ " 不一致"
  | shutDown => "分发器已关闭"
  | noRuntime => "没有可用的异步运行时"

/-! ## 2. State -/

/-- What became of the receiver of the verdicts. -/
inductive Sink
  /-- Verdicts are received. -/
  | listening
  /-- The sink is there, but what it is told is lost. -/
  | deaf
  /-- The sink is gone. -/
  | gone
  deriving DecidableEq, Inhabited

/-- What the table holds on an open submission; `cancel` is its place among the children of the
dispatcher's root. -/
structure Entry where
  seq : UInt64
  frame : FrameId
  cancel : Nat
  deriving DecidableEq, Inhabited

/-- An entry under its token. -/
abbrev Row := Token × Entry

/-- An accepted submission, as the task that works on it knows it. -/
structure Submission where
  token : Token
  seq : UInt64
  cancel : Nat
  request : Request
  deriving DecidableEq, Inhabited

/-- The row in which a submission is entered. -/
def Submission.row (s : Submission) : Row :=
  (s.token, { seq := s.seq, frame := s.request.frame, cancel := s.cancel })

/-- A dispatcher.  `handlers` are the built-in handlers as they were when it was made, and
`received` what the sink was told and has not been collected yet. -/
structure Dispatcher where
  process : ProcessId
  handlers : Handlers := {}
  nextSeq : UInt64 := 0
  pending : List Row := []
  cancels : Cancellation := {}
  isDropped : Bool := false
  sink : Sink := .listening
  received : List (Token × Verdict) := []
  deriving Inhabited

namespace Dispatcher

/-- A dispatcher is shut down once its root is cancelled. -/
def isShut (d : Dispatcher) : Bool := d.cancels.rootCancelled

/-- The number of open submissions. -/
def pendingCount (d : Dispatcher) : Nat := d.pending.length

/-- The table without a token. -/
def without (table : List Row) (token : Token) : List Row :=
  table.filter fun row => row.1 ≠ token

/-! ## 3. Submitting and cancelling -/

/-- Uses up the next number, and a child of the root with it. -/
def spend (d : Dispatcher) : Dispatcher :=
  { d with nextSeq := d.nextSeq + 1, cancels := d.cancels.child.2 }

/-- Accepts a submission or refuses it.  A token that is in use costs a number all the same. -/
def accept (d : Dispatcher) (token : Token) (request : Request) :
    Except DispatchError Submission × Dispatcher :=
  if d.isShut then (.error .shutDown, d)
  else if request.process ≠ d.process then
    (.error (.processMismatch d.process request.process), d)
  else
    if (d.pending.lookup token).isSome then (.error (.duplicateToken token), d.spend)
    else
      let s : Submission := { token, seq := d.nextSeq, cancel := d.cancels.child.1, request }
      (.ok s, { d.spend with pending := d.pending ++ [s.row] })

/-- Cancels the submission under a token and gives its entry. -/
def cancel (d : Dispatcher) (token : Token) : Option Entry × Dispatcher :=
  match d.pending.lookup token with
  | none => (none, d)
  | some entry =>
    (some entry,
      { d with
        pending := without d.pending token
        cancels := d.cancels.cancelAll [entry.cancel] })

/-- Cancels all submissions of a frame and gives their rows. -/
def cancelFrame (d : Dispatcher) (frame : FrameId) : List Row × Dispatcher :=
  let mine := d.pending.filter fun row => row.2.frame = frame
  (mine,
    { d with
      pending := d.pending.filter fun row => row.2.frame ≠ frame
      cancels := d.cancels.cancelAll (mine.map (·.2.cancel)) })

/-- Shuts down and gives the rows that were cleared. -/
def shut (d : Dispatcher) : List Row × Dispatcher :=
  if d.isShut then ([], d)
  else (d.pending, { d with pending := [], cancels := d.cancels.cancelRoot })

/-- The sink is dropped. -/
def dropSink (d : Dispatcher) : Dispatcher := { d with sink := .gone }

/-- The receiving end of the sink is closed. -/
def closeReceiver (d : Dispatcher) : Dispatcher :=
  { d with sink := if d.sink = .gone then .gone else .deaf }

/-! ## 4. Concluding -/

/-- How a submission was concluded. -/
inductive Conclusion
  /-- The submission was no longer open, and nothing happens. -/
  | stale
  /-- The sink was told. -/
  | told
  /-- There was no sink to tell. -/
  | unheard
  deriving DecidableEq, Inhabited

/-- Takes the row of a submission out of the table, and says whether it was there.  A row that
another submission has under the same token stays. -/
def release (d : Dispatcher) (s : Submission) : Bool × Dispatcher :=
  match d.pending.lookup s.token with
  | none => (false, d)
  | some entry =>
    if entry.seq = s.seq then (true, { d with pending := without d.pending s.token })
    else (false, d)

/-- Hands a verdict to the sink. -/
def tell (d : Dispatcher) (token : Token) (verdict : Verdict) : Conclusion × Dispatcher :=
  match d.sink with
  | .listening => (.told, { d with received := d.received ++ [(token, verdict)] })
  | .deaf => (.told, d)
  | .gone => (.unheard, d)

/-- Concludes a submission with a verdict.  Only who has taken the row out tells the sink, and only
if the submission was not cancelled meanwhile. -/
def conclude (d : Dispatcher) (s : Submission) (verdict : Verdict) : Conclusion × Dispatcher :=
  let (wasOpen, d) := d.release s
  if !wasOpen || d.cancels.isCancelled s.cancel then (.stale, d) else d.tell s.token verdict

/-- Gives up a submission that was cancelled. -/
def withdraw (d : Dispatcher) (s : Submission) : Dispatcher := (d.release s).2

/-! ## 5. Laws -/

/-- To shut down twice is to shut down once. -/
theorem shut_of_isShut {d : Dispatcher} (h : d.isShut = true) : d.shut = ([], d) := by
  rw [shut, if_pos h]

/-- Who shuts down is shut down. -/
theorem isShut_shut (d : Dispatcher) : d.shut.2.isShut = true := by
  unfold shut
  split
  · assumption
  · rfl

end Dispatcher

end PluginArbiter
