/-
# Who is shut down stays shut down

A dispatcher that was shut down, or dropped, has an empty table and a cancelled root.  From then on
it is closed for good: it refuses every submission, there is nothing left that could be cancelled,
and its sink is told nothing more.

The tasks of what it had accepted may still be there, in any stage: not polled yet, in line at the
catalog, inside an enumeration, or with the answer ready to be picked up.  They are no danger.  With
the root every child is cancelled, those included that belong to tasks nobody has polled, and a task
notices this before it looks at anything else.  So the next poll of such a task withdraws it, and it
finds no row to take with it.

Nothing of this counts submissions: it holds however many numbers have been given out.

Main statements:
* `Move.closed`: no step opens a closed dispatcher, or ends a submission there;
* `Course.pending_eq_nil`: who is shut down has no row;
* `run_shut_absorbs`: what a closed dispatcher answers, at every later point of every run.
-/
import PluginArbiter.Proofs.Dispatch.TokenReuse

namespace PluginArbiter

namespace Dispatcher

/-- The root is cancelled and no row is left. -/
structure Closed (d : Dispatcher) : Prop where
  isShut : d.isShut = true
  pending : d.pending = []

namespace Closed

variable {d d' : Dispatcher}

/-! ## 1. What a closed dispatcher answers -/

theorem accept (h : d.Closed) (token : Token) (request : Request) :
    d.accept token request = (.error .shutDown, d) := by
  rw [Dispatcher.accept, if_pos h.isShut]

theorem lookup (h : d.Closed) (token : Token) : d.pending.lookup token = none := by
  rw [h.pending]
  rfl

theorem cancel (h : d.Closed) (token : Token) : d.cancel token = (none, d) :=
  cancel_eq_of_lookup (h.lookup token)

theorem cancelFrame (h : d.Closed) (frame : FrameId) : d.cancelFrame frame = ([], d) := by
  obtain ⟨-, hpending⟩ := h
  cases d
  subst hpending
  rfl

theorem shut (h : d.Closed) : d.shut = ([], d) := shut_of_isShut h.isShut

/-- There is no row to take out. -/
theorem release (h : d.Closed) (s : Submission) : d.release s = (false, d) := by
  rw [Dispatcher.release, h.lookup s.token]

/-- Every submission that has a task was cancelled. -/
theorem isCancelled (h : d.Closed) (child : Nat) : d.cancels.isCancelled child = true :=
  Cancellation.isCancelled_of_root h.isShut child

theorem congr (h : d.Closed) (same : SameBooks d d') : d'.Closed :=
  ⟨by rw [Dispatcher.isShut, same.cancels]; exact h.isShut, same.pending.trans h.pending⟩

end Closed

end Dispatcher

namespace Hub

open Dispatcher

variable {d d' : Dispatcher} {jobs jobs' : List Submission}
  {as : List (Except DispatchError Submission)} {es : List (Fate × Ticket)}

/-! ## 2. Moves -/

/-- **A closed dispatcher stays closed**, and no submission ends there. -/
theorem Move.closed (m : Move d jobs as es d' jobs') (h : d.Closed) : d'.Closed ∧ es = [] := by
  cases m with
  | rest same => exact ⟨h.congr same, rfl⟩
  | submit token request =>
    rw [h.accept]
    exact ⟨h, rfl⟩
  | cancel token =>
    rw [h.cancel]
    exact ⟨h, rfl⟩
  | cancelFrame frame =>
    rw [h.cancelFrame]
    exact ⟨h, rfl⟩
  | shut same =>
    rw [(h.congr same).shut]
    exact ⟨h.congr same, rfl⟩
  | conclude live verdict => exact absurd ((h.isCancelled _).symm.trans live) (by simp)
  | withdraw cancelled =>
    rw [Dispatcher.withdraw, h.release]
    exact ⟨h, rfl⟩

/-- **Whoever is shut down in a step has no row left** after it. -/
theorem Move.closes (m : Move d jobs as es d' jobs') (hopen : d.isShut = false)
    (hshut : d'.isShut = true) : d'.pending = [] := by
  -- only the one move that shuts down changes the root
  have hkeep : d'.isShut = d.isShut → d'.pending = [] := fun he =>
    absurd (hshut.symm.trans (he.trans hopen)) (by simp)
  cases m with
  | rest same => exact hkeep (by rw [isShut, isShut, same.cancels])
  | submit token request =>
    refine hkeep ?_
    rcases d.accept_cases token request with ⟨e, he⟩ | he | ⟨-, -, he⟩ <;> rw [he] <;> rfl
  | cancel token =>
    refine hkeep ?_
    unfold Dispatcher.cancel
    split <;> rfl
  | cancelFrame frame => exact hkeep rfl
  | shut same =>
    rename_i d₁
    have hopen₁ : ¬ d₁.isShut = true := by
      rw [isShut, same.cancels]
      simpa [isShut] using hopen
    rw [Dispatcher.shut, if_neg hopen₁]
  | conclude live verdict => exact hkeep (by rw [isShut, isShut, conclude_cancels])
  | withdraw cancelled =>
    exact hkeep (by rw [isShut, isShut, Dispatcher.withdraw, release_cancels])

/-- **Who is shut down has no row**, at any point of a course. -/
theorem Course.pending_eq_nil (c : Course d jobs as es) (hshut : d.isShut = true) :
    d.pending = [] := by
  induction c with
  | made process handlers => rfl
  | @move d₁ _ _ _ _ _ _ _ course step ih =>
    cases hopen : d₁.isShut with
    | false => exact step.closes hopen hshut
    | true => exact (step.closed ⟨hopen, ih hopen⟩).1.pending

/-! ## 3. Steps and runs -/

variable {h : Hub} {place : Nat}

/-- What ends nothing at a place tells the sink there nothing. -/
theorem delivered_of_ended {e : Event} (hended : e.ended place = []) : e.delivered place = [] := by
  cases e with
  | polled t progress =>
    cases progress with
    | concluded how verdict =>
      rw [delivered_concluded, if_neg]
      rintro ⟨rfl, howner⟩
      simp [Event.ended, Conclusion.fate, howner] at hended
    | _ => rfl
  | _ => rfl

theorem setDispatcher_self (hd : h.dispatchers[place]? = some d) : h.setDispatcher place d = h := by
  obtain ⟨hlt, rfl⟩ := List.getElem?_eq_some_iff.mp hd
  rw [setDispatcher, List.set_getElem_self]

/-- What is asked of a closed dispatcher, and what it answers. -/
inductive Refusal (place : Nat) : Call → Event → Prop
  | submit (token : Token) (request : Request) :
    Refusal place (.submit token request) (.submitted place (.error .shutDown))
  | cancel (token : Token) : Refusal place (.cancel token) (.cancelled place token none)
  | cancelFrame (frame : FrameId) : Refusal place (.cancelFrame frame) (.frameCancelled place [])
  | shut : Refusal place .shut (.shut place [])

/-- **A closed dispatcher does nothing that it is asked to do**, and nothing changes. -/
theorem act_closed (hd : h.dispatchers[place]? = some d) (hc : d.Closed) {call : Call} {e : Event}
    (hr : Refusal place call e) : h.act (.call place call) = (e, h) := by
  simp only [act, hd]
  cases hr with
  | submit token request => simp only [serve, Hub.submit, hc.accept, setDispatcher_self hd]
  | cancel token => simp only [serve, Hub.cancel, hc.cancel, setDispatcher_self hd]
  | cancelFrame frame => simp only [serve, Hub.cancelFrame, hc.cancelFrame, setDispatcher_self hd]
  | shut => simp only [serve, Hub.shut, hc.shut, setDispatcher_self hd]

/-- **A run from a closed dispatcher** leaves it closed and tells its sink nothing. -/
theorem run_closed (hs : h.Sound) (hd : h.dispatchers[place]? = some d) (hc : d.Closed)
    (later : List Action) :
    (∃ d', (h.run later).dispatchers[place]? = some d' ∧ d'.Closed ∧ d'.received = d.received) ∧
      ∀ e ∈ h.log later, e.delivered place = [] := by
  induction later generalizing h d with
  | nil => exact ⟨⟨d, hd, hc, rfl⟩, by simp⟩
  | cons a rest ih =>
    obtain ⟨d', hd', hmove⟩ := act_move hs hd a
    obtain ⟨hc', hended⟩ := hmove.closed hc
    have hsilent : (h.act a).1.delivered place = [] := delivered_of_ended hended
    have hreceived : d'.received = d.received := by
      obtain ⟨d'', hd'', heq⟩ := received_act hd a
      rw [Option.some.inj (hd'.symm.trans hd''), heq, hsilent, ite_self, List.append_nil]
    obtain ⟨⟨d'', hd'', hc'', hkept⟩, hlog⟩ := ih (hs.act a) hd' hc'
    refine ⟨⟨d'', hd'', hc'', hkept.trans hreceived⟩, fun e he => ?_⟩
    rcases List.mem_cons.mp he with rfl | hin
    · exact hsilent
    · exact hlog e hin

/-- Who is shut down or dropped is closed. -/
theorem served_closed (hempty : d.isShut = true → d.pending = []) {closing : Call}
    (hclosing : closing = .shut ∨ closing = .drop) : (served d closing).Closed := by
  have hshut : ∀ d : Dispatcher, (d.isShut = true → d.pending = []) → d.shut.2.Closed := by
    intro d hempty
    refine ⟨d.isShut_shut, ?_⟩
    unfold Dispatcher.shut
    split
    · rename_i hshut
      exact hempty hshut
    · rfl
  rcases hclosing with rfl | rfl
  · exact hshut d hempty
  · exact hshut { d with isDropped := true } hempty

/-- **Shutting down is for good.**  Take any point of any run and any dispatcher that is there, with
whatever submissions open and their tasks at whatever stage, and shut it down or drop it; then let
anything follow.  At every later point it has no open submission, it answers every submission with
the refusal of one that is shut down, whatever the token and the process, it finds nothing to cancel
under any token and in any frame, and neither these calls nor shutting it down again changes
anything.  Its sink is told nothing any more, by no step, and holds what it held when the dispatcher
was shut down. -/
theorem run_shut_absorbs (catalog : PluginSource) (cached gated : Bool) {place : Nat}
    {before later : List Action} {d : Dispatcher}
    (hd : ((start catalog cached gated).run before).dispatchers[place]? = some d) {closing : Call}
    (hclosing : closing = .shut ∨ closing = .drop) :
    let closed := (start catalog cached gated).run (before ++ [.call place closing])
    let h := closed.run later
    (∃ d', h.dispatchers[place]? = some d' ∧ d'.pendingCount = 0 ∧ d'.received = d.received) ∧
      (∀ token request, h.act (.call place (.submit token request))
        = (.submitted place (.error .shutDown), h)) ∧
      (∀ token, h.act (.call place (.cancel token)) = (.cancelled place token none, h)) ∧
      (∀ frame, h.act (.call place (.cancelFrame frame)) = (.frameCancelled place [], h)) ∧
      h.act (.call place .shut) = (.shut place [], h) ∧
      ∀ e ∈ closed.log later, e.delivered place = [] := by
  intro closed h
  have hclosed : closed.dispatchers[place]? = some (served d closing) := by
    simp only [closed, run_concat, act, hd]
    rw [getElem?_serve hd, if_pos rfl]
  have hempty := (run_course catalog cached gated hd).pending_eq_nil
  obtain ⟨⟨d', hd', hc', hreceived⟩, hlog⟩ :=
    run_closed (sound_run catalog cached gated _) hclosed (served_closed hempty hclosing) later
  refine ⟨⟨d', hd', ?_, hreceived.trans (received_served d closing)⟩, fun token request => ?_,
    fun token => ?_, fun frame => ?_, ?_, hlog⟩
  · rw [pendingCount, hc'.pending]
    rfl
  · exact act_closed hd' hc' (.submit token request)
  · exact act_closed hd' hc' (.cancel token)
  · exact act_closed hd' hc' (.cancelFrame frame)
  · exact act_closed hd' hc' .shut

/-- Two requests wait for the catalog, one of them inside its enumeration, and a third was not
polled yet when the dispatcher is dropped.  Then the gate opens and all three are polled. -/
theorem run_shut_absorbs_waiting :
    let request : Request := { (default : Request) with mimeType := "a" }
    let before : List Action :=
      [.addDispatcher ⟨0⟩ {}, .call 0 (.submit (.ofNat 1) request),
        .call 0 (.submit (.ofNat 2) request), .poll echo 0, .poll echo 1,
        .call 0 (.submit (.ofNat 3) request)]
    let later : List Action := [.openGate, .poll echo 0, .poll echo 1, .poll echo 2]
    let closed := (start {} true true).run (before ++ [.call 0 .drop])
    closed.tasks.map (·.stage) = [.enumerating 0, .asking, .asking] ∧
      (closed.run later).tasks = [] ∧
      (∀ e ∈ closed.log later, e.delivered 0 = []) ∧
      (closed.run later).act (.call 0 (.submit (.ofNat 1) request))
        = (.submitted 0 (.error .shutDown), closed.run later) := by
  intro request before later closed
  obtain ⟨-, hsubmit, -, -, -, hlog⟩ :=
    @run_shut_absorbs {} true true 0 before later _ rfl .drop (Or.inr rfl)
  exact ⟨by decide, by decide, hlog, hsubmit _ request⟩

end Hub

end PluginArbiter
