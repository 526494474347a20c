/-
# Rejected submissions

Whoever submits learns at once whether the submission is accepted, and if not, why.  The answer
depends on three things, looked at in this order: whether the dispatcher was shut down, whether it
serves the process that asks, and whether the token is in use.  All three can be read off what
happened before (`answerBy`), without numbers, rows or tasks: a token is in use if some submission
was accepted under it that has met no fate yet.

A submission that is rejected leaves no trace.  This is not because it changes nothing: where the
token is in use a number and a child of the root are used up, and every submission after it has
other numbers than it would have had.  But the outline stays what it was (`outline_of_rejected`), and
from then on the two runs, with the rejected submission and without it, are runs of one outline.

Main statements:
* `isShutAt_run`: who is shut down was shut down by a call;
* `Course.lookup_eq`: a token has a row as long as its submission has met no fate;
* `run_rejects_unseen`: every answer is the one that the log calls for, and a rejected submission is
  not seen by anybody, however the run goes on.
-/
import PluginArbiter.Proofs.Dispatch.Outline

namespace PluginArbiter

namespace Hub

open Dispatcher

/-! ## 1. The answer by the log -/

/-- Whether a step shut the dispatcher at a place down, or dropped it. -/
def Event.shuts (place : Nat) : Event → Bool
  | .shut p _ => p == place
  | _ => false

/-- Whether an accepted submission to a place under a token has met no fate yet. -/
def isUnsettled (place : Nat) (token : Token) (log : List Event) : Bool :=
  (opened (answersTo place log)).any fun s =>
    s.token = token && (fatesOf (endedAt place log) s.ticket).isEmpty

/-- The answer to who submits to the dispatcher at a place, as it should be after a log. -/
def answerBy (place : Nat) (process : ProcessId) (log : List Event) (token : Token)
    (request : Request) : Except DispatchError Unit :=
  if log.any (·.shuts place) then .error .shutDown
  else if request.process ≠ process then .error (.processMismatch process request.process)
  else if isUnsettled place token log then .error (.duplicateToken token)
  else .ok ()

/-! ## 2. Who is shut down -/

variable {h : Hub} {place : Nat} {d : Dispatcher}

/-- Whether there is a dispatcher at a place that is shut down. -/
def isShutAt (h : Hub) (place : Nat) : Bool := h.dispatchers[place]?.any Dispatcher.isShut

theorem isShutAt_eq (hd : h.dispatchers[place]? = some d) : h.isShutAt place = d.isShut := by
  rw [isShutAt, hd]
  rfl

theorem isShutAt_setDispatcher {p : Nat} (hd : h.dispatchers[p]? = some d) (d' : Dispatcher) :
    (h.setDispatcher p d').isShutAt place = if p = place then d'.isShut else h.isShutAt place := by
  obtain ⟨hlt, -⟩ := List.getElem?_eq_some_iff.mp hd
  simp only [isShutAt, setDispatcher, List.getElem?_set, if_pos hlt]
  split <;> rfl

/-- Nobody is shut down where nothing is cancelled. -/
theorem isShutAt_of_cancels {p : Nat} (hd : h.dispatchers[p]? = some d) {d' : Dispatcher}
    (hkeep : d'.cancels = d.cancels) :
    (h.setDispatcher p d').isShutAt place = h.isShutAt place := by
  rw [isShutAt_setDispatcher hd]
  split
  · rename_i he
    subst he
    rw [isShutAt_eq hd, isShut, hkeep, isShut]
  · rfl

/-- A poll shuts nobody down. -/
theorem isShutAt_pollTask (judge : Judge) (h : Hub) (t : Task) :
    (h.pollTask judge t).2.isShutAt place = h.isShutAt place := by
  have hp := pollTask_outcome judge h t
  generalize h.pollTask judge t = outcome at hp ⊢
  cases hp with
  | withdrawn cancelled =>
    simp only [withdraw]
    split
    · rfl
    · rename_i hd
      exact isShutAt_of_cancels hd (release_cancels _ _)
  | concluded live supply answer =>
    simp only [conclude]
    split
    · rfl
    · rename_i hd
      exact isShutAt_of_cancels hd (conclude_cancels _ _ _)
  | goesOn progress rests h' dispatchers keys nextTask =>
    change h'.isShutAt place = h.isShutAt place
    rw [isShutAt, dispatchers, isShutAt]

/-- A call shuts its dispatcher down if it is made for that. -/
theorem isShut_served (h : Hub) (place : Nat) (d : Dispatcher) (call : Call) :
    (served d call).isShut = (d.isShut || (h.serve place d call).1.shuts place) := by
  cases call with
  | submit token request =>
    simp only [served, serve, Event.shuts, Bool.or_false]
    rcases d.accept_cases token request with ⟨e, he⟩ | he | ⟨-, -, he⟩ <;> rw [he] <;> rfl
  | cancel token =>
    simp only [served, serve, Event.shuts, Bool.or_false, Dispatcher.cancel]
    split <;> rfl
  | cancelFrame frame => exact (Bool.or_false _).symm
  | shut => simp only [served, serve, Event.shuts, isShut_shut, beq_self_eq_true, Bool.or_true]
  | drop => simp only [served, serve, Event.shuts, isShut_shut, beq_self_eq_true, Bool.or_true]
  | dropSink => exact (Bool.or_false _).symm
  | closeReceiver => exact (Bool.or_false _).symm

/-- A call on one dispatcher shuts no other one down. -/
theorem shuts_serve_of_ne {p : Nat} (hne : p ≠ place) (h : Hub) (d : Dispatcher) (call : Call) :
    (h.serve p d call).1.shuts place = false := by
  cases call <;> simp [serve, Event.shuts, hne]

theorem isShutAt_act (h : Hub) (a : Action) :
    (h.act a).2.isShutAt place = (h.isShutAt place || (h.act a).1.shuts place) := by
  cases a with
  | addDispatcher process handlers =>
    simp only [act, addDispatcher, isShutAt, Event.shuts, Bool.or_false]
    rcases Nat.lt_or_ge place h.dispatchers.length with hlt | hge
    · rw [List.getElem?_append_left hlt]
    · rw [List.getElem?_append_right hge, List.getElem?_eq_none hge, List.getElem?_singleton]
      split <;> rfl
  | call p call =>
    simp only [act]
    cases hd : h.dispatchers[p]? with
    | none => exact (Bool.or_false _).symm
    | some d =>
      rw [serve_eq]
      change (h.setDispatcher p (served d call)).isShutAt place = _
      rw [isShutAt_setDispatcher hd]
      split
      · rename_i he
        subst he
        rw [isShut_served h p d call, isShutAt_eq hd]
      · rename_i hne
        rw [shuts_serve_of_ne hne, Bool.or_false]
  | openGate => exact (Bool.or_false _).symm
  | poll judge id =>
    simp only [act]
    cases h.tasks.find? (·.id == id) with
    | none => exact (Bool.or_false _).symm
    | some t => exact (isShutAt_pollTask judge h t).trans (Bool.or_false _).symm

/-- **Who is shut down was shut down by a call.** -/
theorem isShutAt_run (catalog : PluginSource) (cached gated : Bool) (place : Nat)
    (actions : List Action) :
    ((start catalog cached gated).run actions).isShutAt place
      = ((start catalog cached gated).log actions).any (·.shuts place) := by
  induction actions using List.reverseRecOn with
  | nil => rfl
  | append_singleton as a ih =>
    rw [run_concat, log_concat, isShutAt_act, ih, List.any_append, List.any_cons, List.any_nil,
      Bool.or_false]

/-! ## 3. Which tokens are in use -/

/-- **A token has a row as long as its submission has met no fate.** -/
theorem Course.lookup_eq {jobs : List Submission} {log : List Event}
    (c : Course d jobs (answersTo place log) (endedAt place log))
    (few : (answersTo place log).length < UInt64.size) (token : Token) :
    (d.pending.lookup token).isSome = isUnsettled place token log := by
  have hm := c.matched few
  rw [Bool.eq_iff_iff, isUnsettled, List.any_eq_true]
  constructor
  · intro hrow
    obtain ⟨entry, hentry⟩ := Option.isSome_iff_exists.mp hrow
    obtain ⟨s, hs, he⟩ := hm.exists_of_mem (mem_of_lookup hentry)
    have htoken : s.token = token := congrArg Prod.fst he
    have hopened : s ∈ opened (answersTo place log) :=
      (List.mem_filter.mp (List.mem_of_getLast? (c.latest few hs))).1
    have hunsettled : fatesOf (endedAt place log) s.ticket = [] := by
      rcases c.one_fate few hopened with ⟨-, hnone⟩ | ⟨hgone, -⟩
      · exact hnone
      · exact absurd (List.mem_map_of_mem (hm.row_mem hs)) hgone
    exact ⟨s, hopened, by simp [htoken, hunsettled]⟩
  · rintro ⟨s, hs, hunsettled⟩
    obtain ⟨htoken, hnone⟩ : s.token = token ∧ fatesOf (endedAt place log) s.ticket = [] := by
      simpa using hunsettled
    rcases c.one_fate few hs with ⟨hopen, -⟩ | ⟨-, f, hf⟩
    · obtain ⟨row, hrow, he⟩ := List.mem_map.mp hopen
      have hrowtoken : row.1 = token := (congrArg Ticket.token he).trans htoken
      rw [← hrowtoken, lookup_eq_some_of_mem hm.tokens hrow]
      rfl
    · rw [hnone] at hf
      exact absurd hf (by simp)

/-! ## 4. Rejections -/

/-- A submission that is rejected leaves the outline as it is. -/
theorem outline_of_rejected {o : Outline} {f : Face} {token : Token} {request : Request}
    {e : DispatchError}
    (hrejected : (o.serve place f (.submit token request)).1 = .submitted place (.error e)) :
    (o.serve place f (.submit token request)).2 = o := by
  revert hrejected
  simp only [Outline.serve]
  split
  · exact fun _ => rfl
  · split
    · exact fun _ => rfl
    · split
      · exact fun _ => rfl
      · intro hrejected
        simp at hrejected

/-- Where outline and log agree on who is shut down and which token is in use, the outline gives the
answer that the log calls for. -/
theorem serve_answerBy {o : Outline} {f : Face} {token : Token} {log : List Event}
    (hshut : f.isShut = log.any (·.shuts place))
    (hused : (o.openAt place).any (·.token = token) = isUnsettled place token log)
    (request : Request) :
    (o.serve place f (.submit token request)).1
      = .submitted place (answerBy place f.process log token request) := by
  simp only [Outline.serve, answerBy, hshut, hused]
  split
  · rfl
  · split
    · rfl
    · split <;> rfl

/-- A submission is seen as one to the outline. -/
theorem act_submit_outline (hi : h.InOrder) (hd : h.dispatchers[place]? = some d) (token : Token)
    (request : Request) :
    h.outline.serve place d.face (.submit token request)
      = ((h.act (.call place (.submit token request))).1.report,
          (h.act (.call place (.submit token request))).2.outline) := by
  have hface : h.outline.faces[place]? = some d.face := face_outline hd
  rw [← act_outline hi]
  simp only [Outline.act, hface]

/-- **In every run a submission is answered as the log calls for.** -/
theorem report_submit (catalog : PluginSource) (cached gated : Bool) {before : List Action}
    (few : ∀ p, submissionsTo p before < UInt64.size)
    (hd : ((start catalog cached gated).run before).dispatchers[place]? = some d) (token : Token)
    (request : Request) :
    (((start catalog cached gated).run before).act (.call place (.submit token request))).1.report
      = .submitted place
          (answerBy place d.process ((start catalog cached gated).log before) token request) := by
  have hi := inOrder_run catalog cached gated few
  have hshut : d.face.isShut = ((start catalog cached gated).log before).any (·.shuts place) := by
    rw [← isShutAt_run, isShutAt_eq hd]
    rfl
  have hused := (run_course catalog cached gated hd).lookup_eq
    (length_answersTo_lt _ (few place)) token
  rw [lookup_pending (hi.matched place d hd) hd] at hused
  have hserve := serve_answerBy hshut hused request
  rw [act_submit_outline hi hd] at hserve
  exact hserve

/-- **Rejections are exact, and nobody sees them.**  Consider any point of a run that does not submit
2^64 times, and any submission made then.  The answer is the one that the log calls for: that the
dispatcher is shut down if it was shut down or dropped before; else that the process is not the
dispatcher's, with both of them, if it is not; else that the token is in use if some submission was
accepted under it that was neither concluded nor cancelled; else that it is accepted.  If it is
rejected, then however the run goes on every later step has the same report as without it, be it an
answer, a count or a delivery, and at every later point all dispatchers have as many open submissions
and their sinks have received the same, and the catalog is in the same state. -/
theorem run_rejects_unseen (catalog : PluginSource) (cached gated : Bool) {place : Nat}
    {before later : List Action} {token : Token} {request : Request}
    (few : ∀ p, submissionsTo p (before ++ .call place (.submit token request) :: later)
      < UInt64.size)
    {d : Dispatcher} (hd : ((start catalog cached gated).run before).dispatchers[place]? = some d) :
    let h := (start catalog cached gated).run before
    let submit := Action.call place (.submit token request)
    let h' := (h.act submit).2
    let answer :=
      answerBy place d.process ((start catalog cached gated).log before) token request
    (h.act submit).1.report = .submitted place answer ∧
      (answer ≠ .ok () →
        (h'.log later).map Event.report = (h.log later).map Event.report ∧
          (∀ p, (h'.run later).glance p = (h.run later).glance p) ∧
          (h'.run later).supply = (h.run later).supply) := by
  intro h submit h' answer
  have fewBefore : ∀ p, submissionsTo p before < UInt64.size := fun p =>
    Nat.lt_of_le_of_lt (List.sublist_append_left before _).countP_le (few p)
  have fewWithout : ∀ p, submissionsTo p (before ++ later) < UInt64.size := fun p =>
    Nat.lt_of_le_of_lt ((List.sublist_cons_self submit later).append_left before).countP_le (few p)
  have fewWith : ∀ p, submissionsTo p ((before ++ [submit]) ++ later) < UInt64.size := by
    simpa using few
  have hi : h.InOrder := inOrder_run catalog cached gated fewBefore
  have hanswer : (h.act submit).1.report = .submitted place answer :=
    report_submit catalog cached gated fewBefore hd token request
  refine ⟨hanswer, fun hrejected => ?_⟩
  have hsame : h'.outline = h.outline := by
    have hact := act_submit_outline hi hd token request
    cases he : answer with
    | ok u => exact absurd he hrejected
    | error e =>
      rw [he] at hanswer
      rw [← outline_of_rejected ((congrArg Prod.fst hact).trans hanswer), hact]
  have hfollows : (start catalog cached gated).run (before ++ [submit]) = h' := run_concat ..
  have hunseen := run_eq_of_outline catalog cached gated later fewWithout fewWith
    (by rw [hfollows]; exact hsame)
  rwa [hfollows] at hunseen

/-- The token is still in use when it is submitted again, and free once its task was polled: then it
is accepted, be it the third time that it is asked for or the fourth. -/
theorem run_rejects_unseen_reuse :
    let request : Request := { (default : Request) with mimeType := "c" }
    let submit := Action.call 0 (.submit (.ofNat 7) request)
    let later : List Action := [.poll echo 1, submit, .poll echo 2]
    let h := (start {} false false).run reuse
    (∀ p, submissionsTo p (reuse ++ submit :: later) < UInt64.size) ∧
      (h.act submit).1.report = .submitted 0 (.error (.duplicateToken (.ofNat 7))) ∧
      ((h.act submit).2.log later).map Event.report = (h.log later).map Event.report := by
  intro request submit later h
  have few : ∀ p, submissionsTo p (reuse ++ submit :: later) < UInt64.size := fun p =>
    Nat.lt_of_le_of_lt List.countP_le_length (by decide)
  obtain ⟨hanswer, hunseen⟩ := run_rejects_unseen {} false false few (d := _) rfl
  have hduplicate : answerBy 0 ⟨0⟩ ((start {} false false).log reuse) (.ofNat 7) request
      = .error (.duplicateToken (.ofNat 7)) := rfl
  refine ⟨few, hanswer.trans (congrArg _ hduplicate), (hunseen ?_).1⟩
  exact fun hok => absurd (hduplicate.symm.trans hok) (by simp)

end Hub

end PluginArbiter
