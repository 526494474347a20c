/-
# What can be seen of dispatchers at work

Submissions have numbers, and so have the children of a root, but only to tell rows apart: no caller
and no sink is ever shown one.  An outline leaves them out.  It keeps of each dispatcher its face, and
of each task its token, its request and whether it was cancelled.  There is no table either: the open
submissions are those that have a task and were not cancelled.

An outline takes steps of its own (`Outline.act`), for which it needs no number.  As long as numbers
do not start over, every step of dispatchers is a step of their outline, with the same report
(`act_outline`).  So two states with one outline cannot be told apart, now or later, whatever numbers
they have given out.

Main statements:
* `outline_setDispatcher`: what a new state of a dispatcher does to the outline;
* `serve_outline`, `pollTask_outline`: the two halves of the square;
* `run_outline`: a run of dispatchers is a run of their outline, report by report;
* `run_eq_of_outline`: two points with one outline cannot be told apart.
-/
import PluginArbiter.Proofs.Dispatch.TokenReuse

namespace PluginArbiter

open Dispatcher (Conclusion)

/-! ## 1. Outlines -/

/-- What can be seen of a dispatcher. -/
structure Face where
  process : ProcessId
  handlers : Handlers
  isShut : Bool
  isDropped : Bool
  sink : Sink
  received : List (Token × Verdict)

/-- The face of a dispatcher. -/
def Dispatcher.face (d : Dispatcher) : Face :=
  { process := d.process, handlers := d.handlers, isShut := d.isShut, isDropped := d.isDropped,
    sink := d.sink, received := d.received }

/-- Hands a verdict to the sink. -/
def Face.tell (f : Face) (token : Token) (verdict : Verdict) : Conclusion × Face :=
  match f.sink with
  | .listening => (.told, { f with received := f.received ++ [(token, verdict)] })
  | .deaf => (.told, f)
  | .gone => (.unheard, f)

/-- What can be seen of a task.  It is live until its submission is cancelled. -/
structure Job where
  id : Nat
  owner : Nat
  token : Token
  request : Request
  stage : Stage := .asking
  isLive : Bool := true

/-- What can be seen of dispatchers at work. -/
structure Outline where
  supply : Supply
  faces : List Face
  jobs : List Job
  nextTask : Nat

/-- What can be seen of a step. -/
inductive Report
  | other
  | submitted (place : Nat) (result : Except DispatchError Unit)
  | cancelled (place : Nat) (token : Token) (wasOpen : Bool)
  | frameCancelled (place : Nat) (number : Nat)
  | shut (place : Nat) (number : Nat)
  | polled (id owner : Nat) (token : Token) (progress : Hub.Progress)

namespace Outline

/-- The open submissions at a place. -/
def openAt (o : Outline) (place : Nat) : List Job :=
  o.jobs.filter fun j => j.owner = place && j.isLive

/-- Replaces the face at a place. -/
def setFace (o : Outline) (place : Nat) (f : Face) : Outline :=
  { o with faces := o.faces.set place f }

/-- Cancels some submissions at a place. -/
def close (o : Outline) (place : Nat) (p : Job → Bool) : Outline :=
  { o with jobs := o.jobs.map fun j =>
      if j.owner = place && p j then { j with isLive := false } else j }

/-- Takes a task out. -/
def remove (o : Outline) (id : Nat) : Outline := { o with jobs := o.jobs.filter (·.id ≠ id) }

/-- Notes how far a task has come. -/
def setStage (o : Outline) (id : Nat) (stage : Stage) : Outline :=
  { o with jobs := o.jobs.map fun j => if j.id = id then { j with stage } else j }

/-! ## 2. Steps of an outline -/

/-- Carries out a call on the dispatcher with the face `f` at a place. -/
def serve (o : Outline) (place : Nat) (f : Face) : Hub.Call → Report × Outline
  | .submit token request =>
    if f.isShut then (.submitted place (.error .shutDown), o)
    else if request.process ≠ f.process then
      (.submitted place (.error (.processMismatch f.process request.process)), o)
    else if (o.openAt place).any (·.token = token) then
      (.submitted place (.error (.duplicateToken token)), o)
    else
      (.submitted place (.ok ()),
        { o with
          jobs := o.jobs ++ [{ id := o.nextTask, owner := place, token, request }]
          nextTask := o.nextTask + 1 })
  | .cancel token =>
    (.cancelled place token ((o.openAt place).any (·.token = token)), o.close place (·.token = token))
  | .cancelFrame frame =>
    (.frameCancelled place ((o.openAt place).countP (·.request.frame = frame)),
      o.close place (·.request.frame = frame))
  | .shut =>
    (.shut place (o.openAt place).length,
      (o.close place fun _ => true).setFace place { f with isShut := true })
  | .drop =>
    (.shut place (o.openAt place).length,
      (o.close place fun _ => true).setFace place { f with isShut := true, isDropped := true })
  | .dropSink => (.other, o.setFace place { f with sink := .gone })
  | .closeReceiver =>
    (.other, o.setFace place { f with sink := if f.sink = .gone then .gone else .deaf })

/-- Ends a task with the verdict on what the catalog answered. -/
def conclude (judge : Judge) (o : Outline) (j : Job) (answer : CatalogAnswer) :
    Hub.Progress × Outline :=
  let o := o.remove j.id
  let verdict := judge j.request answer
  match o.faces[j.owner]? with
  | none => (.concluded .stale verdict, o)
  | some f =>
    (.concluded (f.tell j.token verdict).1 verdict, o.setFace j.owner (f.tell j.token verdict).2)

/-- Ends a task whose own enumeration has ended. -/
def finish (judge : Judge) (o : Outline) (j : Job) (number : Nat) : Hub.Progress × Outline :=
  let answer := o.supply.catalog.answerAt number
  conclude judge { o with supply := o.supply.finish answer } j answer

/-- Polls a task. -/
def pollJob (judge : Judge) (o : Outline) (j : Job) : Hub.Progress × Outline :=
  if j.isLive then
    match j.stage with
    | .enumerating number => if o.supply.gateOpen then finish judge o j number else (.idle, o)
    | .asking =>
      match o.supply.ask j.id with
      | (.stored plugins, supply) => conclude judge { o with supply } j (.ok plugins)
      | (.wait, supply) => (.idle, { o with supply })
      | (.turn, supply) =>
        if supply.gateOpen then finish judge { o with supply := supply.start.2 } j supply.start.1
        else (.started,
          ({ o with supply := supply.start.2 } : Outline).setStage j.id (.enumerating supply.start.1))
  else (.withdrawn, { o with supply := o.supply.leave j.id }.remove j.id)

/-- Carries out an action. -/
def act (o : Outline) : Hub.Action → Report × Outline
  | .addDispatcher process handlers =>
    (.other, { o with faces := o.faces ++ [Dispatcher.face { process, handlers }] })
  | .call place call =>
    match o.faces[place]? with
    | none => (.other, o)
    | some f => o.serve place f call
  | .openGate => (.other, { o with supply := o.supply.openGate })
  | .poll judge id =>
    match o.jobs.find? (·.id == id) with
    | none => (.other, o)
    | some j => (.polled j.id j.owner j.token (o.pollJob judge j).1, (o.pollJob judge j).2)

/-- Where a run leads. -/
def run (o : Outline) (actions : List Hub.Action) : Outline :=
  actions.foldl (fun o a => (o.act a).2) o

/-- What can be seen of the steps of a run. -/
def reports (o : Outline) : List Hub.Action → List Report
  | [] => []
  | a :: rest => (o.act a).1 :: reports (o.act a).2 rest

end Outline

/-! ## 3. The outline of dispatchers -/

namespace Hub

variable {h h' : Hub} {t : Task} {place : Nat} {d d' : Dispatcher}

/-- What can be seen of a task. -/
def job (h : Hub) (t : Task) : Job :=
  { id := t.id, owner := t.owner, token := t.submission.token, request := t.submission.request,
    stage := t.stage, isLive := !h.isCancelled t }

/-- What can be seen of dispatchers at work. -/
def outline (h : Hub) : Outline :=
  { supply := h.supply, faces := h.dispatchers.map Dispatcher.face, jobs := h.tasks.map h.job,
    nextTask := h.nextTask }

/-- What can be seen of an event. -/
def Event.report : Event → Report
  | .other => .other
  | .submitted place result => .submitted place (result.map fun _ => ())
  | .cancelled place token entry => .cancelled place token entry.isSome
  | .frameCancelled place rows => .frameCancelled place rows.length
  | .shut place rows => .shut place rows.length
  | .polled t progress => .polled t.id t.owner t.submission.token progress

/-- Tasks and tables match, and no number has been given out twice. -/
structure InOrder (h : Hub) : Prop where
  sound : h.Sound
  matched : ∀ (place : Nat) (d : Dispatcher), h.dispatchers[place]? = some d →
    Dispatcher.Matched d (h.jobs place)
  few : ∀ (place : Nat) (d : Dispatcher), h.dispatchers[place]? = some d → d.cancels.made ≤ UInt64.size

theorem faces_outline (h : Hub) (place : Nat) :
    h.outline.faces[place]? = h.dispatchers[place]?.map Dispatcher.face :=
  List.getElem?_map ..

theorem job_of_isCancelled (h : Hub) {b : Bool} (hc : h'.isCancelled t = b) :
    h'.job t = { h.job t with isLive := !b } := by
  rw [job, hc]
  rfl

/-- The open submissions at a place are its live tasks. -/
theorem openAt_outline (h : Hub) (place : Nat) : h.outline.openAt place
    = (h.tasks.filter fun t => t.owner = place && !h.isCancelled t).map h.job := by
  rw [Outline.openAt, outline, List.filter_map]
  rfl

theorem live_jobs (hd : h.dispatchers[place]? = some d) : d.live (h.jobs place)
    = (h.tasks.filter fun t => t.owner = place && !h.isCancelled t).map (·.submission) := by
  rw [Dispatcher.live, jobs, List.filter_map, List.filter_filter]
  refine congrArg _ (List.filter_congr fun t _ => ?_)
  by_cases he : t.owner = place
  · subst he
    rw [isCancelled_eq hd, Bool.and_comm]
    rfl
  · simp [he]

/-- **The open submissions of an outline have the rows of the table**, as far as these can be
seen. -/
theorem pending_eq_openAt (hm : Dispatcher.Matched d (h.jobs place))
    (hd : h.dispatchers[place]? = some d) :
    d.pending.map (fun row => (row.1, row.2.frame))
      = (h.outline.openAt place).map fun j => (j.token, j.request.frame) := by
  rw [hm.table, live_jobs hd, openAt_outline, List.map_map, List.map_map, List.map_map]
  rfl

theorem getElem?_setDispatcher_self (hd : h.dispatchers[place]? = some d) (d' : Dispatcher) :
    (h.setDispatcher place d').dispatchers[place]? = some d' := by
  rw [getElem?_setDispatcher hd, if_pos rfl]

/-- **What a new state of a dispatcher does to the outline**: it shows its new face, and the tasks
live on that it does not cancel. -/
theorem outline_setDispatcher (hd : h.dispatchers[place]? = some d) (p : Job → Bool)
    (hlive : ∀ t ∈ h.tasks, t.owner = place → d'.cancels.isCancelled t.submission.cancel
      = (d.cancels.isCancelled t.submission.cancel || p (h.job t))) :
    (h.setDispatcher place d').outline = (h.outline.close place p).setFace place d'.face := by
  have hjobs : ∀ t ∈ h.tasks, (h.setDispatcher place d').job t =
      if (h.job t).owner = place && p (h.job t) then { h.job t with isLive := false } else h.job t := by
    intro t ht
    by_cases he : t.owner = place
    · have hcancelled : (h.setDispatcher place d').isCancelled t
          = (h.isCancelled t || p (h.job t)) := by
        subst he
        rw [isCancelled_eq (getElem?_setDispatcher_self hd d'), isCancelled_eq hd, hlive t ht rfl]
      have hcond : (decide ((h.job t).owner = place) && p (h.job t)) = p (h.job t) := by
        simp [job, he]
      rw [job_of_isCancelled h hcancelled, hcond]
      cases p (h.job t) <;> simp [job]
    · have hsame : (h.setDispatcher place d').isCancelled t = h.isCancelled t := by
        simp only [isCancelled, setDispatcher, List.getElem?_set_ne (Ne.symm he)]
      rw [job_of_isCancelled h hsame, if_neg (by simp [job, he])]
      rfl
  simp only [outline, Outline.close, Outline.setFace, List.map_map]
  congr 1
  · exact List.map_set ..
  · exact List.map_congr_left hjobs

/-- A face that is there already changes nothing. -/
theorem setFace_self {o : Outline} {f : Face} (hf : o.faces[place]? = some f) :
    o.setFace place f = o := by
  obtain ⟨hlt, rfl⟩ := List.getElem?_eq_some_iff.mp hf
  rw [Outline.setFace, List.set_getElem_self]

theorem face_outline (hd : h.dispatchers[place]? = some d) :
    h.outline.faces[place]? = some d.face := by
  rw [faces_outline, hd, Option.map_some]

/-- Where nothing is cancelled only the face changes. -/
theorem outline_setDispatcher_of_cancels (hd : h.dispatchers[place]? = some d)
    (hkeep : ∀ child, d'.cancels.isCancelled child = d.cancels.isCancelled child) :
    (h.setDispatcher place d').outline = h.outline.setFace place d'.face := by
  have hnobody : (h.outline.close place fun _ => false) = h.outline := by simp [Outline.close]
  rw [outline_setDispatcher hd (fun _ => false) fun t _ _ => by rw [hkeep, Bool.or_false],
    hnobody]

/-- Where the face stays too, nothing can be seen. -/
theorem outline_setDispatcher_self (hd : h.dispatchers[place]? = some d)
    (hkeep : ∀ child, d'.cancels.isCancelled child = d.cancels.isCancelled child)
    (hface : d'.face = d.face) : (h.setDispatcher place d').outline = h.outline := by
  rw [outline_setDispatcher_of_cancels hd hkeep, hface, setFace_self (face_outline hd)]

/-- **Striking rows closes the submissions that can be seen to be theirs.** -/
theorem outline_strike (hm : Dispatcher.Matched d (h.jobs place))
    (hd : h.dispatchers[place]? = some d) (p : Row → Bool) (q : Job → Bool)
    (hpq : ∀ t, q (h.job t) = p t.submission.row) :
    (h.setDispatcher place (d.strike p)).outline = h.outline.close place q := by
  have hlive : ∀ t ∈ h.tasks, t.owner = place →
      (d.strike p).cancels.isCancelled t.submission.cancel
        = (d.cancels.isCancelled t.submission.cancel || q (h.job t)) := by
    rintro t ht rfl
    rw [hpq, hm.isCancelled_strike p (submission_mem_jobs ht)]
  rw [outline_setDispatcher hd q hlive]
  exact setFace_self (f := d.face) (face_outline hd)

/-- **Shutting down closes all.** -/
theorem outline_shut (hd : h.dispatchers[place]? = some d) (d' : Dispatcher) :
    (h.setDispatcher place d'.shut.2).outline
      = (h.outline.close place fun _ => true).setFace place { d'.face with isShut := true } := by
  have hcancelled : ∀ child, d'.shut.2.cancels.isCancelled child = true :=
    Cancellation.isCancelled_of_root d'.isShut_shut
  have hface : d'.shut.2.face = { d'.face with isShut := true } := by
    have hshut : d'.shut.2.isShut = true := d'.isShut_shut
    rw [Dispatcher.face, hshut]
    unfold Dispatcher.shut
    split <;> rfl
  rw [outline_setDispatcher hd (fun _ => true) fun t _ _ => by rw [hcancelled, Bool.or_true],
    hface]

/-! ## 4. Calls -/

section Tables

variable (hm : Dispatcher.Matched d (h.jobs place)) (hd : h.dispatchers[place]? = some d)

include hm hd

/-- There are as many rows as open submissions. -/
theorem length_pending : d.pending.length = (h.outline.openAt place).length := by
  simpa using congrArg List.length (pending_eq_openAt hm hd)

/-- A frame has as many rows as open submissions. -/
theorem length_pending_frame (frame : FrameId) :
    (d.pending.filter fun row => row.2.frame = frame).length
      = (h.outline.openAt place).countP (·.request.frame = frame) := by
  have hcount := congrArg (List.countP fun x => decide (x.2 = frame)) (pending_eq_openAt hm hd)
  rw [List.countP_map, List.countP_map, List.countP_eq_length_filter] at hcount
  exact hcount

/-- A token has a row if it has an open submission. -/
theorem lookup_pending (token : Token) : (d.pending.lookup token).isSome
    = (h.outline.openAt place).any (·.token = token) := by
  have hany := congrArg (List.any · fun x => decide (x.1 = token)) (pending_eq_openAt hm hd)
  simp only [List.any_map] at hany
  have hlookup : (d.pending.lookup token).isSome = d.pending.any fun row => row.1 = token := by
    rw [Bool.eq_iff_iff, List.any_eq_true, Option.isSome_iff_exists]
    constructor
    · rintro ⟨entry, he⟩
      exact ⟨(token, entry), Dispatcher.mem_of_lookup he, by simp⟩
    · rintro ⟨row, hrow, he⟩
      obtain rfl : row.1 = token := by simpa using he
      exact ⟨row.2, Dispatcher.lookup_eq_some_of_mem hm.tokens hrow⟩
  rw [hlookup]
  exact hany

/-- What is accepted shows as a task whose submission is open. -/
theorem outline_enter (hopen : d.isShut = false) (s : Submission) (hs : s.cancel = d.cancels.made) :
    ({ h.setDispatcher place { d.spend with pending := d.pending ++ [s.row] } with
        tasks := h.tasks ++ [{ id := h.nextTask, owner := place, submission := s }]
        nextTask := h.nextTask + 1 } : Hub).outline
      = { h.outline with
          jobs := h.outline.jobs
            ++ [{ id := h.nextTask, owner := place, token := s.token, request := s.request }]
          nextTask := h.nextTask + 1 } := by
  let d' : Dispatcher := { d.spend with pending := d.pending ++ [s.row] }
  let t : Task := { id := h.nextTask, owner := place, submission := s }
  have hold : (h.setDispatcher place d').outline = h.outline :=
    outline_setDispatcher_self hd (fun _ => rfl) rfl
  have hlive : (h.setDispatcher place d').isCancelled t = false := by
    rw [isCancelled_eq (getElem?_setDispatcher_self hd d'), hs]
    exact hm.isCancelled_made hopen
  have hjobs : (h.tasks ++ [t]).map (h.setDispatcher place d').job
      = h.outline.jobs
        ++ [{ id := h.nextTask, owner := place, token := s.token, request := s.request }] := by
    rw [List.map_append, List.map_singleton, ← hold, job_of_isCancelled h hlive]
    rfl
  rw [← hjobs, ← hold]
  rfl

/-- **Submitting is seen as such.** -/
theorem submit_outline (token : Token) (request : Request) :
    h.outline.serve place d.face (.submit token request)
      = (.submitted place ((h.submit place d token request).1.map fun _ => ()),
          (h.submit place d token request).2.outline) := by
  have hsame : (h.setDispatcher place d).outline = h.outline :=
    outline_setDispatcher_self hd (fun _ => rfl) rfl
  have hspend : (h.setDispatcher place d.spend).outline = h.outline :=
    outline_setDispatcher_self hd (fun _ => rfl) rfl
  have hlookup := lookup_pending hm hd token
  simp only [Outline.serve, Hub.submit, Dispatcher.accept, ← hlookup]
  by_cases hshut : d.isShut = true
  · rw [if_pos (show d.face.isShut = true from hshut), if_pos hshut, hsame]
    rfl
  · rw [if_neg (show ¬ d.face.isShut = true from hshut), if_neg hshut]
    by_cases hprocess : request.process ≠ d.process
    · rw [if_pos (show request.process ≠ d.face.process from hprocess), if_pos hprocess, hsame]
      rfl
    · rw [if_neg (show ¬ request.process ≠ d.face.process from hprocess), if_neg hprocess]
      by_cases hused : (d.pending.lookup token).isSome = true
      · rw [if_pos hused, if_pos hused, hspend]
        rfl
      · rw [if_neg hused, if_neg hused]
        have henter := outline_enter hm hd (by simpa using hshut)
          ⟨token, d.nextSeq, d.cancels.made, request⟩ rfl
        exact congrArg (Prod.mk _) henter.symm

/-- **A call is seen as such.** -/
theorem serve_outline (call : Call) : h.outline.serve place d.face call
    = ((h.serve place d call).1.report, (h.serve place d call).2.outline) := by
  cases call with
  | submit token request => exact submit_outline hm hd token request
  | cancel token =>
    have hstrike := outline_strike hm hd (fun row => row.1 = token) (fun j => j.token = token)
      fun _ => rfl
    simp only [serve, Hub.cancel, Dispatcher.cancel_eq hm.tokens, hstrike, Event.report,
      lookup_pending hm hd]
    rfl
  | cancelFrame frame =>
    have hstrike := outline_strike hm hd (fun row => row.2.frame = frame)
      (fun j => j.request.frame = frame) fun _ => rfl
    simp only [serve, Hub.cancelFrame, Dispatcher.cancelFrame_eq, hstrike, Event.report,
      length_pending_frame hm hd]
    rfl
  | shut =>
    simp only [serve, Hub.shut, outline_shut hd, Event.report, hm.length_shut,
      length_pending hm hd]
    rfl
  | drop =>
    have hdropped : Dispatcher.Matched { d with isDropped := true } (h.jobs place) :=
      .congr (d := d) ⟨rfl, rfl, rfl, rfl⟩ hm
    simp only [serve, Hub.drop, Hub.shut, outline_shut hd, Event.report, hdropped.length_shut,
      length_pending hm hd]
    rfl
  | dropSink =>
    have hset : (h.setDispatcher place d.dropSink).outline
        = h.outline.setFace place d.dropSink.face :=
      outline_setDispatcher_of_cancels hd fun _ => rfl
    exact congrArg (Prod.mk _) hset.symm
  | closeReceiver =>
    have hset : (h.setDispatcher place d.closeReceiver).outline
        = h.outline.setFace place d.closeReceiver.face :=
      outline_setDispatcher_of_cancels hd fun _ => rfl
    exact congrArg (Prod.mk _) hset.symm

end Tables

/-! ## 5. Polls -/

theorem outline_removeTask (h : Hub) (id : Nat) :
    (h.removeTask id).outline = h.outline.remove id := by
  simp only [outline, removeTask, Outline.remove, List.filter_map]
  rfl

theorem outline_setStage (h : Hub) (id : Nat) (stage : Stage) :
    (h.setStage id stage).outline = h.outline.setStage id stage := by
  simp only [outline, setStage, Outline.setStage, List.map_map]
  congr 1
  refine List.map_congr_left fun t _ => ?_
  exact apply_ite h.job ..

theorem face_tell (d : Dispatcher) (token : Token) (verdict : Verdict) :
    d.face.tell token verdict = ((d.tell token verdict).1, (d.tell token verdict).2.face) := by
  unfold Face.tell Dispatcher.tell
  rw [show d.face.sink = d.sink from rfl]
  cases d.sink <;> rfl

section Tasks

variable {t : Task} (hm : Dispatcher.Matched d (h.jobs t.owner))
  (hd : h.dispatchers[t.owner]? = some d) (ht : t ∈ h.tasks)

include hm hd ht

/-- The end of a task with a verdict is seen as such. -/
theorem conclude_outline (live : h.isCancelled t = false) (judge : Judge) (answer : CatalogAnswer) :
    h.outline.conclude judge (h.job t) answer
      = ((conclude judge h t answer).1, (conclude judge h t answer).2.outline) := by
  have hd' : (h.removeTask t.id).dispatchers[t.owner]? = some d := hd
  have hmem : t.submission ∈ d.live (h.jobs t.owner) := by
    rw [isCancelled_eq hd] at live
    exact Dispatcher.mem_live.mpr ⟨submission_mem_jobs ht, live⟩
  let rest : Dispatcher := { d with pending := Dispatcher.without d.pending t.submission.token }
  let verdict := judge t.submission.request answer
  have hset : ((h.removeTask t.id).setDispatcher t.owner
      (rest.tell t.submission.token verdict).2).outline
        = (h.outline.remove t.id).setFace t.owner (rest.tell t.submission.token verdict).2.face := by
    rw [outline_setDispatcher_of_cancels hd' fun child => by
      rw [(Dispatcher.SameBooks.tell rest _ _).cancels], outline_removeTask]
  have hface : (h.outline.remove t.id).faces[t.owner]? = some rest.face :=
    face_outline (d := d) hd
  simp only [Outline.conclude, conclude, hd', hm.conclude_eq hmem]
  rw [show (h.job t).owner = t.owner from rfl, show (h.job t).id = t.id from rfl, hface]
  simp only [face_tell]
  exact congrArg (Prod.mk _) hset.symm

theorem finish_outline (live : h.isCancelled t = false) (judge : Judge) (number : Nat) :
    h.outline.finish judge (h.job t) number
      = ((finish judge h t number).1, (finish judge h t number).2.outline) :=
  conclude_outline
    (h := { h with supply := h.supply.finish (h.supply.catalog.answerAt number) }) hm hd ht live ..

/-- **A poll is seen as such.** -/
theorem pollTask_outline (few : d.cancels.made ≤ UInt64.size) (judge : Judge) :
    h.outline.pollJob judge (h.job t)
      = ((h.pollTask judge t).1, (h.pollTask judge t).2.outline) := by
  have hlive : ∀ b, h.isCancelled t = b → (h.job t).isLive = !b := by
    rintro _ rfl
    rfl
  have hp := pollTask_polled judge h t
  generalize h.pollTask judge t = outcome at hp ⊢
  cases hp with
  | withdrawn cancelled =>
    rw [withdraw_eq hm few hd ht cancelled, outline_removeTask]
    rw [Outline.pollJob, hlive _ cancelled]
    rfl
  | held live number stage closed =>
    have hstage : (h.job t).stage = .enumerating number := stage
    have hgate : h.outline.supply.gateOpen = false := closed
    simp only [Outline.pollJob, hlive _ live, hstage, hgate]
    rfl
  | answered live number stage isOpen =>
    have hstage : (h.job t).stage = .enumerating number := stage
    have hgate : h.outline.supply.gateOpen = true := isOpen
    simp only [Outline.pollJob, hlive _ live, hstage, hgate]
    exact finish_outline hm hd ht live judge number
  | served live stage plugins supply ask =>
    have hstage : (h.job t).stage = .asking := stage
    have hask : h.outline.supply.ask (h.job t).id = (.stored plugins, supply) := ask
    simp only [Outline.pollJob, hlive _ live, hstage, hask]
    exact conclude_outline (h := { h with supply }) hm hd ht live judge (.ok plugins)
  | waiting live stage supply ask =>
    have hstage : (h.job t).stage = .asking := stage
    have hask : h.outline.supply.ask (h.job t).id = (.wait, supply) := ask
    simp only [Outline.pollJob, hlive _ live, hstage, hask]
    rfl
  | started live stage supply ask closed =>
    have hstage : (h.job t).stage = .asking := stage
    have hask : h.outline.supply.ask (h.job t).id = (.turn, supply) := ask
    simp only [Outline.pollJob, hlive _ live, hstage, hask, closed]
    exact congrArg (Prod.mk _) (outline_setStage { h with supply := supply.start.2 } t.id _).symm
  | enumerated live stage supply ask isOpen =>
    have hstage : (h.job t).stage = .asking := stage
    have hask : h.outline.supply.ask (h.job t).id = (.turn, supply) := ask
    simp only [Outline.pollJob, hlive _ live, hstage, hask, isOpen]
    exact finish_outline (h := { h with supply := supply.start.2 }) hm hd ht live judge _

end Tasks

/-! ## 6. Steps and runs -/

/-- A dispatcher that is made changes nothing for tasks whose owner exists. -/
theorem outline_addDispatcher (hs : h.Sound) (process : ProcessId) (handlers : Handlers) :
    (h.addDispatcher process handlers).2.outline
      = { h.outline with
          faces := h.outline.faces ++ [Dispatcher.face { process, handlers }] } := by
  have hjobs : h.tasks.map (h.addDispatcher process handlers).2.job = h.tasks.map h.job := by
    refine List.map_congr_left fun t ht => job_of_isCancelled h ?_
    simp only [isCancelled, addDispatcher, List.getElem?_append_left (hs.owner t ht)]
  simp only [outline, ← hjobs]
  exact congrArg (Outline.mk h.supply · _ h.nextTask) List.map_append

/-- **Every step is a step of the outline**, with the same report. -/
theorem act_outline (hi : h.InOrder) (a : Action) :
    h.outline.act a = ((h.act a).1.report, (h.act a).2.outline) := by
  cases a with
  | addDispatcher process handlers =>
    exact congrArg (Prod.mk _) (outline_addDispatcher hi.sound process handlers).symm
  | call place call =>
    simp only [Outline.act, act, faces_outline]
    cases hd : h.dispatchers[place]? with
    | none => rfl
    | some d => exact serve_outline (hi.matched place d hd) hd call
  | openGate => rfl
  | poll judge id =>
    have hfind : h.outline.jobs.find? (·.id == id) = (h.tasks.find? (·.id == id)).map h.job :=
      List.find?_map
    simp only [Outline.act, act, hfind]
    cases hf : h.tasks.find? (·.id == id) with
    | none => rfl
    | some t =>
      have ht : t ∈ h.tasks := List.mem_of_find?_eq_some hf
      have hd : h.dispatchers[t.owner]? = some _ := List.getElem?_eq_getElem (hi.sound.owner t ht)
      simp only [Option.map_some,
        pollTask_outline (hi.matched _ _ hd) hd ht (hi.few _ _ hd) judge]
      rfl

/-- The face of the dispatcher at a place, and how many submissions are open there. -/
def glance (h : Hub) (place : Nat) : Option (Face × Nat) :=
  h.dispatchers[place]?.map fun d => (d.face, d.pendingCount)

/-- Both are read off the outline. -/
theorem glance_eq (hi : h.InOrder) (place : Nat) :
    h.glance place = h.outline.faces[place]?.map fun f => (f, (h.outline.openAt place).length) := by
  rw [glance, faces_outline]
  cases hd : h.dispatchers[place]? with
  | none => rfl
  | some d =>
    have hcount : d.pendingCount = (h.outline.openAt place).length :=
      length_pending (hi.matched place d hd) hd
    simp only [Option.map_some, hcount]

section Runs

variable (catalog : PluginSource) (cached gated : Bool)

/-- Runs that do not submit too often keep everything in order. -/
theorem inOrder_run {actions : List Action}
    (few : ∀ place, submissionsTo place actions < UInt64.size) :
    ((start catalog cached gated).run actions).InOrder :=
  ⟨sound_run catalog cached gated actions,
    fun place _ hd => run_matched catalog cached gated hd (few place),
    fun place _ hd => Nat.le_of_lt (run_made_lt catalog cached gated hd (few place))⟩

/-- **A run is a run of its outline**, report by report, from any point of it. -/
theorem run_outline (before later : List Action)
    (few : ∀ place, submissionsTo place (before ++ later) < UInt64.size) :
    let h := (start catalog cached gated).run before
    (h.log later).map Event.report = h.outline.reports later ∧
      (h.run later).outline = h.outline.run later := by
  induction later generalizing before with
  | nil => exact ⟨rfl, rfl⟩
  | cons a rest ih =>
    intro h
    have hfew : ∀ place, submissionsTo place before < UInt64.size := fun place =>
      Nat.lt_of_le_of_lt (List.sublist_append_left before _).countP_le (few place)
    have hact : h.outline.act a = ((h.act a).1.report, (h.act a).2.outline) :=
      act_outline (inOrder_run catalog cached gated hfew) a
    obtain ⟨hlog, hrun⟩ := ih (before ++ [a]) (by simpa using few)
    rw [run_concat] at hlog hrun
    simp only [Outline.reports, Outline.run, List.foldl_cons, hact]
    exact ⟨congrArg ((h.act a).1.report :: ·) hlog, hrun⟩

/-- **Two points with one outline cannot be told apart**, now or later. -/
theorem run_eq_of_outline {before before' : List Action} (later : List Action)
    (few : ∀ place, submissionsTo place (before ++ later) < UInt64.size)
    (few' : ∀ place, submissionsTo place (before' ++ later) < UInt64.size)
    (same : ((start catalog cached gated).run before').outline
      = ((start catalog cached gated).run before).outline) :
    let h := (start catalog cached gated).run before
    let h' := (start catalog cached gated).run before'
    (h'.log later).map Event.report = (h.log later).map Event.report ∧
      (∀ place, (h'.run later).glance place = (h.run later).glance place) ∧
      (h'.run later).supply = (h.run later).supply := by
  intro h h'
  obtain ⟨hlog, hrun⟩ := run_outline catalog cached gated before later few
  obtain ⟨hlog', hrun'⟩ := run_outline catalog cached gated before' later few'
  have hend : (h.run later).InOrder := by
    rw [← run_append]
    exact inOrder_run catalog cached gated few
  have hend' : (h'.run later).InOrder := by
    rw [← run_append]
    exact inOrder_run catalog cached gated few'
  have houtline : (h'.run later).outline = (h.run later).outline := by rw [hrun', hrun, same]
  refine ⟨by rw [hlog', hlog, same], fun place => ?_, congrArg Outline.supply houtline⟩
  rw [glance_eq hend, glance_eq hend', houtline]

end Runs

end Hub

end PluginArbiter
