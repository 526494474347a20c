/-
# The course of one dispatcher

Every step of a run is a move, seen from one dispatcher.  So what a run does to a dispatcher is a
sequence of moves that begins when the dispatcher is made: a `Course`.  The catalog, the other
dispatchers and the order in which their tasks are polled no longer appear in it, and what holds
along every course holds in every run.

The first such thing is the match of rows and tasks.  It needs that numbers have not started over,
and a course uses up at most one number for each answer to who submits.

Main statements:
* `run_course`: every run is a course, seen from any of its dispatchers;
* `Course.matched`: rows and tasks match at every point of a course;
* `length_answersTo_le`: a run answers no more often than it is asked.
-/
import Mathlib.Data.List.Induction
import PluginArbiter.Proofs.Dispatch.Moves

namespace PluginArbiter.Hub

open Dispatcher

variable {d d' : Dispatcher} {jobs jobs' : List Submission}
  {as as' : List (Except DispatchError Submission)} {es es' : List (Fate × Ticket)}

/-! ## 1. Courses -/

/-- What has become of a dispatcher and its submissions by moves since it was made, with all
answers to who submitted and all submissions that ended. -/
inductive Course :
    Dispatcher → List Submission → List (Except DispatchError Submission) →
      List (Fate × Ticket) → Prop
  | made (process : ProcessId) (handlers : Handlers) : Course { process, handlers } [] [] []
  | move {d d' : Dispatcher} {jobs jobs' : List Submission}
    {as as' : List (Except DispatchError Submission)} {es es' : List (Fate × Ticket)}
    (course : Course d jobs as es) (step : Move d jobs as' es' d' jobs') :
    Course d' jobs' (as ++ as') (es ++ es')

/-- The submissions that answers bring in. -/
def opened (as : List (Except DispatchError Submission)) : List Submission := as.flatMap admitted

theorem opened_append (as as' : List (Except DispatchError Submission)) :
    opened (as ++ as') = opened as ++ opened as' :=
  List.flatMap_append

/-- **What a move costs.**  It uses up a number at most where it answers to who submits, and what it
brings in bears that number. -/
theorem Move.spends (m : Move d jobs as es d' jobs') :
    (d'.cancels.made = d.cancels.made ∧ opened as = []) ∨
      (d'.cancels.made = d.cancels.made + 1 ∧ as.length = 1 ∧
        (opened as = [] ∨
          ∃ s, opened as = [s] ∧ s.cancel = d.cancels.made ∧ s.seq = d.nextSeq)) := by
  cases m with
  | rest same => exact Or.inl ⟨by rw [same.cancels], rfl⟩
  | submit token request =>
    rcases d.accept_cases token request with ⟨e, he⟩ | he | ⟨-, -, he⟩
    · rw [he]
      exact Or.inl ⟨rfl, rfl⟩
    · rw [he]
      exact Or.inr ⟨rfl, rfl, Or.inl rfl⟩
    · rw [he]
      exact Or.inr ⟨rfl, rfl, Or.inr ⟨_, rfl, rfl, rfl⟩⟩
  | cancel token =>
    refine Or.inl ⟨?_, rfl⟩
    unfold Dispatcher.cancel
    split <;> rfl
  | cancelFrame frame => exact Or.inl ⟨rfl, rfl⟩
  | shut same =>
    refine Or.inl ⟨?_, rfl⟩
    rw [← same.cancels]
    unfold Dispatcher.shut
    split <;> rfl
  | conclude live verdict => exact Or.inl ⟨by rw [conclude_cancels], rfl⟩
  | withdraw cancelled => exact Or.inl ⟨by rw [Dispatcher.withdraw, release_cancels], rfl⟩

/-- **Rows and tasks match after a move** if they matched before. -/
theorem Move.matched (m : Move d jobs as es d' jobs') (few : d.cancels.made ≤ UInt64.size)
    (h : Matched d jobs) : Matched d' jobs' := by
  cases m with
  | rest same => exact h.congr same
  | submit token request => exact h.accept token request
  | cancel token => exact h.cancel token
  | cancelFrame frame => exact h.cancelFrame frame
  | shut same => exact (h.congr same).shut
  | conclude live verdict => exact h.conclude live verdict
  | withdraw cancelled => exact h.withdraw few cancelled

/-- A course uses up at most one number for each answer. -/
theorem Course.made_le (c : Course d jobs as es) : d.cancels.made ≤ as.length := by
  induction c with
  | made process handlers => exact Nat.le_refl _
  | move course step ih =>
    rw [List.length_append]
    rcases step.spends with ⟨hmade, -⟩ | ⟨hmade, hlen, -⟩ <;> omega

/-- **Rows and tasks match at every point of a course.** -/
theorem Course.matched (c : Course d jobs as es) (few : as.length < UInt64.size) : Matched d jobs := by
  induction c with
  | made process handlers => exact Matched.fresh process handlers
  | move course step ih =>
    rw [List.length_append] at few
    have hmade := course.made_le
    exact step.matched (by omega) (ih (by omega))

/-! ## 2. Runs are courses -/

/-- All answers in a log to who submitted at a place. -/
def answersTo (place : Nat) (log : List Event) : List (Except DispatchError Submission) :=
  log.flatMap (·.answers place)

/-- All submissions that ended at a place, in a log. -/
def endedAt (place : Nat) (log : List Event) : List (Fate × Ticket) :=
  log.flatMap (·.ended place)

theorem answersTo_concat (place : Nat) (log : List Event) (e : Event) :
    answersTo place (log ++ [e]) = answersTo place log ++ e.answers place := by
  simp [answersTo]

theorem endedAt_concat (place : Nat) (log : List Event) (e : Event) :
    endedAt place (log ++ [e]) = endedAt place log ++ e.ended place := by
  simp [endedAt]

/-- What has ended stays ended. -/
theorem endedAt_append (place : Nat) (log log' : List Event) :
    endedAt place (log ++ log') = endedAt place log ++ endedAt place log' :=
  List.flatMap_append

/-- A step answers only where it is asked. -/
theorem length_answers_act_le (h : Hub) (place : Nat) (a : Action) :
    ((h.act a).1.answers place).length ≤ if a.submitsTo place then 1 else 0 := by
  cases a with
  | addDispatcher process handlers => exact Nat.zero_le _
  | openGate => exact Nat.zero_le _
  | poll judge id =>
    simp only [act]
    split <;> exact Nat.zero_le _
  | call p call =>
    simp only [act]
    split
    · exact Nat.zero_le _
    · cases call with
      | submit token request =>
        simp only [serve, Event.answers, Action.submitsTo, beq_iff_eq]
        split <;> simp
      | cancel token => exact Nat.zero_le _
      | cancelFrame frame => exact Nat.zero_le _
      | shut => exact Nat.zero_le _
      | drop => exact Nat.zero_le _
      | dropSink => exact Nat.zero_le _
      | closeReceiver => exact Nat.zero_le _

/-- **A run answers no more often than it is asked.** -/
theorem length_answersTo_le (h : Hub) (place : Nat) (actions : List Action) :
    (answersTo place (h.log actions)).length ≤ submissionsTo place actions := by
  induction actions generalizing h with
  | nil => exact Nat.le_refl _
  | cons a rest ih =>
    have hstep := length_answers_act_le h place a
    have hrest := ih (h.act a).2
    simp only [answersTo, submissionsTo, log, List.flatMap_cons, List.length_append,
      List.countP_cons] at *
    omega

/-- So few questions have few answers. -/
theorem length_answersTo_lt (h : Hub) {place : Nat} {actions : List Action}
    (few : submissionsTo place actions < UInt64.size) :
    (answersTo place (h.log actions)).length < UInt64.size :=
  Nat.lt_of_le_of_lt (length_answersTo_le h place actions) few

/-- Where there is no dispatcher there are no tasks. -/
theorem Sound.jobs_eq_nil {h : Hub} (hs : h.Sound) {place : Nat}
    (hnone : h.dispatchers[place]? = none) : h.jobs place = [] := by
  have hlen := List.getElem?_eq_none_iff.mp hnone
  rw [jobs, List.map_eq_nil_iff, List.filter_eq_nil_iff]
  intro t ht
  have := hs.owner t ht
  simp only [decide_eq_true_eq]
  omega

/-- A poll ends no submission but that of the task. -/
theorem ended_polled_of_ne {t : Task} {place : Nat} (hne : t.owner ≠ place) (progress : Progress) :
    (Event.polled t progress).ended place = [] := by
  cases progress <;> simp [Event.ended, hne]

/-- Where there is no dispatcher nothing happens, but one may be made there. -/
theorem act_absent {h : Hub} (hs : h.Sound) {place : Nat} (hnone : h.dispatchers[place]? = none)
    (a : Action) :
    (h.act a).1.answers place = [] ∧ (h.act a).1.ended place = [] ∧
      ∀ d, (h.act a).2.dispatchers[place]? = some d →
        (h.act a).2.jobs place = [] ∧ ∃ process handlers, d = { process, handlers } := by
  have hlen := List.getElem?_eq_none_iff.mp hnone
  -- nothing that leaves the number of dispatchers as it is makes one
  have hstill : (∀ process handlers, a ≠ .addDispatcher process handlers) →
      ∀ d, (h.act a).2.dispatchers[place]? = some d → False := by
    intro hold d hd
    obtain ⟨hlt, -⟩ := List.getElem?_eq_some_iff.mp hd
    rw [length_act h hold] at hlt
    omega
  cases a with
  | addDispatcher process handlers =>
    refine ⟨rfl, rfl, fun d hd => ⟨hs.jobs_eq_nil hnone, process, handlers, ?_⟩⟩
    change (h.dispatchers ++ [_])[place]? = some d at hd
    rw [List.getElem?_append_right hlen, List.getElem?_singleton] at hd
    split at hd
    · exact (Option.some.inj hd).symm
    · exact absurd hd (by simp)
  | openGate => exact ⟨rfl, rfl, fun d hd => (hstill (by simp) d hd).elim⟩
  | call p call =>
    have hsilent : (h.act (.call p call)).1.answers place = [] ∧
        (h.act (.call p call)).1.ended place = [] := by
      simp only [act]
      cases hp : h.dispatchers[p]? with
      | none => exact ⟨rfl, rfl⟩
      | some d' =>
        refine serve_silent ?_ d' call
        rintro rfl
        exact absurd (hnone.symm.trans hp) (by simp)
    exact ⟨hsilent.1, hsilent.2, fun d hd => (hstill (by simp) d hd).elim⟩
  | poll judge id =>
    have hsilent : (h.act (.poll judge id)).1.answers place = [] ∧
        (h.act (.poll judge id)).1.ended place = [] := by
      simp only [act]
      cases hf : h.tasks.find? (·.id == id) with
      | none => exact ⟨rfl, rfl⟩
      | some t =>
        have hne : t.owner ≠ place := by
          have := hs.owner t (List.mem_of_find?_eq_some hf)
          omega
        exact ⟨rfl, ended_polled_of_ne hne _⟩
    exact ⟨hsilent.1, hsilent.2, fun d hd => (hstill (by simp) d hd).elim⟩

section Runs

variable (catalog : PluginSource) (cached gated : Bool)

theorem sound_run (actions : List Action) :
    ((start catalog cached gated).run actions).Sound := by
  induction actions using List.reverseRecOn with
  | nil => exact sound_start catalog cached gated
  | append_singleton as a ih =>
    rw [run_concat]
    exact ih.act a

/-- A dispatcher that is there stays there. -/
theorem run_present {h : Hub} (hs : h.Sound) {place : Nat} {d : Dispatcher}
    (hd : h.dispatchers[place]? = some d) (later : List Action) :
    ∃ d', (h.run later).dispatchers[place]? = some d' := by
  induction later generalizing h d with
  | nil => exact ⟨d, hd⟩
  | cons a rest ih =>
    obtain ⟨d', hd', -⟩ := act_move hs hd a
    exact ih (hs.act a) hd'

/-- A dispatcher that is not there yet has not answered and ended nothing; seen from one that is
there, the run is a course. -/
theorem run_absent_or_course (place : Nat) (actions : List Action) :
    (((start catalog cached gated).run actions).dispatchers[place]? = none →
      answersTo place ((start catalog cached gated).log actions) = [] ∧
        endedAt place ((start catalog cached gated).log actions) = []) ∧
    (∀ d, ((start catalog cached gated).run actions).dispatchers[place]? = some d →
      Course d (((start catalog cached gated).run actions).jobs place)
        (answersTo place ((start catalog cached gated).log actions))
        (endedAt place ((start catalog cached gated).log actions))) := by
  induction actions using List.reverseRecOn with
  | nil => exact ⟨fun _ => ⟨rfl, rfl⟩, fun d hd => absurd hd (by simp [start])⟩
  | append_singleton as a ih =>
    have hs := sound_run catalog cached gated as
    rw [run_concat, log_concat, answersTo_concat, endedAt_concat]
    cases hold : ((start catalog cached gated).run as).dispatchers[place]? with
    | none =>
      obtain ⟨hanswers, hended⟩ := ih.1 hold
      obtain ⟨hanswer, hend, hnew⟩ := act_absent hs hold a
      rw [hanswers, hended, hanswer, hend]
      refine ⟨fun _ => ⟨rfl, rfl⟩, fun d hd => ?_⟩
      obtain ⟨hjobs, process, handlers, rfl⟩ := hnew d hd
      rw [hjobs]
      exact Course.made process handlers
    | some d =>
      obtain ⟨d', hd', hmove⟩ := act_move hs hold a
      refine ⟨fun hnone => absurd (hnone.symm.trans hd') (by simp), fun d'' hd'' => ?_⟩
      obtain rfl : d' = d'' := Option.some.inj (hd'.symm.trans hd'')
      exact Course.move (ih.2 d hold) hmove

/-- **Every run is a course**, seen from any of its dispatchers. -/
theorem run_course {place : Nat} {actions : List Action} {d : Dispatcher}
    (hd : ((start catalog cached gated).run actions).dispatchers[place]? = some d) :
    Course d (((start catalog cached gated).run actions).jobs place)
      (answersTo place ((start catalog cached gated).log actions))
      (endedAt place ((start catalog cached gated).log actions)) :=
  (run_absent_or_course catalog cached gated place actions).2 d hd

/-- Rows and tasks match at every point of a run that does not submit too often. -/
theorem run_matched {place : Nat} {actions : List Action} {d : Dispatcher}
    (hd : ((start catalog cached gated).run actions).dispatchers[place]? = some d)
    (few : submissionsTo place actions < UInt64.size) :
    Matched d (((start catalog cached gated).run actions).jobs place) :=
  (run_course catalog cached gated hd).matched (length_answersTo_lt _ few)

/-- Such a run gives out fewer numbers than there are. -/
theorem run_made_lt {place : Nat} {actions : List Action} {d : Dispatcher}
    (hd : ((start catalog cached gated).run actions).dispatchers[place]? = some d)
    (few : submissionsTo place actions < UInt64.size) : d.cancels.made < UInt64.size :=
  Nat.lt_of_le_of_lt (run_course catalog cached gated hd).made_le (length_answersTo_lt _ few)

end Runs

end PluginArbiter.Hub
