/-
# What a step does to one dispatcher

A run mixes many dispatchers, their tasks and a shared catalog.  Seen from one dispatcher there is
much less: a table and the submissions that have a task.  This module says once what a step can do
to this pair.  It is one of seven moves (`Move`), each of which is an operation of the dispatcher
itself, together with what it does to the list of submissions; the catalog, other dispatchers and
the numbers of tasks do not appear.  Invariants of runs are then shown move by move.

Along with a move go the answers to those who submit (`Event.answers`) and the submissions that the
step ends, with the way in which they end (`Event.ended`).

Main statements:
* `serve_eq`: everything a call does;
* `pollTask_polled`, `pollTask_outcome`: everything a poll can do, with the catalog and without;
* `act_move`: every step is a move, seen from any dispatcher;
* `Sound.act`: tasks keep their numbers apart and their owners exist.
-/
import PluginArbiter.Dispatch.Run
import PluginArbiter.Proofs.Dispatch.Matching

namespace PluginArbiter

/-! ## 1. Fates -/

/-- A submission as its dispatcher tells it from all others. -/
structure Ticket where
  token : Token
  seq : UInt64
  deriving DecidableEq

/-- The ticket of a submission. -/
def Submission.ticket (s : Submission) : Ticket := ⟨s.token, s.seq⟩

/-- The ticket of the submission that has a row. -/
def Row.ticket (row : Row) : Ticket := ⟨row.1, row.2.seq⟩

@[simp] theorem Row.ticket_row (s : Submission) : Row.ticket s.row = s.ticket := rfl

/-- How an accepted submission ends. -/
inductive Fate
  /-- The sink was told its verdict. -/
  | told
  /-- It was concluded when the sink was gone. -/
  | unheard
  /-- It was cancelled by its token. -/
  | cancelled
  /-- It was cancelled with its frame. -/
  | frameCancelled
  /-- It was cleared when the dispatcher shut down. -/
  | cleared
  deriving DecidableEq

/-- Whether a submission with this fate was withdrawn by its user. -/
def Fate.isWithdrawal : Fate → Bool
  | cancelled | frameCancelled | cleared => true
  | told | unheard => false

/-- The fate of a submission that was concluded; one that is stale had met its fate before. -/
def Dispatcher.Conclusion.fate : Dispatcher.Conclusion → List Fate
  | stale => []
  | told => [.told]
  | unheard => [.unheard]

/-- What stays the same of a task as long as it is there. -/
def Task.key (t : Task) : Nat × Nat × Submission := (t.id, t.owner, t.submission)

theorem Task.id_of_key {t u : Task} (h : u.key = t.key) : u.id = t.id := (Prod.mk.inj h).1

theorem Task.owner_of_key {t u : Task} (h : u.key = t.key) : u.owner = t.owner :=
  (Prod.mk.inj (Prod.mk.inj h).2).1

theorem Task.submission_of_key {t u : Task} (h : u.key = t.key) : u.submission = t.submission :=
  (Prod.mk.inj (Prod.mk.inj h).2).2

namespace Hub

/-- The answer that a step gives to who submits at a place, if it gives one. -/
def Event.answers (place : Nat) : Event → List (Except DispatchError Submission)
  | .submitted p result => if p = place then [result] else []
  | _ => []

/-- The submissions that a step ends at a place, each with its fate. -/
def Event.ended (place : Nat) : Event → List (Fate × Ticket)
  | .cancelled p token entry =>
    if p = place then entry.toList.map fun e => (.cancelled, ⟨token, e.seq⟩) else []
  | .frameCancelled p rows =>
    if p = place then rows.map fun row => (.frameCancelled, row.ticket) else []
  | .shut p rows => if p = place then rows.map fun row => (.cleared, row.ticket) else []
  | .polled t (.concluded how _) =>
    if t.owner = place then how.fate.map fun f => (f, t.submission.ticket) else []
  | _ => []

/-! ## 2. What a call does -/

/-- What a call makes of the dispatcher it is made on. -/
def served (d : Dispatcher) : Call → Dispatcher
  | .submit token request => (d.accept token request).2
  | .cancel token => (d.cancel token).2
  | .cancelFrame frame => (d.cancelFrame frame).2
  | .shut => d.shut.2
  | .drop => ({ d with isDropped := true } : Dispatcher).shut.2
  | .dropSink => d.dropSink
  | .closeReceiver => d.closeReceiver

/-- The submissions that a call brings in. -/
def brings (d : Dispatcher) : Call → List Submission
  | .submit token request => Dispatcher.admitted (d.accept token request).1
  | _ => []

/-- **Everything a call does**: it replaces its dispatcher, and what it brings in gets a task. -/
theorem serve_eq (h : Hub) (p : Nat) (d : Dispatcher) (call : Call) :
    (h.serve p d call).2 =
      { h.setDispatcher p (served d call) with
        tasks := h.tasks ++
          (brings d call).map fun s => { id := h.nextTask, owner := p, submission := s }
        nextTask := h.nextTask + (brings d call).length } := by
  have hnone : ∀ d' : Dispatcher, h.setDispatcher p d' =
      { h.setDispatcher p d' with tasks := h.tasks ++ [], nextTask := h.nextTask + 0 } := by
    intro d'
    rw [List.append_nil]
    rfl
  cases call with
  | submit token request =>
    simp only [serve, Hub.submit, served, brings]
    cases hacc : d.accept token request with
    | mk result d' =>
      cases result with
      | error e => exact hnone d'
      | ok s => rfl
  | cancel token => exact hnone _
  | cancelFrame frame => exact hnone _
  | shut => exact hnone _
  | drop => exact hnone _
  | dropSink => exact hnone _
  | closeReceiver => exact hnone _

/-- A call brings in one submission at most. -/
theorem brings_cases (d : Dispatcher) (call : Call) :
    brings d call = [] ∨ ∃ s, brings d call = [s] := by
  cases call with
  | submit token request =>
    simp only [brings]
    cases (d.accept token request).1 with
    | error e => exact Or.inl rfl
    | ok s => exact Or.inr ⟨s, rfl⟩
  | _ => exact Or.inl rfl

/-! ## 3. What a poll can do -/

/-- Everything that a poll of the task `t` can do, with what makes it do so. -/
inductive Polled (judge : Judge) (h : Hub) (t : Task) : Progress × Hub → Prop
  | withdrawn (cancelled : h.isCancelled t = true) :
    Polled judge h t (.withdrawn, h.withdraw t)
  | held (live : h.isCancelled t = false) (number : Nat) (stage : t.stage = .enumerating number)
    (closed : h.supply.gateOpen = false) :
    Polled judge h t (.idle, h)
  | answered (live : h.isCancelled t = false) (number : Nat)
    (stage : t.stage = .enumerating number) (isOpen : h.supply.gateOpen = true) :
    Polled judge h t (finish judge h t number)
  | served (live : h.isCancelled t = false) (stage : t.stage = .asking)
    (plugins : List PluginDescriptor) (supply : Supply)
    (ask : h.supply.ask t.id = (.stored plugins, supply)) :
    Polled judge h t (conclude judge { h with supply } t (.ok plugins))
  | waiting (live : h.isCancelled t = false) (stage : t.stage = .asking) (supply : Supply)
    (ask : h.supply.ask t.id = (.wait, supply)) :
    Polled judge h t (.idle, { h with supply })
  | started (live : h.isCancelled t = false) (stage : t.stage = .asking) (supply : Supply)
    (ask : h.supply.ask t.id = (.turn, supply)) (closed : supply.gateOpen = false) :
    Polled judge h t
      (.started, { h with supply := supply.start.2 }.setStage t.id (.enumerating supply.start.1))
  | enumerated (live : h.isCancelled t = false) (stage : t.stage = .asking) (supply : Supply)
    (ask : h.supply.ask t.id = (.turn, supply)) (isOpen : supply.gateOpen = true) :
    Polled judge h t (finish judge { h with supply := supply.start.2 } t supply.start.1)

/-- **Everything a poll can do.** -/
theorem pollTask_polled (judge : Judge) (h : Hub) (t : Task) :
    Polled judge h t (h.pollTask judge t) := by
  unfold pollTask
  cases hc : h.isCancelled t with
  | true => exact .withdrawn hc
  | false =>
    simp only [Bool.false_eq_true, if_false]
    cases hst : t.stage with
    | enumerating number =>
      cases hg : h.supply.gateOpen with
      | true => exact .answered hc number hst hg
      | false => exact .held hc number hst hg
    | asking =>
      cases hask : h.supply.ask t.id with
      | mk admission supply =>
        cases admission with
        | stored plugins => exact .served hc hst plugins supply hask
        | wait => exact .waiting hc hst supply hask
        | turn =>
          cases hg : supply.gateOpen with
          | true =>
            have hstart : supply.start.2.gateOpen = true := hg
            simp only [hstart, if_true]
            exact .enumerated hc hst supply hask hg
          | false =>
            have hstart : supply.start.2.gateOpen = false := hg
            simp only [hstart, Bool.false_eq_true, if_false]
            exact .started hc hst supply hask hg

/-- The three things that a poll can be to a dispatcher: its task was cancelled and ends, it ends
with a verdict, or it goes on and nothing changes but the catalog and how far it has come. -/
inductive Outcome (judge : Judge) (h : Hub) (t : Task) : Progress × Hub → Prop
  | withdrawn (cancelled : h.isCancelled t = true) :
    Outcome judge h t (.withdrawn, h.withdraw t)
  | concluded (live : h.isCancelled t = false) (supply : Supply) (answer : CatalogAnswer) :
    Outcome judge h t (conclude judge { h with supply } t answer)
  | goesOn (progress : Progress) (rests : progress = .idle ∨ progress = .started) (h' : Hub)
    (dispatchers : h'.dispatchers = h.dispatchers)
    (keys : h'.tasks.map Task.key = h.tasks.map Task.key) (nextTask : h'.nextTask = h.nextTask) :
    Outcome judge h t (progress, h')

theorem key_setStage (h : Hub) (id : Nat) (stage : Stage) :
    (h.setStage id stage).tasks.map Task.key = h.tasks.map Task.key := by
  simp only [setStage, List.map_map]
  refine List.map_congr_left fun t _ => ?_
  rw [Function.comp_apply]
  split <;> rfl

/-- **Everything a poll can be to a dispatcher.** -/
theorem pollTask_outcome (judge : Judge) (h : Hub) (t : Task) :
    Outcome judge h t (h.pollTask judge t) := by
  have hp := pollTask_polled judge h t
  generalize h.pollTask judge t = outcome at hp ⊢
  cases hp with
  | withdrawn cancelled => exact .withdrawn cancelled
  | held live number stage closed => exact .goesOn _ (Or.inl rfl) h rfl rfl rfl
  | answered live number stage isOpen => exact .concluded live _ _
  | served live stage plugins supply ask => exact .concluded live supply _
  | waiting live stage supply ask => exact .goesOn _ (Or.inl rfl) _ rfl rfl rfl
  | started live stage supply ask closed =>
    exact .goesOn _ (Or.inr rfl) _ rfl
      (key_setStage { h with supply := supply.start.2 } t.id _) rfl
  | enumerated live stage supply ask isOpen => exact .concluded live _ _

/-! ## 4. The tasks of a hub -/

/-- The submissions of the dispatcher at a place that have a task, the oldest first. -/
def jobs (h : Hub) (place : Nat) : List Submission :=
  (h.tasks.filter fun t => t.owner = place).map (·.submission)

/-- A task has its submission among those of its owner. -/
theorem submission_mem_jobs {h : Hub} {t : Task} (ht : t ∈ h.tasks) :
    t.submission ∈ h.jobs t.owner :=
  List.mem_map_of_mem (List.mem_filter.mpr ⟨ht, by simp⟩)

/-- Every submission that has a task has it with the dispatcher it was made to. -/
theorem exists_of_mem_jobs {h : Hub} {place : Nat} {s : Submission} (hs : s ∈ h.jobs place) :
    ∃ t ∈ h.tasks, t.owner = place ∧ t.submission = s := by
  obtain ⟨t, ht, rfl⟩ := List.mem_map.mp hs
  obtain ⟨hmem, howner⟩ := List.mem_filter.mp ht
  exact ⟨t, hmem, by simpa using howner, rfl⟩

/-- Tasks have numbers of their own, below the next one, and owners that exist. -/
structure Sound (h : Hub) : Prop where
  ids : (h.tasks.map (·.id)).Nodup
  fresh : ∀ t ∈ h.tasks, t.id < h.nextTask
  owner : ∀ t ∈ h.tasks, t.owner < h.dispatchers.length

/-- Tasks may go, and numbers and dispatchers may be added. -/
theorem Sound.of_sublist {h h' : Hub} (hs : h.Sound)
    (htasks : (h'.tasks.map Task.key).Sublist (h.tasks.map Task.key))
    (hnext : h.nextTask ≤ h'.nextTask) (hlen : h.dispatchers.length ≤ h'.dispatchers.length) :
    h'.Sound := by
  have hold : ∀ t ∈ h'.tasks, ∃ u ∈ h.tasks, u.key = t.key := fun t ht =>
    List.mem_map.mp (htasks.subset (List.mem_map_of_mem ht))
  refine ⟨?_, ?_, ?_⟩
  · have hids := htasks.map Prod.fst
    rw [List.map_map, List.map_map] at hids
    exact hs.ids.sublist hids
  · intro t ht
    obtain ⟨u, hu, hkey⟩ := hold t ht
    rw [← Task.id_of_key hkey]
    exact Nat.lt_of_lt_of_le (hs.fresh u hu) hnext
  · intro t ht
    obtain ⟨u, hu, hkey⟩ := hold t ht
    rw [← Task.owner_of_key hkey]
    exact Nat.lt_of_lt_of_le (hs.owner u hu) hlen

/-- Where nothing is repeated, one thing is taken out. -/
theorem filter_ne_middle {α β : Type} [DecidableEq β] (f : α → β) {before after : List α} {x : α}
    (hn : ((before ++ x :: after).map f).Nodup) :
    (before ++ x :: after).filter (fun y => f y ≠ f x) = before ++ after := by
  rw [List.map_append, List.map_cons, List.nodup_middle, List.nodup_cons, List.mem_append] at hn
  have hkeep : ∀ l : List α, f x ∉ l.map f → l.filter (fun y => f y ≠ f x) = l := by
    intro l hl
    refine List.filter_eq_self.mpr fun y hy => ?_
    have hne : f y ≠ f x := fun he => hl (he ▸ List.mem_map_of_mem hy)
    simpa using hne
  rw [List.filter_append, List.filter_cons, if_neg (by simp),
    hkeep before fun hm => hn.1 (Or.inl hm), hkeep after fun hm => hn.1 (Or.inr hm)]

/-- Taking a task out leaves the others in their order. -/
theorem Sound.removeTask_eq {h : Hub} (hs : h.Sound) {t : Task} (ht : t ∈ h.tasks) :
    ∃ before after, h.tasks = before ++ t :: after ∧
      (h.removeTask t.id).tasks = before ++ after := by
  obtain ⟨before, after, heq⟩ := List.append_of_mem ht
  have hids := hs.ids
  rw [heq] at hids
  refine ⟨before, after, heq, ?_⟩
  change h.tasks.filter (fun u => u.id ≠ t.id) = _
  rw [heq, filter_ne_middle Task.id hids]

/-- When a task is taken out, its submission goes from those of its owner. -/
theorem Sound.jobs_removeTask_owner {h : Hub} (hs : h.Sound) {t : Task} (ht : t ∈ h.tasks) :
    ∃ before after, h.jobs t.owner = before ++ t.submission :: after ∧
      (h.removeTask t.id).jobs t.owner = before ++ after := by
  obtain ⟨before, after, heq, hrem⟩ := hs.removeTask_eq ht
  refine ⟨(before.filter fun u => u.owner = t.owner).map (·.submission),
    (after.filter fun u => u.owner = t.owner).map (·.submission), ?_, ?_⟩
  · simp [jobs, heq]
  · simp [jobs, hrem]

/-- Other dispatchers keep theirs. -/
theorem jobs_removeTask_of_ne {h : Hub} (hs : h.Sound) {t : Task} (ht : t ∈ h.tasks) {place : Nat}
    (hne : t.owner ≠ place) : (h.removeTask t.id).jobs place = h.jobs place := by
  obtain ⟨before, after, heq, hrem⟩ := hs.removeTask_eq ht
  simp [jobs, heq, hrem, hne]

/-- How far tasks have come does not matter to the submissions. -/
theorem jobs_congr {h h' : Hub} (keys : h'.tasks.map Task.key = h.tasks.map Task.key)
    (place : Nat) : h'.jobs place = h.jobs place := by
  have hkeys : ∀ h : Hub, h.jobs place
      = ((h.tasks.map Task.key).filter fun k => k.2.1 = place).map (·.2.2) := by
    intro h
    rw [jobs, List.filter_map, List.map_map]
    rfl
  rw [hkeys, hkeys, keys]

/-- What a call brings in joins the submissions of its dispatcher. -/
theorem jobs_serve (h : Hub) (p : Nat) (d : Dispatcher) (call : Call) (place : Nat) :
    (h.serve p d call).2.jobs place
      = h.jobs place ++ if p = place then brings d call else [] := by
  rw [serve_eq]
  by_cases hp : p = place <;>
    simp [jobs, hp, List.filter_map, List.map_map, Function.comp_def]

/-- What the end of a task does to everything but its owner. -/
structure Ends (h : Hub) (t : Task) (h' : Hub) : Prop where
  tasks : h'.tasks = (h.removeTask t.id).tasks
  nextTask : h'.nextTask = h.nextTask
  length : h'.dispatchers.length = h.dispatchers.length

theorem length_setDispatcher (h : Hub) (p : Nat) (d' : Dispatcher) :
    (h.setDispatcher p d').dispatchers.length = h.dispatchers.length :=
  List.length_set

theorem conclude_ends (judge : Judge) (h : Hub) (t : Task) (answer : CatalogAnswer) :
    h.Ends t (conclude judge h t answer).2 := by
  simp only [conclude]
  split
  · exact ⟨rfl, rfl, rfl⟩
  · exact ⟨rfl, rfl, length_setDispatcher (h.removeTask t.id) _ _⟩

theorem withdraw_ends (h : Hub) (t : Task) : h.Ends t (h.withdraw t) := by
  simp only [withdraw]
  split
  · exact ⟨rfl, rfl, rfl⟩
  · exact ⟨rfl, rfl, length_setDispatcher (h.removeTask t.id) _ _⟩

/-! ## 5. Moves -/

/-- What a step can do to a dispatcher and the submissions that have a task, with the answers it
gives to who submits and the submissions it ends. -/
inductive Move :
    Dispatcher → List Submission → List (Except DispatchError Submission) →
      List (Fate × Ticket) → Dispatcher → List Submission → Prop
  /-- Nothing happens to any submission. -/
  | rest {d d' : Dispatcher} {jobs : List Submission} (same : d.SameBooks d') :
    Move d jobs [] [] d' jobs
  /-- A submission is accepted or refused. -/
  | submit {d : Dispatcher} {jobs : List Submission} (token : Token) (request : Request) :
    Move d jobs [(d.accept token request).1] [] (d.accept token request).2
      (jobs ++ Dispatcher.admitted (d.accept token request).1)
  /-- What is under a token is cancelled. -/
  | cancel {d : Dispatcher} {jobs : List Submission} (token : Token) :
    Move d jobs [] ((d.cancel token).1.toList.map fun e => (.cancelled, ⟨token, e.seq⟩))
      (d.cancel token).2 jobs
  /-- A frame is cancelled. -/
  | cancelFrame {d : Dispatcher} {jobs : List Submission} (frame : FrameId) :
    Move d jobs [] ((d.cancelFrame frame).1.map fun row => (.frameCancelled, row.ticket))
      (d.cancelFrame frame).2 jobs
  /-- The dispatcher is shut down, or dropped. -/
  | shut {d d' : Dispatcher} {jobs : List Submission} (same : d.SameBooks d') :
    Move d jobs [] (d'.shut.1.map fun row => (.cleared, row.ticket)) d'.shut.2 jobs
  /-- The task of a live submission ends with a verdict. -/
  | conclude {d : Dispatcher} {before after : List Submission} {s : Submission}
    (live : d.cancels.isCancelled s.cancel = false) (verdict : Verdict) :
    Move d (before ++ s :: after) [] ((d.conclude s verdict).1.fate.map fun f => (f, s.ticket))
      (d.conclude s verdict).2 (before ++ after)
  /-- The task of a cancelled submission ends. -/
  | withdraw {d : Dispatcher} {before after : List Submission} {s : Submission}
    (cancelled : d.cancels.isCancelled s.cancel = true) :
    Move d (before ++ s :: after) [] [] (d.withdraw s) (before ++ after)

/-- The dispatcher at a place after another, or itself, was replaced. -/
theorem getElem?_setDispatcher {h : Hub} {p place : Nat} {d d' : Dispatcher}
    (hd : h.dispatchers[place]? = some d) :
    (h.setDispatcher p d').dispatchers[place]? = some (if p = place then d' else d) := by
  obtain ⟨hlt, -⟩ := List.getElem?_eq_some_iff.mp hd
  change (h.dispatchers.set p d')[place]? = _
  rw [List.getElem?_set]
  split
  · rename_i he
    rw [if_pos (he ▸ hlt)]
  · exact hd

variable {h : Hub} {place : Nat} {d : Dispatcher}

/-- The end of a cancelled task, seen from one dispatcher. -/
theorem dispatchers_withdraw (hd : h.dispatchers[place]? = some d)
    (t : Task) : (h.withdraw t).dispatchers[place]?
      = some (if t.owner = place then d.withdraw t.submission else d) := by
  simp only [withdraw]
  split
  · rename_i hnone
    have hne : t.owner ≠ place := fun he => absurd ((he ▸ hnone).symm.trans hd) (by simp)
    rw [if_neg hne]
    exact hd
  · rename_i d₁ hsome
    refine (getElem?_setDispatcher
      (h := ({ h with supply := h.supply.leave t.id } : Hub).removeTask t.id) hd).trans ?_
    split
    · rename_i he
      obtain rfl : d₁ = d := Option.some.inj ((he ▸ hsome).symm.trans hd)
      rfl
    · rfl

/-- The end of a task with a verdict, seen from one dispatcher. -/
theorem dispatchers_conclude (hd : h.dispatchers[place]? = some d)
    (judge : Judge) (t : Task) (answer : CatalogAnswer) :
    (conclude judge h t answer).2.dispatchers[place]?
      = some (if t.owner = place then
          (d.conclude t.submission (judge t.submission.request answer)).2 else d) := by
  simp only [conclude]
  split
  · rename_i hnone
    have hne : t.owner ≠ place := fun he => absurd ((he ▸ hnone).symm.trans hd) (by simp)
    rw [if_neg hne]
    exact hd
  · rename_i d₁ hsome
    refine (getElem?_setDispatcher (h := h.removeTask t.id) hd).trans ?_
    split
    · rename_i he
      obtain rfl : d₁ = d := Option.some.inj ((he ▸ hsome).symm.trans hd)
      rfl
    · rfl

/-- The dispatcher at a place after a call on another, or on itself. -/
theorem getElem?_serve (hd : h.dispatchers[place]? = some d) (p : Nat) (d' : Dispatcher)
    (call : Call) :
    (h.serve p d' call).2.dispatchers[place]? = some (if p = place then served d' call else d) := by
  rw [serve_eq]
  exact getElem?_setDispatcher hd

/-- A call is a move of the dispatcher it is made on. -/
theorem serve_move (d : Dispatcher) (jobs : List Submission) (h : Hub) (place : Nat) (call : Call) :
    Move d jobs ((h.serve place d call).1.answers place) ((h.serve place d call).1.ended place)
      (served d call) (jobs ++ brings d call) := by
  cases call with
  | submit token request =>
    have hanswer : (h.submit place d token request).1 = (d.accept token request).1 := by
      unfold Hub.submit
      split <;> simp [*]
    simp only [serve, Event.answers, Event.ended, ↓reduceIte, hanswer]
    exact Move.submit token request
  | cancel token =>
    simp only [serve, Event.answers, Event.ended, ↓reduceIte, brings, List.append_nil]
    exact Move.cancel token
  | cancelFrame frame =>
    simp only [serve, Event.answers, Event.ended, ↓reduceIte, brings, List.append_nil]
    exact Move.cancelFrame frame
  | shut =>
    simp only [serve, Event.answers, Event.ended, ↓reduceIte, brings, List.append_nil]
    exact Move.shut (Dispatcher.SameBooks.refl d)
  | drop =>
    simp only [serve, Event.answers, Event.ended, ↓reduceIte, brings, List.append_nil]
    exact Move.shut ⟨rfl, rfl, rfl, rfl⟩
  | dropSink =>
    simp only [brings, List.append_nil]
    exact Move.rest (Dispatcher.SameBooks.dropSink d)
  | closeReceiver =>
    simp only [brings, List.append_nil]
    exact Move.rest (Dispatcher.SameBooks.closeReceiver d)

/-- A call on one dispatcher answers nothing and ends nothing at another. -/
theorem serve_silent {p : Nat} (hne : p ≠ place) (d : Dispatcher) (call : Call) :
    (h.serve p d call).1.answers place = [] ∧ (h.serve p d call).1.ended place = [] := by
  cases call <;> simp [serve, Event.answers, Event.ended, hne]

/-- The end of a task with a verdict is a move of its owner, and of nobody else. -/
theorem conclude_move (hs : h.Sound) (hd : h.dispatchers[place]? = some d) {t : Task}
    (ht : t ∈ h.tasks) (live : h.isCancelled t = false) (judge : Judge) (answer : CatalogAnswer) :
    ∃ d', (conclude judge h t answer).2.dispatchers[place]? = some d' ∧
      Move d (h.jobs place) [] ((Event.polled t (conclude judge h t answer).1).ended place) d'
        ((conclude judge h t answer).2.jobs place) := by
  have hlt := hs.owner t ht
  have howner : (h.removeTask t.id).dispatchers[t.owner]? = some h.dispatchers[t.owner] :=
    List.getElem?_eq_getElem hlt
  simp only [conclude, howner, Event.ended]
  rw [getElem?_setDispatcher (h := h.removeTask t.id) hd]
  refine ⟨_, rfl, ?_⟩
  by_cases he : t.owner = place
  · subst he
    obtain ⟨before, after, hjobs, hrem⟩ := hs.jobs_removeTask_owner ht
    obtain rfl : h.dispatchers[t.owner] = d := by
      rw [List.getElem?_eq_getElem hlt] at hd
      exact Option.some.inj hd
    have hlive : (h.dispatchers[t.owner]).cancels.isCancelled t.submission.cancel = false := by
      simpa only [isCancelled, hd] using live
    simp only [↓reduceIte]
    change Move _ _ [] _ _ ((h.removeTask t.id).jobs t.owner)
    rw [hjobs, hrem]
    exact Move.conclude hlive _
  · simp only [if_neg he]
    change Move _ _ [] _ _ ((h.removeTask t.id).jobs place)
    rw [jobs_removeTask_of_ne hs ht he]
    exact Move.rest (Dispatcher.SameBooks.refl d)

/-- The end of a task that was cancelled is a move of its owner, and of nobody else. -/
theorem withdraw_move (hs : h.Sound) (hd : h.dispatchers[place]? = some d) {t : Task}
    (ht : t ∈ h.tasks) (cancelled : h.isCancelled t = true) :
    ∃ d', (h.withdraw t).dispatchers[place]? = some d' ∧
      Move d (h.jobs place) [] [] d' ((h.withdraw t).jobs place) := by
  have hleft : (h.withdraw t).jobs place = (h.removeTask t.id).jobs place := by
    rw [jobs, (withdraw_ends h t).tasks]
    rfl
  rw [hleft]
  refine ⟨_, dispatchers_withdraw hd t, ?_⟩
  by_cases he : t.owner = place
  · subst he
    obtain ⟨before, after, hjobs, hrem⟩ := hs.jobs_removeTask_owner ht
    have hcancelled : d.cancels.isCancelled t.submission.cancel = true := by
      simpa only [isCancelled, hd] using cancelled
    rw [if_pos rfl, hjobs, hrem]
    exact Move.withdraw hcancelled
  · rw [if_neg he, jobs_removeTask_of_ne hs ht he]
    exact Move.rest (Dispatcher.SameBooks.refl d)

/-- A poll is a move. -/
theorem pollTask_move (hs : h.Sound) (hd : h.dispatchers[place]? = some d) {t : Task}
    (ht : t ∈ h.tasks) (judge : Judge) :
    ∃ d', (h.pollTask judge t).2.dispatchers[place]? = some d' ∧
      Move d (h.jobs place) [] ((Event.polled t (h.pollTask judge t).1).ended place) d'
        ((h.pollTask judge t).2.jobs place) := by
  have hp := pollTask_outcome judge h t
  generalize h.pollTask judge t = outcome at hp ⊢
  cases hp with
  | withdrawn cancelled => exact withdraw_move hs hd ht cancelled
  | concluded live supply answer =>
    -- the supply plays no part in what `Sound`, `isCancelled` and `jobs` say of a hub
    exact conclude_move (h := { h with supply }) ⟨hs.ids, hs.fresh, hs.owner⟩ hd ht live judge answer
  | goesOn progress rests h' dispatchers keys nextTask =>
    refine ⟨d, by rw [dispatchers, hd], ?_⟩
    rw [jobs_congr keys]
    rcases rests with rfl | rfl <;> exact Move.rest (Dispatcher.SameBooks.refl d)

/-- **Every step is a move**, seen from any dispatcher that is there. -/
theorem act_move (hs : h.Sound) (hd : h.dispatchers[place]? = some d) (a : Action) :
    ∃ d', (h.act a).2.dispatchers[place]? = some d' ∧
      Move d (h.jobs place) ((h.act a).1.answers place) ((h.act a).1.ended place) d'
        ((h.act a).2.jobs place) := by
  have hrest : Move d (h.jobs place) [] [] d (h.jobs place) :=
    Move.rest (Dispatcher.SameBooks.refl d)
  cases a with
  | addDispatcher process handlers =>
    refine ⟨d, ?_, hrest⟩
    obtain ⟨hlt, -⟩ := List.getElem?_eq_some_iff.mp hd
    exact (List.getElem?_append_left hlt).trans hd
  | call p call =>
    simp only [act]
    cases hp : h.dispatchers[p]? with
    | none => exact ⟨d, hd, hrest⟩
    | some d' =>
      refine ⟨_, getElem?_serve hd p d' call, ?_⟩
      rw [jobs_serve]
      by_cases he : p = place
      · subst he
        obtain rfl : d' = d := Option.some.inj (hp.symm.trans hd)
        simp only [↓reduceIte]
        exact serve_move d' (h.jobs p) h p call
      · obtain ⟨hanswers, hended⟩ := serve_silent he d' call (h := h)
        rw [if_neg he, if_neg he, hanswers, hended, List.append_nil]
        exact hrest
  | openGate => exact ⟨d, hd, hrest⟩
  | poll judge id =>
    simp only [act]
    cases hf : h.tasks.find? (·.id == id) with
    | none => exact ⟨d, hd, hrest⟩
    | some t =>
      obtain ⟨d', hd', hmove⟩ := pollTask_move hs hd (List.mem_of_find?_eq_some hf) judge
      exact ⟨d', hd', hmove⟩

/-! ## 6. Tasks keep their numbers apart -/

/-- A task that ends leaves the others sound. -/
theorem Sound.ends {h' : Hub} (hs : h.Sound) {t : Task} (he : h.Ends t h') : h'.Sound := by
  refine hs.of_sublist ?_ (Nat.le_of_eq he.nextTask.symm) (Nat.le_of_eq he.length.symm)
  rw [he.tasks]
  exact List.filter_sublist.map _

theorem Sound.pollTask (hs : h.Sound) (judge : Judge) (t : Task) :
    (h.pollTask judge t).2.Sound := by
  have hp := pollTask_outcome judge h t
  generalize h.pollTask judge t = outcome at hp ⊢
  cases hp with
  | withdrawn cancelled => exact hs.ends (withdraw_ends h t)
  | concluded live supply answer =>
    exact Sound.ends (h := { h with supply }) ⟨hs.ids, hs.fresh, hs.owner⟩
      (conclude_ends judge _ t answer)
  | goesOn progress rests h' dispatchers keys nextTask =>
    exact hs.of_sublist (keys ▸ List.Sublist.refl _) (Nat.le_of_eq nextTask.symm)
      (Nat.le_of_eq (congrArg List.length dispatchers).symm)

/-- A submission that comes in gets a task with a number that no task had. -/
theorem Sound.enter (hs : h.Sound) (hlt : place < h.dispatchers.length) (s : Submission) :
    ({ h with
      tasks := h.tasks ++ [{ id := h.nextTask, owner := place, submission := s }]
      nextTask := h.nextTask + 1 } : Hub).Sound := by
  refine ⟨?_, ?_, ?_⟩
  · rw [List.map_append]
    refine List.Nodup.append hs.ids (List.nodup_singleton _) ?_
    rw [List.map_singleton, List.disjoint_singleton]
    intro hm
    obtain ⟨t, ht, he⟩ := List.mem_map.mp hm
    have hlt' := hs.fresh t ht
    have hid : t.id = h.nextTask := he
    omega
  · intro t ht
    rcases List.mem_append.mp ht with hold | hnew
    · exact Nat.lt_succ_of_lt (hs.fresh t hold)
    · rw [List.mem_singleton.mp hnew]
      exact Nat.lt_succ_self _
  · intro t ht
    rcases List.mem_append.mp ht with hold | hnew
    · exact hs.owner t hold
    · rw [List.mem_singleton.mp hnew]
      exact hlt

theorem Sound.setDispatcher (hs : h.Sound) (p : Nat) (d' : Dispatcher) :
    (h.setDispatcher p d').Sound :=
  hs.of_sublist (List.Sublist.refl _) (Nat.le_refl _)
    (Nat.le_of_eq (length_setDispatcher h p d').symm)

theorem Sound.serve (hs : h.Sound) (hd : h.dispatchers[place]? = some d) (call : Call) :
    (h.serve place d call).2.Sound := by
  obtain ⟨hlt, -⟩ := List.getElem?_eq_some_iff.mp hd
  have hset := hs.setDispatcher place (served d call)
  rw [serve_eq]
  rcases brings_cases d call with hnone | ⟨s, hone⟩
  · rw [hnone, List.map_nil, List.append_nil]
    exact ⟨hset.ids, hset.fresh, hset.owner⟩
  · rw [hone]
    exact hset.enter (Nat.lt_of_lt_of_eq hlt (length_setDispatcher h place _).symm) s

/-- **Soundness is kept by every step.** -/
theorem Sound.act (hs : h.Sound) (a : Action) : (h.act a).2.Sound := by
  cases a with
  | addDispatcher process handlers =>
    exact hs.of_sublist (List.Sublist.refl _) (Nat.le_refl _) (by simp [Hub.act, addDispatcher])
  | call p call =>
    simp only [Hub.act]
    cases hp : h.dispatchers[p]? with
    | none => exact hs
    | some d' => exact hs.serve hp call
  | openGate => exact ⟨hs.ids, hs.fresh, hs.owner⟩
  | poll judge id =>
    simp only [Hub.act]
    cases h.tasks.find? (·.id == id) with
    | none => exact hs
    | some t => exact hs.pollTask judge t

/-- Before the first step there are no tasks. -/
theorem sound_start (catalog : PluginSource) (cached gated : Bool) :
    (start catalog cached gated).Sound := by
  constructor <;> simp [start]

/-- Only the making of a dispatcher changes their number. -/
theorem length_act (h : Hub) {a : Action} (hold : ∀ process handlers, a ≠ .addDispatcher process handlers) :
    (h.act a).2.dispatchers.length = h.dispatchers.length := by
  cases a with
  | addDispatcher process handlers => exact absurd rfl (hold process handlers)
  | call p call =>
    simp only [Hub.act]
    split
    · rfl
    · rw [serve_eq]
      exact length_setDispatcher h p _
  | openGate => rfl
  | poll judge id =>
    simp only [Hub.act]
    split
    · rfl
    · rename_i t _
      have hp := pollTask_outcome judge h t
      generalize h.pollTask judge t = outcome at hp ⊢
      cases hp with
      | withdrawn cancelled => exact (withdraw_ends h t).length
      | concluded live supply answer => exact (conclude_ends judge { h with supply } t answer).length
      | goesOn progress rests h' dispatchers keys nextTask => exact congrArg List.length dispatchers

end Hub

end PluginArbiter
