/-
# Nobody but the receiver notices that it is gone

A dispatcher holds its sink weakly.  The sink may be dropped, or the receiving end of its channel
closed, at any moment; then verdicts are lost, and that is all.  The row of a submission is taken
out before anybody looks for the sink, so the books of a dispatcher do not depend on who listens
(`served_withReceiver`, `withdraw_withReceiver`).

To compare two runs, one of which loses the receiver, both are muted: the sink of the dispatcher is
taken away and what it holds is forgotten.  A step of a muted state is the step of the state itself,
muted (`act_muted`), with the same event, except that a poll which would have told the sink finds
none (`Event.unheardAt`).  Losing the receiver is nothing at all to a muted state.  So two states
that are the same when muted stay so, however often tokens are used again, and whatever is submitted
after the loss.

Main statements:
* `serve_event`: what a call answers depends on the dispatcher alone;
* `act_muted`, `run_congr_muted`: steps and runs of muted states;
* `run_loss_unnoticed`: the run that loses the receiver and the one that does not.
-/
import PluginArbiter.Proofs.Dispatch.Shutdown

namespace PluginArbiter

/-! ## 1. The receiver and the books -/

namespace Dispatcher

/-- The dispatcher with another receiver. -/
def withReceiver (d : Dispatcher) (sink : Sink) (received : List (Token × Verdict)) : Dispatcher :=
  { d with sink, received }

section Operations

variable (d : Dispatcher) (sink : Sink) (received : List (Token × Verdict))

theorem accept_withReceiver (token : Token) (request : Request) :
    (d.withReceiver sink received).accept token request =
      ((d.accept token request).1, (d.accept token request).2.withReceiver sink received) := by
  unfold accept
  by_cases hshut : d.isShut = true
  · rw [if_pos hshut]
    exact if_pos hshut
  · rw [if_neg hshut]
    refine (if_neg hshut).trans ?_
    by_cases hprocess : request.process ≠ d.process
    · rw [if_pos hprocess]
      exact if_pos hprocess
    · rw [if_neg hprocess]
      refine (if_neg hprocess).trans ?_
      by_cases hused : (d.pending.lookup token).isSome = true
      · rw [if_pos hused]
        exact if_pos hused
      · rw [if_neg hused]
        exact if_neg hused

theorem cancel_withReceiver (token : Token) :
    (d.withReceiver sink received).cancel token =
      ((d.cancel token).1, (d.cancel token).2.withReceiver sink received) := by
  simp only [cancel, withReceiver]
  cases d.pending.lookup token <;> rfl

theorem shut_withReceiver :
    (d.withReceiver sink received).shut = (d.shut.1, d.shut.2.withReceiver sink received) := by
  unfold shut
  by_cases hshut : d.isShut = true
  · rw [if_pos hshut]
    exact if_pos hshut
  · rw [if_neg hshut]
    exact if_neg hshut

theorem release_withReceiver (s : Submission) :
    (d.withReceiver sink received).release s =
      ((d.release s).1, (d.release s).2.withReceiver sink received) := by
  simp only [release, withReceiver]
  cases d.pending.lookup s.token with
  | none => rfl
  | some entry => by_cases hseq : entry.seq = s.seq <;> simp [hseq]

theorem withdraw_withReceiver (s : Submission) :
    (d.withReceiver sink received).withdraw s = (d.withdraw s).withReceiver sink received := by
  rw [withdraw, release_withReceiver, withdraw]

end Operations

/-- Whether a submission that is concluded now has a verdict to be told. -/
def tellsOf (d : Dispatcher) (s : Submission) : Bool :=
  (d.release s).1 && !(d.withdraw s).cancels.isCancelled s.cancel

/-- **To conclude is to give the row up**, and then perhaps to tell. -/
theorem conclude_eq_tellsOf (d : Dispatcher) (s : Submission) (verdict : Verdict) :
    d.conclude s verdict =
      if d.tellsOf s then (d.withdraw s).tell s.token verdict else (.stale, d.withdraw s) := by
  simp only [conclude, tellsOf, withdraw]
  by_cases hopen : (d.release s).1 = true <;>
    by_cases hcancelled : (d.release s).2.cancels.isCancelled s.cancel = true <;>
    simp [hopen, hcancelled]

/-- Whether there is something to tell does not depend on who listens. -/
theorem tellsOf_withReceiver (d : Dispatcher) (s : Submission) (sink : Sink)
    (received : List (Token × Verdict)) :
    (d.withReceiver sink received).tellsOf s = d.tellsOf s := by
  rw [tellsOf, withdraw_withReceiver, release_withReceiver]
  rfl

/-- The dispatcher without a sink, and with nothing received. -/
def muted (d : Dispatcher) : Dispatcher := d.withReceiver .gone []

@[simp] theorem muted_withReceiver (d : Dispatcher) (sink : Sink)
    (received : List (Token × Verdict)) : (d.withReceiver sink received).muted = d.muted := rfl

@[simp] theorem muted_muted (d : Dispatcher) : d.muted.muted = d.muted := rfl

/-- Telling is not heard. -/
theorem muted_tell (d : Dispatcher) (token : Token) (verdict : Verdict) :
    (d.tell token verdict).2.muted = d.muted := by
  unfold tell
  cases d.sink <;> rfl

theorem muted_withdraw (d : Dispatcher) (s : Submission) :
    (d.muted.withdraw s).muted = (d.withdraw s).muted := by
  have hwithdraw : d.muted.withdraw s = (d.withdraw s).withReceiver .gone [] :=
    withdraw_withReceiver d .gone [] s
  rw [hwithdraw, muted_withReceiver]

/-- What is concluded is concluded when muted, and nobody is told. -/
theorem muted_conclude (d : Dispatcher) (s : Submission) (verdict : Verdict) :
    (d.conclude s verdict).2.muted = (d.withdraw s).muted := by
  rw [conclude_eq_tellsOf]
  split
  · exact muted_tell _ _ _
  · rfl

end Dispatcher

namespace Hub

open Dispatcher

variable {h h' : Hub} {place : Nat} {d : Dispatcher}

/-! ## 2. Calls -/

/-- What a call on the dispatcher at a place answers. -/
def reply (place : Nat) (d : Dispatcher) : Call → Event
  | .submit token request => .submitted place (d.accept token request).1
  | .cancel token => .cancelled place token (d.cancel token).1
  | .cancelFrame frame => .frameCancelled place (d.cancelFrame frame).1
  | .shut => .shut place d.shut.1
  | .drop => .shut place ({ d with isDropped := true } : Dispatcher).shut.1
  | .dropSink | .closeReceiver => .other

/-- **What a call answers depends on the dispatcher alone.** -/
theorem serve_event (h : Hub) (place : Nat) (d : Dispatcher) (call : Call) :
    (h.serve place d call).1 = reply place d call := by
  cases call with
  | submit token request =>
    simp only [serve, Hub.submit, reply]
    split <;> simp [*]
  | _ => rfl

section Muted

variable (d : Dispatcher) (sink : Sink) (received : List (Token × Verdict)) (call : Call)

/-- The answer does not depend on who listens. -/
theorem reply_withReceiver :
    reply place (d.withReceiver sink received) call = reply place d call := by
  cases call with
  | submit token request => simp only [reply, accept_withReceiver]
  | cancel token => simp only [reply, cancel_withReceiver]
  | cancelFrame frame => rfl
  | shut => simp only [reply, shut_withReceiver]
  | drop =>
    exact congrArg (Event.shut place ·.1)
      (shut_withReceiver { d with isDropped := true } sink received)
  | dropSink => rfl
  | closeReceiver => rfl

/-- Nor does what a call brings in. -/
theorem brings_withReceiver : brings (d.withReceiver sink received) call = brings d call := by
  cases call with
  | submit token request => simp only [brings, accept_withReceiver]
  | _ => rfl

/-- Nor what it leaves, but for the receiver itself. -/
theorem served_withReceiver (hkeep : call ≠ .dropSink ∧ call ≠ .closeReceiver) :
    served (d.withReceiver sink received) call = (served d call).withReceiver sink received := by
  cases call with
  | submit token request => simp only [served, accept_withReceiver]
  | cancel token => simp only [served, cancel_withReceiver]
  | cancelFrame frame => rfl
  | shut => simp only [served, shut_withReceiver]
  | drop =>
    exact congrArg Prod.snd (shut_withReceiver { d with isDropped := true } sink received)
  | dropSink => exact absurd rfl hkeep.1
  | closeReceiver => exact absurd rfl hkeep.2

theorem muted_served : (served d.muted call).muted = (served d call).muted := by
  by_cases hkeep : call ≠ .dropSink ∧ call ≠ .closeReceiver
  · have hserved : served d.muted call = (served d call).withReceiver .gone [] :=
      served_withReceiver d .gone [] call hkeep
    rw [hserved, muted_withReceiver]
  · rcases not_and_or.mp hkeep with hsink | hreceiver
    · obtain rfl := not_not.mp hsink
      rfl
    · obtain rfl := not_not.mp hreceiver
      rfl

end Muted

/-! ## 3. Muted states -/

/-- The state in which nobody listens at a place. -/
def muted (h : Hub) (place : Nat) : Hub :=
  { h with dispatchers := h.dispatchers.modify place Dispatcher.muted }

/-- A poll as it is where nobody listens. -/
def Progress.unheard : Progress → Progress
  | .concluded .told verdict => .concluded .unheard verdict
  | progress => progress

/-- An event as it is where nobody listens at a place: nothing differs but how polls of tasks that
work for this place conclude. -/
def Event.unheardAt (place : Nat) : Event → Event
  | .polled t progress => .polled t (if t.owner = place then progress.unheard else progress)
  | e => e

theorem getElem?_muted (h : Hub) (place p : Nat) :
    (h.muted place).dispatchers[p]?
      = h.dispatchers[p]?.map fun d => if place = p then d.muted else d :=
  List.getElem?_modify ..

/-- Muted states are told apart by what is left of their dispatchers. -/
theorem muted_setDispatcher {p : Nat} {d d' : Dispatcher}
    (hsame : if place = p then d'.muted = d.muted else d' = d) :
    ((h.muted place).setDispatcher p d').muted place = (h.setDispatcher p d).muted place := by
  have hlist : ((h.muted place).dispatchers.set p d').modify place Dispatcher.muted
      = (h.dispatchers.set p d).modify place Dispatcher.muted := by
    refine List.ext_getElem? fun i => ?_
    simp only [muted, List.getElem?_modify, List.getElem?_set, List.length_modify]
    by_cases hp : p = i
    · subst hp
      by_cases hplace : place = p
      · rw [if_pos hplace] at hsame
        by_cases hlt : p < h.dispatchers.length <;> simp [hplace, hlt, hsame]
      · rw [if_neg hplace] at hsame
        by_cases hlt : p < h.dispatchers.length <;> simp [hplace, hlt, hsame]
    · by_cases hplace : place = i <;> cases h.dispatchers[i]? <;> simp [hp, hplace]
  exact congrArg (fun l => ({ h with dispatchers := l } : Hub)) hlist

@[simp] theorem muted_muted (h : Hub) (place : Nat) :
    (h.muted place).muted place = h.muted place := by
  simp only [muted, List.modify_modify_eq]
  rfl

theorem isCancelled_muted (h : Hub) (place : Nat) (t : Task) :
    (h.muted place).isCancelled t = h.isCancelled t := by
  simp only [isCancelled, getElem?_muted]
  cases h.dispatchers[t.owner]? with
  | none => rfl
  | some d =>
    simp only [Option.map_some]
    split <;> rfl

theorem muted_addDispatcher (h : Hub) (place : Nat) (process : ProcessId) (handlers : Handlers) :
    ((h.muted place).addDispatcher process handlers).2.muted place
      = (h.addDispatcher process handlers).2.muted place := by
  have hlist : ∀ d : Dispatcher,
      (h.dispatchers.modify place Dispatcher.muted ++ [d]).modify place Dispatcher.muted
        = (h.dispatchers ++ [d]).modify place Dispatcher.muted := by
    intro d
    refine List.ext_getElem? fun i => ?_
    simp only [List.getElem?_modify, List.getElem?_append, List.length_modify]
    by_cases hlt : i < h.dispatchers.length
    · by_cases hplace : place = i <;> simp [hlt, hplace]
    · rw [if_neg hlt, if_neg hlt]
  exact congrArg (fun l => ({ h with dispatchers := l } : Hub)) (hlist { process, handlers })

/-- **A call on a muted state** is answered as on the state itself. -/
theorem serve_muted (h : Hub) (place p : Nat) (d : Dispatcher) (call : Call) :
    let d' := if place = p then d.muted else d
    ((h.muted place).serve p d' call).1 = (h.serve p d call).1 ∧
      ((h.muted place).serve p d' call).2.muted place = (h.serve p d call).2.muted place := by
  intro d'
  have hbrings : brings d' call = brings d call := by
    simp only [d']
    split
    · exact brings_withReceiver d _ _ call
    · rfl
  have hserved : if place = p then (served d' call).muted = (served d call).muted
      else served d' call = served d call := by
    simp only [d']
    split
    · exact muted_served d call
    · rfl
  constructor
  · rw [serve_event, serve_event]
    simp only [d']
    split
    · exact reply_withReceiver d _ _ call
    · rfl
  · rw [serve_eq, serve_eq, hbrings]
    have hset := muted_setDispatcher (h := h) hserved
    exact congrArg (fun k : Hub => ({ k with
      tasks := h.tasks ++ (brings d call).map fun s => ⟨h.nextTask, p, s, .asking⟩
      nextTask := h.nextTask + (brings d call).length } : Hub)) hset

/-! ## 4. Polls -/

/-- What is concluded for somebody who does not listen is concluded all the same. -/
theorem unheard_conclude (d : Dispatcher) (s : Submission) (verdict : Verdict) :
    (Progress.concluded (d.muted.conclude s verdict).1 verdict).unheard
      = (Progress.concluded (d.conclude s verdict).1 verdict).unheard := by
  have htells : d.muted.tellsOf s = d.tellsOf s := tellsOf_withReceiver d s _ _
  have htold : ∀ d : Dispatcher,
      (Progress.concluded (d.tell s.token verdict).1 verdict).unheard
        = .concluded .unheard verdict := by
    intro d
    unfold Dispatcher.tell
    cases d.sink <;> rfl
  rw [conclude_eq_tellsOf, conclude_eq_tellsOf, htells]
  split
  · rw [htold, htold]
  · rfl

/-- Two outcomes of a poll of a task that look the same where nobody listens at a place. -/
def SameUnheard (place : Nat) (t : Task) (x y : Progress × Hub) : Prop :=
  (Event.polled t x.1).unheardAt place = (Event.polled t y.1).unheardAt place ∧
    x.2.muted place = y.2.muted place

theorem conclude_muted (judge : Judge) (h : Hub) (place : Nat) (t : Task) (answer : CatalogAnswer) :
    SameUnheard place t (conclude judge (h.muted place) t answer) (conclude judge h t answer) := by
  simp only [conclude]
  rw [show (h.muted place).removeTask t.id = (h.removeTask t.id).muted place from rfl,
    getElem?_muted]
  cases hd : (h.removeTask t.id).dispatchers[t.owner]? with
  | none => exact ⟨rfl, muted_muted _ place⟩
  | some d =>
    simp only [Option.map_some]
    by_cases howner : place = t.owner
    · subst howner
      simp only [if_true]
      refine ⟨?_, muted_setDispatcher ?_⟩
      · simp only [Event.unheardAt, if_true, unheard_conclude]
      · rw [if_pos rfl, muted_conclude, muted_conclude, muted_withdraw]
    · simp only [howner, if_false]
      exact ⟨rfl, muted_setDispatcher (if_neg howner ▸ rfl)⟩

theorem withdraw_muted (h : Hub) (place : Nat) (t : Task) :
    ((h.muted place).withdraw t).muted place = (h.withdraw t).muted place := by
  let rest : Hub := ({ h with supply := h.supply.leave t.id } : Hub).removeTask t.id
  simp only [withdraw]
  have hrest : ({ h.muted place with supply := h.supply.leave t.id } : Hub).removeTask t.id
      = rest.muted place := rfl
  rw [show (h.muted place).supply = h.supply from rfl, hrest, getElem?_muted]
  cases hd : rest.dispatchers[t.owner]? with
  | none => exact muted_muted rest place
  | some d =>
    simp only [Option.map_some]
    refine muted_setDispatcher (h := rest) ?_
    by_cases howner : place = t.owner
    · simp only [howner, if_true]
      exact muted_withdraw d t.submission
    · simp only [howner, if_false]

theorem finish_muted (judge : Judge) (h : Hub) (place : Nat) (t : Task) (number : Nat) :
    SameUnheard place t (finish judge (h.muted place) t number) (finish judge h t number) :=
  conclude_muted judge { h with supply := h.supply.finish (h.supply.catalog.answerAt number) } place
    t _

/-- **A poll of a muted state** is that of the state itself. -/
theorem pollTask_muted (judge : Judge) (h : Hub) (place : Nat) (t : Task) :
    SameUnheard place t ((h.muted place).pollTask judge t) (h.pollTask judge t) := by
  unfold pollTask
  rw [isCancelled_muted]
  split
  · exact ⟨rfl, withdraw_muted h place t⟩
  · cases t.stage with
    | enumerating number =>
      change SameUnheard place t (if h.supply.gateOpen then _ else _) _
      dsimp only
      split
      · exact finish_muted judge h place t number
      · exact ⟨rfl, muted_muted h place⟩
    | asking =>
      dsimp only
      rw [show (h.muted place).supply = h.supply from rfl]
      rcases h.supply.ask t.id with ⟨admission, supply⟩
      cases admission with
      | stored plugins => exact conclude_muted judge { h with supply } place t _
      | wait => exact ⟨rfl, muted_muted { h with supply } place⟩
      | turn =>
        dsimp only
        split
        · exact finish_muted judge { h with supply := supply.start.2 } place t _
        · let held : Hub := { h with supply := supply.start.2 }
          exact ⟨rfl, muted_muted (held.setStage t.id _) place⟩

/-! ## 5. Runs -/

/-- **A step of a muted state** is the step of the state itself, muted, with the same event up to
whether a poll found somebody to tell. -/
theorem act_muted (h : Hub) (place : Nat) (a : Action) :
    ((h.muted place).act a).1.unheardAt place = (h.act a).1.unheardAt place ∧
      ((h.muted place).act a).2.muted place = (h.act a).2.muted place := by
  cases a with
  | addDispatcher process handlers => exact ⟨rfl, muted_addDispatcher h place process handlers⟩
  | call p call =>
    simp only [act, getElem?_muted]
    cases h.dispatchers[p]? with
    | none => exact ⟨rfl, muted_muted h place⟩
    | some d =>
      obtain ⟨hevent, hstate⟩ := serve_muted h place p d call
      exact ⟨congrArg (Event.unheardAt place) hevent, hstate⟩
  | openGate => exact ⟨rfl, muted_muted h.openGate place⟩
  | poll judge id =>
    simp only [act]
    rw [show (h.muted place).tasks = h.tasks from rfl]
    cases h.tasks.find? (·.id == id) with
    | none => exact ⟨rfl, muted_muted h place⟩
    | some t => exact pollTask_muted judge h place t

/-- States that are the same when muted take the same steps. -/
theorem act_congr_muted {a : Action} (hsame : h'.muted place = h.muted place) :
    (h'.act a).1.unheardAt place = (h.act a).1.unheardAt place ∧
      (h'.act a).2.muted place = (h.act a).2.muted place := by
  obtain ⟨hevent', hstate'⟩ := act_muted h' place a
  obtain ⟨hevent, hstate⟩ := act_muted h place a
  rw [hsame] at hevent' hstate'
  exact ⟨hevent'.symm.trans hevent, hstate'.symm.trans hstate⟩

/-- **They stay the same**, and their logs differ in nothing but whether polls found somebody. -/
theorem run_congr_muted (hsame : h'.muted place = h.muted place) (later : List Action) :
    (h'.log later).map (Event.unheardAt place) = (h.log later).map (Event.unheardAt place) ∧
      (h'.run later).muted place = (h.run later).muted place := by
  induction later generalizing h h' with
  | nil => exact ⟨rfl, hsame⟩
  | cons a rest ih =>
    obtain ⟨hevent, hstate⟩ := act_congr_muted (a := a) hsame
    obtain ⟨hlog, hrun⟩ := ih hstate
    refine ⟨?_, hrun⟩
    simp only [log, List.map_cons, hevent, hlog]

/-! ## 6. Nobody listens -/

/-- What calls and the ends of tasks preserve of a dispatcher. -/
structure Lasting (P : Dispatcher → Prop) : Prop where
  served : ∀ {d : Dispatcher} (call : Call), P d → P (served d call)
  conclude : ∀ {d : Dispatcher} (s : Submission) (verdict : Verdict), P d →
    P (d.conclude s verdict).2
  withdraw : ∀ {d : Dispatcher} (s : Submission), P d → P (d.withdraw s)

namespace Lasting

variable {P : Dispatcher → Prop}

theorem pollTask (lasting : Lasting P) (hd : h.dispatchers[place]? = some d) (hp : P d)
    (judge : Judge) (t : Task) :
    ∃ d', (h.pollTask judge t).2.dispatchers[place]? = some d' ∧ P d' := by
  have hpoll := pollTask_outcome judge h t
  generalize h.pollTask judge t = outcome at hpoll ⊢
  cases hpoll with
  | withdrawn cancelled =>
    refine ⟨_, dispatchers_withdraw hd t, ?_⟩
    split
    · exact lasting.withdraw t.submission hp
    · exact hp
  | concluded live supply answer =>
    refine ⟨_, dispatchers_conclude (h := { h with supply }) hd judge t answer, ?_⟩
    split
    · exact lasting.conclude t.submission _ hp
    · exact hp
  | goesOn progress rests h' dispatchers keys nextTask => exact ⟨d, by rw [dispatchers, hd], hp⟩

/-- Every step preserves it, at every place. -/
theorem act (lasting : Lasting P) (hd : h.dispatchers[place]? = some d) (hp : P d) (a : Action) :
    ∃ d', (h.act a).2.dispatchers[place]? = some d' ∧ P d' := by
  cases a with
  | addDispatcher process handlers =>
    obtain ⟨hlt, -⟩ := List.getElem?_eq_some_iff.mp hd
    exact ⟨d, (List.getElem?_append_left hlt).trans hd, hp⟩
  | call p call =>
    simp only [Hub.act]
    split
    · exact ⟨d, hd, hp⟩
    · rename_i d₁ hd₁
      refine ⟨_, getElem?_serve hd p d₁ call, ?_⟩
      split
      · rename_i he
        obtain rfl : d₁ = d := Option.some.inj (hd₁.symm.trans (he ▸ hd))
        exact lasting.served call hp
      · exact hp
  | openGate => exact ⟨d, hd, hp⟩
  | poll judge id =>
    simp only [Hub.act]
    split
    · exact ⟨d, hd, hp⟩
    · exact lasting.pollTask hd hp judge _

/-- And so does every run. -/
theorem run (lasting : Lasting P) (hd : h.dispatchers[place]? = some d) (hp : P d)
    (actions : List Action) :
    ∃ d', (h.run actions).dispatchers[place]? = some d' ∧ P d' := by
  induction actions generalizing h d with
  | nil => exact ⟨d, hd, hp⟩
  | cons a rest ih =>
    obtain ⟨d', hd', hp'⟩ := lasting.act hd hp a
    exact ih hd' hp'

end Lasting

/-- A sink that is lost already, and received this as long as it was there. -/
def Lost (received : List (Token × Verdict)) (d : Dispatcher) : Prop :=
  d.sink ≠ .listening ∧ d.received = received

theorem sink_loss {loss : Call} (hloss : loss = .dropSink ∨ loss = .closeReceiver)
    (d : Dispatcher) : (served d loss).sink ≠ .listening := by
  rcases hloss with rfl | rfl
  · simp [served, Dispatcher.dropSink]
  · simp only [served, Dispatcher.closeReceiver]
    split <;> simp

/-- No call brings a sink back that is lost. -/
theorem sink_served_ne {call : Call} (hsink : d.sink ≠ .listening) :
    (served d call).sink ≠ .listening := by
  by_cases hloss : call = .dropSink ∨ call = .closeReceiver
  · exact sink_loss hloss d
  · -- every dispatcher is itself with its own receiver
    have hserved : served d call = (served d call).withReceiver d.sink d.received :=
      served_withReceiver d d.sink d.received call (not_or.mp hloss)
    rw [hserved]
    exact hsink

/-- The loss changes nothing but the dispatcher. -/
theorem act_loss {loss : Call} (hloss : loss = .dropSink ∨ loss = .closeReceiver)
    (hd : h.dispatchers[place]? = some d) :
    h.act (.call place loss) = (.other, h.setDispatcher place (served d loss)) := by
  simp only [act, hd]
  rcases hloss with rfl | rfl <;> rfl

/-- **The loss is nothing to a muted state.** -/
theorem muted_act_loss {loss : Call} (hloss : loss = .dropSink ∨ loss = .closeReceiver)
    (hd : h.dispatchers[place]? = some d) :
    (h.act (.call place loss)).2.muted place = h.muted place := by
  have hsame : (served d loss).muted = d.muted := by rcases hloss with rfl | rfl <;> rfl
  have hstart : ∀ d₁ : Dispatcher, d₁.muted = d.muted →
      ((h.muted place).setDispatcher place (served d loss)).muted place
        = (h.setDispatcher place d₁).muted place := fun d₁ hd₁ =>
    muted_setDispatcher (by rw [if_pos rfl, hsame, hd₁])
  rw [act_loss hloss hd]
  calc (h.setDispatcher place (served d loss)).muted place
      = ((h.muted place).setDispatcher place (served d loss)).muted place := (hstart _ hsame).symm
    _ = (h.setDispatcher place d).muted place := hstart d rfl
    _ = h.muted place := by rw [setDispatcher_self hd]

/-- **A sink that is lost stays lost**, and receives nothing more. -/
theorem lasting_lost (received : List (Token × Verdict)) : Lasting (Lost received) where
  served {d} call := by
    rintro ⟨hsink, hreceived⟩
    exact ⟨sink_served_ne hsink, (received_served d call).trans hreceived⟩
  withdraw {d} s := by
    rintro ⟨hsink, hreceived⟩
    obtain ⟨hreceived', hsink'⟩ := release_keeps_sink d s
    exact ⟨fun he => hsink (hsink'.symm.trans he), hreceived'.trans hreceived⟩
  conclude {d} s verdict := by
    rintro ⟨hsink, hreceived⟩
    obtain ⟨hreceived', hsink'⟩ := release_keeps_sink d s
    have hlost : Lost received (d.withdraw s) :=
      ⟨fun he => hsink (hsink'.symm.trans he), hreceived'.trans hreceived⟩
    have htell : ((d.withdraw s).tell s.token verdict).2 = d.withdraw s := by
      unfold Dispatcher.tell
      cases he : (d.withdraw s).sink with
      | listening => exact absurd he hlost.1
      | deaf => rfl
      | gone => rfl
    rw [conclude_eq_tellsOf]
    split
    · rw [htell]
      exact hlost
    · exact hlost

/-! ## 7. The run that loses the receiver -/

/-- **Nobody but the receiver notices.**  Take any point of any run and any dispatcher that is
there, and let its sink be dropped or its receiver be closed at this point; then let anything
follow.  In the run that has the loss and in the one that has not,
* the logs are the same before the loss, and after it but for what the polls of the dispatcher's
  own tasks say of a sink to tell: every call on any dispatcher is answered the same;
* at every later point the tables of all dispatchers are the same, so nothing stays open longer, and
  so are the tasks and the catalog;
* every other dispatcher is in the same state, its sink included.

What was delivered before the loss is still there, and nothing is received after it. -/
theorem run_loss_unnoticed (catalog : PluginSource) (cached gated : Bool) {place : Nat}
    {before later : List Action} {d : Dispatcher}
    (hd : ((start catalog cached gated).run before).dispatchers[place]? = some d) {loss : Call}
    (hloss : loss = .dropSink ∨ loss = .closeReceiver) :
    let s := start catalog cached gated
    let kept := s.run before
    let lost := s.run (before ++ [.call place loss])
    let h := kept.run later
    let h' := lost.run later
    s.log (before ++ later) = s.log before ++ kept.log later ∧
      s.log (before ++ .call place loss :: later) = s.log before ++ .other :: lost.log later ∧
      (lost.log later).map (Event.unheardAt place) = (kept.log later).map (Event.unheardAt place) ∧
      (∀ p : Nat, h'.dispatchers[p]?.map (·.pending) = h.dispatchers[p]?.map (·.pending)) ∧
      h'.tasks = h.tasks ∧ h'.supply = h.supply ∧
      (∀ p ≠ place, h'.dispatchers[p]? = h.dispatchers[p]?) ∧
      ∃ d', h'.dispatchers[place]? = some d' ∧ d'.received = d.received := by
  intro s kept lost h h'
  have hkept : kept.dispatchers[place]? = some d := hd
  have hlost : lost = (kept.act (.call place loss)).2 := run_concat s before _
  obtain ⟨hlog, hstate⟩ : (lost.log later).map (Event.unheardAt place)
      = (kept.log later).map (Event.unheardAt place) ∧ h'.muted place = h.muted place :=
    run_congr_muted (hlost ▸ muted_act_loss hloss hkept) later
  have hdispatchers : ∀ p : Nat, h'.dispatchers[p]?.map (fun d => if place = p then d.muted else d)
      = h.dispatchers[p]?.map fun d => if place = p then d.muted else d := by
    intro p
    rw [← getElem?_muted, ← getElem?_muted, hstate]
  refine ⟨log_append s before later, ?_, hlog, fun p => ?_, congrArg (·.tasks) hstate,
    congrArg (·.supply) hstate, fun p hp => ?_, ?_⟩
  · rw [log_append, log, hlost, act_loss hloss hkept]
  · have hp := congrArg (Option.map Dispatcher.pending) (hdispatchers p)
    rw [Option.map_map, Option.map_map] at hp
    have hpending : (Dispatcher.pending ∘ fun d => if place = p then d.muted else d)
        = Dispatcher.pending := by
      funext d
      rw [Function.comp_apply]
      split <;> rfl
    rwa [hpending] at hp
  · have hp' := hdispatchers p
    simpa only [if_neg hp.symm, Option.map_id'] using hp'
  · have hget : lost.dispatchers[place]? = some (served d loss) := by
      rw [hlost, act_loss hloss hkept, getElem?_setDispatcher hkept, if_pos rfl]
    obtain ⟨d', hd', -, hreceived⟩ := (lasting_lost d.received).run hget
      ⟨sink_loss hloss d, received_served d loss⟩ later
    exact ⟨d', hd', hreceived⟩

/-- One verdict was delivered, and the next request, under the same token, is open when the sink is
dropped.  It ends like the one before, but nobody hears of it; then the token is used a third time,
and cancelled. -/
theorem run_loss_unnoticed_reuse :
    let request : Request := { (default : Request) with mimeType := "a" }
    let submit : Action := .call 0 (.submit (.ofNat 1) request)
    let before : List Action := [.addDispatcher ⟨0⟩ {}, submit, .poll echo 0, submit]
    let later : List Action := [.poll echo 1, submit, .call 0 (.cancel (.ofNat 1))]
    let kept := (start {} false false).run before
    let lost := (start {} false false).run (before ++ [.call 0 .dropSink])
    (kept.run later).dispatchers.map (·.received.length) = [2] ∧
      (lost.log later).map (Event.unheardAt 0) = (kept.log later).map (Event.unheardAt 0) ∧
      ∃ d', (lost.run later).dispatchers[0]? = some d' ∧ d'.received.length = 1 := by
  intro request submit before later kept lost
  obtain ⟨-, -, hlog, -, -, -, -, d', hd', hreceived⟩ :=
    @run_loss_unnoticed {} false false 0 before later _ rfl .dropSink (Or.inl rfl)
  refine ⟨by decide, hlog, d', hd', ?_⟩
  rw [hreceived]
  decide

end Hub

end PluginArbiter
