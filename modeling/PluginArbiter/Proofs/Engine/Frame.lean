/-
# What a step can change

An engine has thirty operations and can be polled besides, but few of them change anything that a
verdict rests on.  This module says once what each step does to the rules, the history, the guests
and the clock (`exists_step_eq`), and what it does to the hub (`Effect`).  Everything else about
steps is read off these two.

That the options, the faults of the collaborators and the question whether the rules are asked at all
never change is part of the first statement.

Main statements:
* `exists_step_eq`: the engine after a step, field by field;
* `step_effect`: its hub;
* `genuine_after`: nothing is ever kept but what the catalog gave.
-/
import PluginArbiter.Engine.Run
import PluginArbiter.Proofs.CrashHistory.Retention
import PluginArbiter.Proofs.Dispatch.Genuine

namespace PluginArbiter.Engine

open CrashHistory (Incident)

/-! ## 1. Rules, history, guests and clock -/

namespace Step

/-- The rules after a step. -/
def rules (r : AvailabilityRules) : Step → AvailabilityRules
  | operation (.disable id) => r.disable id
  | operation (.enable id) => r.enable id
  | operation (.block host) => r.block host
  | _ => r

/-- What the history is told by a step, the clock standing where it does. -/
def incident? (clock : Nat) : Step → Option Incident
  | operation (.crash id at_) => some (.crash id (at_.getD clock))
  | operation (.clear id) => some (.cleared id)
  | _ => none

/-- The guests after a step. -/
def guests (g : Guests) : Step → Guests
  | operation (.addGuest p) => g.register p
  | operation (.removeGuest p) => g.unregister p
  | _ => g

/-- The clock after a step. -/
def clock (now : Nat) : Step → Nat
  | operation (.setClock now) => now
  | _ => now

end Step

/-- An engine, but for the handlers and the hub, after a step. -/
def heed (e : Engine) (s : Step) : Engine :=
  { e with
    rules := s.rules e.rules
    history := e.history.after (s.incident? e.clock).toList
    guests := s.guests e.guests
    clock := s.clock e.clock }

theorem exists_withDispatcher_eq (e : Engine) (place : Nat) (act : Dispatcher → Reply × Hub) :
    ∃ hub, (e.withDispatcher place act).2 = { e with hub } := by
  unfold withDispatcher
  split
  · exact ⟨_, rfl⟩
  · split <;> exact ⟨_, rfl⟩

theorem exists_changeDispatcher_eq (e : Engine) (place : Nat) (change : Dispatcher → Hub) :
    ∃ hub, (e.changeDispatcher place change).2 = { e with hub } := by
  unfold changeDispatcher
  split <;> exact ⟨_, rfl⟩

/-- To look for candidates leaves behind what asking for the plugins does. -/
theorem apply_find (e : Engine) (request : Request) (patterns : Bool) :
    (e.apply (.find request patterns)).2 = e.fetch.2 := by
  have hfind : (e.find request patterns).2 = e.fetch.2 := rfl
  simp only [apply]
  split <;> rename_i hanswer <;> rw [hanswer] at hfind <;> exact hfind

/-- **The engine after a step**, field by field. -/
theorem exists_step_eq (e : Engine) (s : Step) :
    ∃ handlers hub, e.step s = { e.heed s with handlers, hub } := by
  have hwith : ∀ (place : Nat) (act : Dispatcher → Reply × Hub),
      ∃ handlers hub, (e.withDispatcher place act).2 = { e with handlers, hub } := by
    intro place act
    obtain ⟨hub, hhub⟩ := e.exists_withDispatcher_eq place act
    exact ⟨e.handlers, hub, hhub⟩
  have hchange : ∀ (place : Nat) (change : Dispatcher → Hub),
      ∃ handlers hub, (e.changeDispatcher place change).2 = { e with handlers, hub } := by
    intro place change
    obtain ⟨hub, hhub⟩ := e.exists_changeDispatcher_eq place change
    exact ⟨e.handlers, hub, hhub⟩
  cases s with
  | poll id => exact ⟨_, _, rfl⟩
  | operation op =>
    cases op with
    | submit place token request => exact hwith place _
    | cancel place token => exact hwith place _
    | cancelFrame place frame => exact hwith place _
    | shut place => exact hwith place _
    | pending place => exact hwith place _
    | dispatcherHandler place mime => exact hwith place _
    | drop place => exact hchange place _
    | dropSink place => exact hchange place _
    | closeReceiver place => exact hchange place _
    | find request patterns => exact ⟨_, _, e.apply_find request patterns⟩
    | addDispatcher process hasRuntime =>
      simp only [step, apply]
      split <;> exact ⟨_, _, rfl⟩
    | _ => exact ⟨_, _, rfl⟩

/-! ## 2. The hub -/

/-- The call on a dispatcher that an operation stands for. -/
def Operation.call? : Operation → Option (Nat × Hub.Call)
  | .submit place token request => some (place, .submit token request)
  | .cancel place token => some (place, .cancel token)
  | .cancelFrame place frame => some (place, .cancelFrame frame)
  | .shut place => some (place, .shut)
  | .drop place => some (place, .drop)
  | .dropSink place => some (place, .dropSink)
  | .closeReceiver place => some (place, .closeReceiver)
  | _ => none

/-- What a step can do to the hub. -/
inductive Effect (e : Engine) : Step → Hub → Prop
  | still (s : Step) : Effect e s e.hub
  | polled (id : Nat) : Effect e (.poll id) (e.hub.act (.poll e.judge id)).2
  | called (op : Operation) (place : Nat) (call : Hub.Call) (stands : op.call? = some (place, call)) :
    Effect e (.operation op) (e.hub.act (.call place call)).2
  | added (process : ProcessId) :
    Effect e (.operation (.addDispatcher process true)) (e.hub.act (.addDispatcher process e.handlers)).2
  | opened : Effect e (.operation .openGate) (e.hub.act .openGate).2
  | fetched (op : Operation) : Effect e (.operation op) (e.hub.fetch e.judge).2
  | ran : Effect e (.operation .run) (e.hub.settle e.judge).collect.2

/-- Calls on dispatchers that were dropped are not carried out. -/
theorem withDispatcher_effect (e : Engine) {op : Operation} {place : Nat} {call : Hub.Call}
    {act : Dispatcher → Reply × Hub} (stands : op.call? = some (place, call))
    (hact : ∀ d, (act d).2 = (e.hub.serve place d call).2) :
    Effect e (.operation op) (e.withDispatcher place act).2.hub := by
  have hcalled := Effect.called (e := e) op place call stands
  simp only [Hub.act] at hcalled
  unfold withDispatcher
  cases hd : e.hub.dispatchers[place]? with
  | none => exact .still _
  | some d =>
    simp only [hd] at hcalled ⊢
    split
    · exact .still _
    · simpa only [hact d] using hcalled

theorem changeDispatcher_effect (e : Engine) {op : Operation} {place : Nat} {call : Hub.Call}
    {change : Dispatcher → Hub} (stands : op.call? = some (place, call))
    (hchange : ∀ d, change d = (e.hub.serve place d call).2) :
    Effect e (.operation op) (e.changeDispatcher place change).2.hub := by
  have hcalled := Effect.called (e := e) op place call stands
  simp only [Hub.act] at hcalled
  unfold changeDispatcher
  cases hd : e.hub.dispatchers[place]? with
  | none => exact .still _
  | some d => simpa only [hd, hchange d] using hcalled

/-- Questions put to a dispatcher change nothing. -/
theorem withDispatcher_still (e : Engine) (place : Nat) (reply : Dispatcher → Reply) :
    (e.withDispatcher place fun d => (reply d, e.hub)).2.hub = e.hub := by
  unfold withDispatcher
  split
  · rfl
  · split <;> rfl

/-- **The hub after a step.** -/
theorem step_effect (e : Engine) (s : Step) : Effect e s (e.step s).hub := by
  cases s with
  | poll id =>
    have hpolled := Effect.polled (e := e) id
    rwa [Hub.act_poll] at hpolled
  | operation op =>
    cases op with
    | resolve request => exact .fetched _
    | find request patterns =>
      rw [step, apply_find]
      exact .fetched _
    | addDispatcher process hasRuntime =>
      cases hasRuntime with
      | true => exact .added process
      | false => exact .still _
    | openGate => exact .opened
    | run => exact .ran
    | submit place token request => exact e.withDispatcher_effect rfl fun _ => rfl
    | cancel place token => exact e.withDispatcher_effect rfl fun _ => rfl
    | cancelFrame place frame => exact e.withDispatcher_effect rfl fun _ => rfl
    | shut place => exact e.withDispatcher_effect rfl fun _ => rfl
    | drop place => exact e.changeDispatcher_effect rfl fun _ => rfl
    | dropSink place => exact e.changeDispatcher_effect rfl fun _ => rfl
    | closeReceiver place => exact e.changeDispatcher_effect rfl fun _ => rfl
    | pending place =>
      rw [step, apply, withDispatcher_still]
      exact .still _
    | dispatcherHandler place mime =>
      rw [step, apply, withDispatcher_still]
      exact .still _
    | _ => exact .still _

/-! ## 3. The catalog -/

variable {catalog : PluginSource}

/-- What is kept stays a list of the catalog in every step. -/
theorem genuine_step {e : Engine} (hg : e.hub.supply.Genuine catalog) (s : Step) :
    (e.step s).hub.supply.Genuine catalog := by
  have heffect := e.step_effect s
  generalize (e.step s).hub = h' at heffect ⊢
  cases heffect with
  | still => exact hg
  | polled id => exact Hub.genuine_act hg _
  | called op place call stands => exact Hub.genuine_act hg _
  | added process => exact Hub.genuine_act hg _
  | opened => exact Hub.genuine_act hg _
  | fetched op => exact (Hub.genuine_fetch hg _).1
  | ran => exact Hub.genuine_settle hg _

/-- **Nothing is ever kept but what the catalog gave.** -/
theorem genuine_after {e : Engine} (hg : e.hub.supply.Genuine catalog) (steps : List Step) :
    (e.after steps).hub.supply.Genuine catalog := by
  induction steps using List.reverseRecOn with
  | nil => exact hg
  | append_singleton before s ih =>
    rw [after_concat]
    exact genuine_step ih s

/-- **Where all enumerations end alike, a direct request is judged by that**, whatever tasks wait for
it. -/
theorem resolve_eq_judge {e : Engine} {answer : CatalogAnswer} (hg : e.hub.supply.Genuine catalog)
    (halways : catalog.Always answer) (request : Request) :
    (e.resolve request).1 = e.judge request answer := by
  obtain ⟨number, hnumber⟩ := (Hub.genuine_fetch hg e.judge).2
  rw [resolve_hub_of_answer, hnumber, halways number]

end PluginArbiter.Engine
