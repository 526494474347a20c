/-
# The handlers of an engine

An engine that was made from a configuration has the handlers of its configuration, and every
dispatcher takes them along when it is made.  Nothing that happens afterwards changes what a
dispatcher has, and only a registration changes what the engine has (`handlers_step`,
`Equipped.step`).  So as long as nothing is registered all of them give the same answers, those of
the configuration.

The check of the configuration has looked at its associations: parameters come in pairs, and no type
is blank.  Answers have that from there.

Main statements:
* `Hub.Equipped.act`: what dispatchers have stays;
* `equipped_after`: who has which handlers, after any sequence of operations and polls;
* `lookup_first_registered`: who answers for a type, and what may be relied on.
-/
import PluginArbiter.Proofs.Config.Soundness
import PluginArbiter.Proofs.Engine.Frame
import PluginArbiter.Proofs.Handlers.Lookup

namespace PluginArbiter

/-! ## 1. Dispatchers keep their handlers -/

namespace Dispatcher

theorem handlers_release (d : Dispatcher) (s : Submission) :
    (d.release s).2.handlers = d.handlers := by
  unfold release
  split
  · rfl
  · split <;> rfl

theorem handlers_tell (d : Dispatcher) (token : Token) (verdict : Verdict) :
    (d.tell token verdict).2.handlers = d.handlers := by
  unfold tell
  split <;> rfl

theorem handlers_conclude (d : Dispatcher) (s : Submission) (verdict : Verdict) :
    (d.conclude s verdict).2.handlers = d.handlers := by
  simp only [conclude]
  split
  · exact d.handlers_release s
  · rw [handlers_tell, handlers_release]

theorem handlers_accept (d : Dispatcher) (token : Token) (request : Request) :
    (d.accept token request).2.handlers = d.handlers := by
  unfold accept
  split
  · rfl
  · split
    · rfl
    · split <;> rfl

theorem handlers_cancel (d : Dispatcher) (token : Token) :
    (d.cancel token).2.handlers = d.handlers := by
  unfold cancel
  split <;> rfl

theorem handlers_shut (d : Dispatcher) : d.shut.2.handlers = d.handlers := by
  unfold shut
  split <;> rfl

end Dispatcher

namespace Hub

variable {h : Hub} {handlers : Handlers}

theorem handlers_served (d : Dispatcher) (call : Call) : (served d call).handlers = d.handlers := by
  cases call with
  | submit token request => exact d.handlers_accept token request
  | cancel token => exact d.handlers_cancel token
  | cancelFrame frame => rfl
  | shut => exact d.handlers_shut
  | drop => exact Dispatcher.handlers_shut _
  | dropSink => rfl
  | closeReceiver => rfl

/-- All dispatchers have these handlers. -/
def Equipped (handlers : Handlers) (h : Hub) : Prop := ∀ d ∈ h.dispatchers, d.handlers = handlers

theorem Equipped.setDispatcher (he : h.Equipped handlers) {d : Dispatcher}
    (hd : d.handlers = handlers) (place : Nat) : (h.setDispatcher place d).Equipped handlers := by
  intro d' hd'
  rcases List.mem_or_eq_of_mem_set hd' with hold | rfl
  · exact he d' hold
  · exact hd

theorem Equipped.of_getElem? (he : h.Equipped handlers) {place : Nat} {d : Dispatcher}
    (hd : h.dispatchers[place]? = some d) : d.handlers = handlers :=
  he d (List.mem_of_getElem? hd)

theorem Equipped.conclude (he : h.Equipped handlers) (judge : Judge) (t : Task)
    (answer : CatalogAnswer) : (conclude judge h t answer).2.Equipped handlers := by
  have hremoved : (h.removeTask t.id).Equipped handlers := he
  simp only [Hub.conclude]
  split
  · exact he
  · rename_i d hd
    exact hremoved.setDispatcher ((d.handlers_conclude _ _).trans (he.of_getElem? hd)) _

theorem Equipped.withdraw (he : h.Equipped handlers) (t : Task) :
    (h.withdraw t).Equipped handlers := by
  have hleft : ({ h with supply := h.supply.leave t.id }.removeTask t.id).Equipped handlers := he
  simp only [Hub.withdraw]
  split
  · exact he
  · rename_i d hd
    exact hleft.setDispatcher ((d.handlers_release _).trans (he.of_getElem? hd)) _

theorem Equipped.pollTask (he : h.Equipped handlers) (judge : Judge) (t : Task) :
    (h.pollTask judge t).2.Equipped handlers := by
  have houtcome := pollTask_outcome judge h t
  generalize h.pollTask judge t = outcome at houtcome ⊢
  cases houtcome with
  | withdrawn cancelled => exact he.withdraw t
  | concluded live supply answer =>
    have hsupply : ({ h with supply } : Hub).Equipped handlers := he
    exact hsupply.conclude judge t answer
  | goesOn progress rests h' dispatchers keys nextTask =>
    intro d hd
    exact he d (dispatchers ▸ hd)

theorem Equipped.serve (he : h.Equipped handlers) {place : Nat} {d : Dispatcher}
    (hd : h.dispatchers[place]? = some d) (call : Call) :
    (h.serve place d call).2.Equipped handlers := by
  rw [serve_eq]
  exact he.setDispatcher ((handlers_served d call).trans (he.of_getElem? hd)) place

/-- **What dispatchers have stays**, and who is new is given the same. -/
theorem Equipped.act (he : h.Equipped handlers) {a : Action}
    (hnew : ∀ process handlers', a = .addDispatcher process handlers' → handlers' = handlers) :
    (h.act a).2.Equipped handlers := by
  cases a with
  | addDispatcher process handlers' =>
    intro d hd
    rcases List.mem_append.mp hd with hold | hadded
    · exact he d hold
    · rw [List.mem_singleton.mp hadded]
      exact hnew process handlers' rfl
  | call place call =>
    simp only [Hub.act]
    split
    · exact he
    · rename_i d hd
      exact he.serve hd call
  | openGate => exact he
  | poll judge id =>
    simp only [Hub.act]
    split
    · exact he
    · exact he.pollTask judge _

theorem Equipped.polls (he : h.Equipped handlers) (judge : Judge) (ids : List Nat) :
    (h.run (polls judge ids)).Equipped handlers := by
  induction ids generalizing h with
  | nil => exact he
  | cons id rest ih => exact ih (he.act (a := .poll judge id) (by simp))

theorem Equipped.settle (he : h.Equipped handlers) (judge : Judge) :
    (settle judge h).Equipped handlers := by
  obtain ⟨ids, hids⟩ := settle_eq_run judge h
  rw [hids]
  exact he.polls judge ids

theorem Equipped.collect (he : h.Equipped handlers) : h.collect.2.Equipped handlers := by
  intro d hd
  obtain ⟨d', hd', rfl⟩ := List.mem_map.mp hd
  exact he d' hd'

theorem Equipped.fetch (he : h.Equipped handlers) (judge : Judge) :
    (h.fetch judge).2.Equipped handlers := by
  simp only [Hub.fetch]
  cases hask : h.supply.ask h.nextTask with
  | mk admission supply =>
    cases admission with
    | stored plugins => exact he
    | turn => exact he
    | wait => exact Equipped.settle (h := { h with supply }) he judge

end Hub

/-! ## 2. Engines keep theirs until something is registered -/

namespace Engine

variable {e : Engine} {handlers : Handlers}

/-- What a step registers. -/
def Step.registered : Step → List PluginDescriptor
  | .operation (.register d) => [d]
  | _ => []

/-- **The handlers after a step.** -/
theorem handlers_step (e : Engine) (s : Step) :
    (e.step s).handlers = e.handlers.registerAll s.registered := by
  have hwith : ∀ (place : Nat) (act : Dispatcher → Reply × Hub),
      (e.withDispatcher place act).2.handlers = e.handlers := by
    intro place act
    obtain ⟨hub, hhub⟩ := e.exists_withDispatcher_eq place act
    rw [hhub]
  have hchange : ∀ (place : Nat) (change : Dispatcher → Hub),
      (e.changeDispatcher place change).2.handlers = e.handlers := by
    intro place change
    obtain ⟨hub, hhub⟩ := e.exists_changeDispatcher_eq place change
    rw [hhub]
  cases s with
  | poll id => rfl
  | operation op =>
    cases op with
    | submit place token request => exact hwith place _
    | cancel place token => exact hwith place _
    | cancelFrame place frame => exact hwith place _
    | shut place => exact hwith place _
    | pending place => exact hwith place _
    | dispatcherHandler place mime => exact hwith place _
    | drop place => exact hchange place _
    | dropSink place => exact hchange place _
    | closeReceiver place => exact hchange place _
    | find request patterns =>
      rw [step, apply_find]
      rfl
    | addDispatcher process hasRuntime =>
      simp only [step, apply]
      split <;> rfl
    | _ => rfl

/-- The engine and all its dispatchers have these handlers. -/
structure Equipped (handlers : Handlers) (e : Engine) : Prop where
  own : e.handlers = handlers
  dispatchers : e.hub.Equipped handlers

theorem Equipped.step (he : e.Equipped handlers) {s : Step} (hs : s.registered = []) :
    (e.step s).Equipped handlers where
  own := by
    rw [handlers_step, hs]
    exact he.own
  dispatchers := by
    have heffect := e.step_effect s
    have hhub := he.dispatchers
    generalize (e.step s).hub = h' at heffect ⊢
    cases heffect with
    | still => exact hhub
    | polled id => exact hhub.act (by simp)
    | called op place call stands => exact hhub.act (by simp)
    | added process =>
      refine hhub.act fun process' handlers' hadded => ?_
      cases hadded
      exact he.own
    | opened => exact hhub.act (by simp)
    | fetched op => exact hhub.fetch e.judge
    | ran => exact (hhub.settle e.judge).collect

/-- **Who has which handlers**, as long as nothing is registered. -/
theorem equipped_after (he : e.Equipped handlers) {steps : List Step}
    (hsteps : ∀ s ∈ steps, s.registered = []) : (e.after steps).Equipped handlers := by
  induction steps generalizing e with
  | nil => exact he
  | cons s rest ih =>
    exact ih (he.step (hsteps s List.mem_cons_self)) fun s' hs' =>
      hsteps s' (List.mem_cons_of_mem _ hs')

/-- Who is equipped answers what the handlers answer; a dispatcher does so until it is dropped. -/
theorem Equipped.apply_handler (he : e.Equipped handlers) (mime : String) :
    (e.apply (.handler mime)).1 = .handler (handlers.answerFor mime) := by
  rw [apply, he.own]

theorem Equipped.apply_dispatcherHandler (he : e.Equipped handlers) {place : Nat} {d : Dispatcher}
    (hd : e.hub.dispatchers[place]? = some d) (hkept : d.isDropped = false) (mime : String) :
    (e.apply (.dispatcherHandler place mime)).1 = .handler (handlers.answerFor mime) := by
  simp only [apply, withDispatcher, hd, hkept, he.dispatchers.of_getElem? hd, Bool.false_eq_true,
    if_false]

/-! ## 3. What a sound configuration adds -/

/-- Whatever a sound handler hands over comes in pairs. -/
theorem answerFor_paired {handlers : Handlers} (hsound : ∀ d ∈ handlers.descriptors, d.IsSound)
    (mime : String) :
    (handlers.answerFor mime).paramNames.length = (handlers.answerFor mime).paramValues.length := by
  cases havailable : (handlers.answerFor mime).available with
  | false =>
    have hnone := Handlers.available_eq_false_iff.mp havailable
    rw [Handlers.answerFor_eq_empty_iff.mpr hnone]
  | true =>
    obtain ⟨a, ha, -, hanswer⟩ := handlers.exists_of_available havailable
    obtain ⟨d, hd, had⟩ := List.mem_flatMap.mp ha
    rw [hanswer]
    exact ((hsound d hd).associations a had).params

/-- A sound handler does not answer for a blank type. -/
theorem answerFor_blank {handlers : Handlers} (hsound : ∀ d ∈ handlers.descriptors, d.IsSound)
    {mime : String} (hblank : Text.trim mime = "") : handlers.answerFor mime = {} := by
  refine Handlers.answerFor_eq_empty_iff.mpr fun a ha => ?_
  rintro rfl
  obtain ⟨d, hd, had⟩ := List.mem_flatMap.mp ha
  have hsaid := ((hsound d hd).associations a had).mimeType
  rw [Text.isBlankText_iff_trim_eq_empty.mpr hblank] at hsaid
  exact absurd hsaid (by decide)

/-- An engine is made of a sound configuration, and equipped with its handlers. -/
theorem equipped_ofConfig {c : Config} (made : ofConfig c = .ok e) :
    c.IsSound ∧ e.Equipped { descriptors := c.builtinHandlers } := by
  have hvalid := validate_of_ofConfig made
  rw [ofConfig, hvalid] at made
  obtain rfl := Except.ok.inj made
  exact ⟨Config.validate_eq_ok_iff_isSound.mp hvalid, rfl, fun d hd => absurd hd List.not_mem_nil⟩

/-- **Who answers for a type.**  Of all associations, in the order in which their handlers were
registered, the first that declares the type letter by letter answers with its parameters, a pattern
like any other text; where there is none nothing is available and nothing is handed over.  Whatever
is registered afterwards leaves an answer as it is where there was one, and where there was none
there is one afterwards exactly if one of the new associations declares the type.

An engine that was made from a configuration answers so from the handlers of the configuration, and
so do its dispatchers, after any operations and polls but registrations.  Then parameters come in
pairs, and nothing is available for a blank type. -/
theorem lookup_first_registered (mime : String) :
    (∀ h : Handlers,
      (∀ before a after, h.associations = before ++ a :: after → a.mimeType = mime →
        (∀ b ∈ before, b.mimeType ≠ mime) →
          h.answerFor mime =
            { available := true, paramNames := a.paramNames, paramValues := a.paramValues }) ∧
      ((h.answerFor mime).available = false ↔ ∀ a ∈ h.associations, a.mimeType ≠ mime) ∧
      (h.answerFor mime = { available := false, paramNames := [], paramValues := [] } ↔
        ∀ a ∈ h.associations, a.mimeType ≠ mime) ∧
      ∀ later,
        ((h.answerFor mime).available = true →
          (h.registerAll later).answerFor mime = h.answerFor mime) ∧
        ((h.answerFor mime).available = false →
          (((h.registerAll later).answerFor mime).available = true ↔
            ∃ d ∈ later, ∃ a ∈ d.associations, a.mimeType = mime))) ∧
    ∀ (c : Config) (e : Engine), ofConfig c = .ok e →
      ∀ steps : List Step, (∀ s ∈ steps, s.registered = []) →
        let answer := ({ descriptors := c.builtinHandlers } : Handlers).answerFor mime
        ((e.after steps).apply (.handler mime)).1 = .handler answer ∧
          (∀ (place : Nat) (d : Dispatcher), (e.after steps).hub.dispatchers[place]? = some d →
            d.isDropped = false →
              ((e.after steps).apply (.dispatcherHandler place mime)).1 = .handler answer) ∧
          answer.paramNames.length = answer.paramValues.length ∧
          (Text.trim mime = "" → answer.available = false) := by
  constructor
  · intro h
    refine ⟨fun before a after => Handlers.answerFor_of_split, Handlers.available_eq_false_iff,
      Handlers.answerFor_eq_empty_iff, fun later => ?_⟩
    constructor
    · intro havailable
      rw [h.answerFor_registerAll, if_pos havailable]
    · intro hnone
      rw [h.available_registerAll, or_iff_right (Bool.eq_false_iff.mp hnone)]
  · intro c e made steps hsteps answer
    obtain ⟨hsound, hequipped⟩ := equipped_ofConfig made
    have hafter := equipped_after hequipped hsteps
    refine ⟨hafter.apply_handler mime,
      fun place d hd hkept => hafter.apply_dispatcherHandler hd hkept mime,
      answerFor_paired hsound.handlers mime, fun hblank => ?_⟩
    exact congrArg HandlerAnswer.available (answerFor_blank hsound.handlers hblank)

/-- Two handlers declare one type, and before both of them stands a pattern.  A dispatcher that was
shut down still gives the answer of the first, a handler that is registered afterwards does not
change it, and the pattern answers for nothing but its own text. -/
theorem lookup_first_registered_twice :
    let pattern : PluginDescriptor :=
      { id := ⟨"any"⟩, associations := [{ mimeType := "*/*", isWildcard := true }] }
    let first : PluginDescriptor :=
      { id := ⟨"p"⟩,
        associations := [{ mimeType := "a/b", paramNames := ["codecs"], paramValues := ["vp9"] }] }
    let second : PluginDescriptor := { id := ⟨"q"⟩, associations := [{ mimeType := "a/b" }] }
    let c : Config := { builtinHandlers := [pattern, first, second] }
    let steps : List Step := [.operation (.addDispatcher ⟨1⟩ true), .operation (.shut 0)]
    let answer : HandlerAnswer :=
      { available := true, paramNames := ["codecs"], paramValues := ["vp9"] }
    ∃ e, ofConfig c = .ok e ∧
      ((e.after steps).apply (.dispatcherHandler 0 "a/b")).1 = .handler answer ∧
      (e.handlers.registerAll [second]).answerFor "a/b" = answer ∧
      ((e.after steps).apply (.handler "a/c")).1 = .handler {} := by
  intro pattern first second c steps answer
  have hvalid : c.validate = .ok () := by decide
  obtain ⟨e, made, hown, d, hd, hkept⟩ : ∃ e, ofConfig c = .ok e ∧
      e.handlers = { descriptors := c.builtinHandlers } ∧
        ∃ d, (e.after steps).hub.dispatchers[0]? = some d ∧ d.isDropped = false :=
    ⟨_, by rw [ofConfig, hvalid]; rfl, rfl, _, rfl, rfl⟩
  have hsteps : ∀ s ∈ steps, s.registered = [] := by simp [steps, Step.registered]
  obtain ⟨hregistry, hengine⟩ := lookup_first_registered "a/b"
  obtain ⟨hsplit, -, -, hlater⟩ := hregistry { descriptors := c.builtinHandlers }
  have hanswer := hsplit pattern.associations _ second.associations rfl rfl (by decide)
  obtain ⟨-, hdispatcher, -⟩ := hengine c e made steps hsteps
  obtain ⟨hother, -⟩ := (lookup_first_registered "a/c").2 c e made steps hsteps
  refine ⟨e, made, hdispatcher 0 d hd hkept, ?_, hother⟩
  rw [hown]
  exact ((hlater [second]).1 (congrArg HandlerAnswer.available hanswer)).trans hanswer

end Engine

end PluginArbiter
