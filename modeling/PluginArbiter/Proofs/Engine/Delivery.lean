/-
# A delivered verdict is that of a direct request

Between the submission of a request and its verdict any number of things may happen: plugins are
switched off, hosts blocked, crashes recorded, guests registered, and other tasks come first at the
catalog.  This module shows that all of this counts up to the step in which the task ends, and nothing
after it: what the sink is told is what a direct request would have been answered at that moment, in
the state of the engine as a whole.

The reason is that a task reads nothing but the list of the catalog before its last poll, and this
list is always the same (`genuine_after`).  All that collaborators answer is asked for within one
step (`Advances`), and what a sink was told is never changed, only added to and collected.

A direct request has an answer at once unless the catalog holds its answers back, and while it does
no sink is told anything (`Hub.Mute`).

Main statements:
* `Hub.advances_act`, `Hub.Advances.trans`: what polls tell the sinks, and whom they concern;
* `Hub.mute_act`, `toldBy_of_isHeldBack`: while answers are held back nobody is told anything;
* `sent_after`: every task goes back to an accepted submission;
* `delivered_as_resolved`: what is delivered in a step is what a direct request is answered.
-/
import PluginArbiter.Proofs.Engine.Frame

namespace PluginArbiter

/-! ## 1. What sinks are told -/

namespace Hub

variable {catalog : PluginSource} {answer : CatalogAnswer} {verdictOn : Request → Verdict}
  {h h' h'' : Hub}

/-- What the sink of the dispatcher at a place was told and has not been collected yet. -/
def toldAt (h : Hub) (place : Nat) : List (Token × Verdict) :=
  (h.dispatchers[place]?.map (·.received)).getD []

/-- A dispatcher that is new was told nothing, and no other action makes one. -/
theorem toldAt_act_of_absent {place : Nat} (hnone : h.dispatchers[place]? = none) (a : Action) :
    (h.act a).2.toldAt place = [] := by
  by_cases hadd : ∃ process handlers, a = .addDispatcher process handlers
  · obtain ⟨process, handlers, rfl⟩ := hadd
    have hlen := List.getElem?_eq_none_iff.mp hnone
    simp only [act, addDispatcher, toldAt, List.getElem?_append_right hlen]
    cases place - h.dispatchers.length <;> rfl
  · have hlen := length_act h (a := a) fun process handlers he => hadd ⟨process, handlers, he⟩
    have hstill : (h.act a).2.dispatchers[place]? = none :=
      List.getElem?_eq_none_iff.mpr (hlen ▸ List.getElem?_eq_none_iff.mp hnone)
    rw [toldAt, hstill]
    rfl

/-- **A sink is only ever told more**, and only what the event of the step names. -/
theorem toldAt_act (h : Hub) (a : Action) (place : Nat) :
    ∃ news, (h.act a).2.toldAt place = h.toldAt place ++ news ∧
      ∀ p ∈ news, p ∈ (h.act a).1.delivered place := by
  cases hd : h.dispatchers[place]? with
  | none =>
    refine ⟨[], ?_, by simp⟩
    rw [toldAt_act_of_absent hd, toldAt, hd]
    rfl
  | some d =>
    obtain ⟨d', hd', hreceived⟩ := received_act hd a
    refine ⟨_, by rw [toldAt, hd', toldAt, hd]; exact hreceived, fun p hp => ?_⟩
    split at hp
    · exact hp
    · exact absurd hp (by simp)

/-- Where the event of a step names nothing, nothing was told. -/
theorem toldAt_act_of_quiet {a : Action} {place : Nat} (hquiet : (h.act a).1.delivered place = []) :
    (h.act a).2.toldAt place = h.toldAt place := by
  obtain ⟨news, heq, hnews⟩ := h.toldAt_act a place
  have hnone : news = [] := List.eq_nil_iff_forall_not_mem.mpr fun p hp => by
    simpa [hquiet] using hnews p hp
  rw [heq, hnone, List.append_nil]

/-- No call tells a sink anything. -/
theorem delivered_act_call (h : Hub) (p : Nat) (call : Call) (place : Nat) :
    (h.act (.call p call)).1.delivered place = [] := by
  simp only [act]
  split
  · rfl
  · exact delivered_serve _ _ _ _ _

/-- From one hub to a later one, in between nothing but polls: each sink was told more, every verdict
it was told is the one on the request of a task of its dispatcher, which has ended since, and no task
was added. -/
structure Advances (verdictOn : Request → Verdict) (h h' : Hub) : Prop where
  told : ∀ place, ∃ news, h'.toldAt place = h.toldAt place ++ news ∧
    ∀ p ∈ news, ∃ t ∈ h.tasks, t.owner = place ∧
      p = (t.submission.token, verdictOn t.submission.request) ∧ ∀ u ∈ h'.tasks, u.id ≠ t.id
  tasks : ∀ t ∈ h'.tasks, ∃ u ∈ h.tasks, u.key = t.key

/-- Where neither dispatchers nor tasks change nothing was told. -/
theorem Advances.of_eq (hd : h'.dispatchers = h.dispatchers) (ht : h'.tasks = h.tasks) :
    Advances verdictOn h h' where
  told place := ⟨[], by rw [toldAt, hd, List.append_nil, toldAt], by simp⟩
  tasks t hmem := ⟨t, ht ▸ hmem, rfl⟩

theorem Advances.trans (h₁ : Advances verdictOn h h') (h₂ : Advances verdictOn h' h'') :
    Advances verdictOn h h'' where
  told place := by
    obtain ⟨news, heq, hnews⟩ := h₁.told place
    obtain ⟨news', heq', hnews'⟩ := h₂.told place
    refine ⟨news ++ news', by rw [heq', heq, List.append_assoc], fun p hp => ?_⟩
    rcases List.mem_append.mp hp with hin | hin
    · obtain ⟨t, ht, howner, hverdict, hended⟩ := hnews p hin
      refine ⟨t, ht, howner, hverdict, fun u hu => ?_⟩
      obtain ⟨v, hv, hkey⟩ := h₂.tasks u hu
      exact Task.id_of_key hkey ▸ hended v hv
    · obtain ⟨t, ht, howner, hverdict, hended⟩ := hnews' p hin
      obtain ⟨u, hu, hkey⟩ := h₁.tasks t ht
      refine ⟨u, hu, (Task.owner_of_key hkey).trans howner, ?_, fun v hv => ?_⟩
      · rw [hverdict, Task.submission_of_key hkey]
      · exact Task.id_of_key hkey ▸ hended v hv
  tasks t ht := by
    obtain ⟨u, hu, hkey⟩ := h₂.tasks t ht
    obtain ⟨v, hv, hkey'⟩ := h₁.tasks u hu
    exact ⟨v, hv, hkey'.trans hkey⟩

/-- Who has ended is gone, and the others stay what they are. -/
theorem tasks_pollTask (judge : Judge) (h : Hub) (t : Task) :
    (∀ u ∈ (h.pollTask judge t).2.tasks, ∃ v ∈ h.tasks, v.key = u.key) ∧
      ∀ how verdict, (h.pollTask judge t).1 = .concluded how verdict →
        ∀ u ∈ (h.pollTask judge t).2.tasks, u.id ≠ t.id := by
  have hended : ∀ h' : Hub, h'.tasks = (h.removeTask t.id).tasks →
      ∀ u ∈ h'.tasks, u ∈ h.tasks ∧ u.id ≠ t.id := by
    intro h' htasks u hu
    rw [htasks] at hu
    obtain ⟨hmem, hne⟩ := List.mem_filter.mp hu
    exact ⟨hmem, by simpa using hne⟩
  have hp := pollTask_outcome judge h t
  generalize h.pollTask judge t = outcome at hp ⊢
  cases hp with
  | withdrawn cancelled =>
    have hall := hended _ (withdraw_ends h t).tasks
    exact ⟨fun u hu => ⟨u, (hall u hu).1, rfl⟩, fun _ _ _ u hu => (hall u hu).2⟩
  | concluded live supply answer =>
    have hall := hended _ (conclude_ends judge { h with supply } t answer).tasks
    exact ⟨fun u hu => ⟨u, (hall u hu).1, rfl⟩, fun _ _ _ u hu => (hall u hu).2⟩
  | goesOn progress rests h' dispatchers keys nextTask =>
    constructor
    · intro u hu
      exact List.mem_map.mp (keys ▸ List.mem_map_of_mem hu)
    · rintro how verdict rfl
      exact absurd rests (by simp)

/-- **A poll tells the sink of its task the verdict on its request**, in view of what the catalog
answers. -/
theorem advances_act (hg : h.supply.Genuine catalog) (halways : catalog.Always answer) (judge : Judge)
    (id : Nat) : Advances (judge · answer) h (h.act (.poll judge id)).2 := by
  cases hf : h.tasks.find? (·.id == id) with
  | none =>
    have hstill : (h.act (.poll judge id)).2 = h := by simp [act, hf]
    rw [hstill]
    exact .of_eq rfl rfl
  | some t =>
    have hact : h.act (.poll judge id) =
        (.polled t (h.pollTask judge t).1, (h.pollTask judge t).2) := by simp [act, hf]
    obtain ⟨hkeys, hended⟩ := tasks_pollTask judge h t
    refine ⟨fun place => ?_, by rw [hact]; exact hkeys⟩
    obtain ⟨news, heq, hnews⟩ := h.toldAt_act (.poll judge id) place
    refine ⟨news, heq, fun p hp => ?_⟩
    have hdelivered := hnews p hp
    rw [hact] at hdelivered ⊢
    cases hprogress : (h.pollTask judge t).1 with
    | concluded how verdict =>
      rw [hprogress, delivered_concluded] at hdelivered
      split at hdelivered
      · rename_i hcase
        refine ⟨t, List.mem_of_find?_eq_some hf, hcase.2, ?_, hended how verdict hprogress⟩
        obtain ⟨number, rfl⟩ := polled_verdict hg hprogress
        rw [List.mem_singleton.mp hdelivered, halways number]
      · exact absurd hdelivered (by simp)
    | idle => exact absurd hdelivered (by simp [hprogress, Event.delivered])
    | started => exact absurd hdelivered (by simp [hprogress, Event.delivered])
    | withdrawn => exact absurd hdelivered (by simp [hprogress, Event.delivered])

theorem advances_polls (hg : h.supply.Genuine catalog) (halways : catalog.Always answer)
    (judge : Judge) (ids : List Nat) : Advances (judge · answer) h (h.run (polls judge ids)) := by
  induction ids generalizing h with
  | nil => exact .of_eq rfl rfl
  | cons id rest ih => exact (advances_act hg halways judge id).trans (ih (genuine_act hg _))

theorem advances_settle (hg : h.supply.Genuine catalog) (halways : catalog.Always answer)
    (judge : Judge) : Advances (judge · answer) h (h.settle judge) := by
  obtain ⟨ids, hids⟩ := settle_eq_run judge h
  rw [hids]
  exact advances_polls hg halways judge ids

/-- A direct call that has to wait lets tasks run, by the same rule. -/
theorem advances_fetch (hg : h.supply.Genuine catalog) (halways : catalog.Always answer)
    (judge : Judge) : Advances (judge · answer) h (h.fetch judge).2 := by
  unfold Hub.fetch
  cases hask : h.supply.ask h.nextTask with
  | mk admission supply =>
    cases admission with
    | stored plugins => exact .of_eq rfl rfl
    | turn => exact .of_eq rfl rfl
    | wait =>
      have hstart : Advances (judge · answer) h { h with supply } := .of_eq rfl rfl
      have hsettle := advances_settle (h := { h with supply }) (hg.ask hask) halways judge
      exact (hstart.trans hsettle).trans (.of_eq rfl rfl)

end Hub

/-! ## 2. While answers are held back -/

namespace Supply

variable {s s' : Supply} {caller : Nat}

theorem isHeldBack_iff :
    s.isHeldBack = true ↔ s.gateOpen = false ∧ s.cache.bind (·.stored) = none := by
  simp [isHeldBack]

theorem kept_leave (s : Supply) (caller : Nat) :
    (s.leave caller).cache.bind (·.stored) = s.cache.bind (·.stored) := by
  cases hc : s.cache with
  | none => simp [leave, hc]
  | some c => simp [leave, hc, Cache.stored_leave]

theorem isHeldBack_ask (held : s.isHeldBack = true) {admission : Admission (List PluginDescriptor)}
    (hask : s.ask caller = (admission, s')) : s'.isHeldBack = true := by
  obtain ⟨closed, cold⟩ := isHeldBack_iff.mp held
  obtain ⟨cache, rfl, hkept⟩ := ask_frame hask
  exact isHeldBack_iff.mpr ⟨closed, hkept.trans cold⟩

/-- Whoever asks is given nothing that is kept. -/
theorem ask_ne_stored (held : s.isHeldBack = true) (plugins : List PluginDescriptor) :
    s.ask caller ≠ (.stored plugins, s') := by
  intro hask
  exact absurd ((kept_of_ask_stored hask).symm.trans (isHeldBack_iff.mp held).2) (by simp)

end Supply

namespace Hub

variable {h h' : Hub}

/-- Nothing comes of what happens: answers are held back still, and no sink was told anything. -/
structure Mute (h h' : Hub) : Prop where
  held : h'.supply.isHeldBack = true
  told : ∀ place, h'.toldAt place = h.toldAt place

/-- **While answers are held back no poll concludes anything**, and they stay held back. -/
theorem isHeldBack_pollTask (held : h.supply.isHeldBack = true) (judge : Judge) (t : Task) :
    (h.pollTask judge t).2.supply.isHeldBack = true ∧
      ∀ how verdict, (h.pollTask judge t).1 ≠ .concluded how verdict := by
  obtain ⟨closed, cold⟩ := Supply.isHeldBack_iff.mp held
  have hp := pollTask_polled judge h t
  generalize h.pollTask judge t = outcome at hp ⊢
  cases hp with
  | withdrawn cancelled =>
    rw [supply_withdraw]
    exact ⟨Supply.isHeldBack_iff.mpr ⟨closed, (h.supply.kept_leave t.id).trans cold⟩, by simp⟩
  | held => exact ⟨held, by simp⟩
  | answered live number stage isOpen => exact absurd (closed.symm.trans isOpen) (by decide)
  | served live stage plugins supply ask => exact absurd ask (Supply.ask_ne_stored held plugins)
  | waiting live stage supply ask => exact ⟨Supply.isHeldBack_ask held ask, by simp⟩
  | started live stage supply ask =>
    have hheld := Supply.isHeldBack_ask held ask
    exact ⟨hheld, by simp⟩
  | enumerated live stage supply ask isOpen =>
    exact absurd (closed.symm.trans ((gateOpen_ask ask).symm.trans isOpen)) (by decide)

theorem mute_act (held : h.supply.isHeldBack = true) (judge : Judge) (id : Nat) :
    Mute h (h.act (.poll judge id)).2 := by
  cases hf : h.tasks.find? (·.id == id) with
  | none =>
    have hstill : (h.act (.poll judge id)).2 = h := by simp [act, hf]
    rw [hstill]
    exact ⟨held, fun _ => rfl⟩
  | some t =>
    have hact : h.act (.poll judge id) =
        (.polled t (h.pollTask judge t).1, (h.pollTask judge t).2) := by simp [act, hf]
    obtain ⟨hheld, hnever⟩ := isHeldBack_pollTask held judge t
    refine ⟨by rw [hact]; exact hheld, fun place => toldAt_act_of_quiet ?_⟩
    rw [hact]
    cases hprogress : (h.pollTask judge t).1 with
    | concluded how verdict => exact absurd hprogress (hnever how verdict)
    | _ => rfl

theorem Mute.trans {h'' : Hub} (h₁ : Mute h h') (h₂ : Mute h' h'') : Mute h h'' :=
  ⟨h₂.held, fun place => (h₂.told place).trans (h₁.told place)⟩

theorem mute_polls (held : h.supply.isHeldBack = true) (judge : Judge) (ids : List Nat) :
    Mute h (h.run (polls judge ids)) := by
  induction ids generalizing h with
  | nil => exact ⟨held, fun _ => rfl⟩
  | cons id rest ih =>
    have hfirst := mute_act held judge id
    exact hfirst.trans (ih hfirst.held)

theorem mute_settle (held : h.supply.isHeldBack = true) (judge : Judge) :
    Mute h (h.settle judge) := by
  obtain ⟨ids, hids⟩ := settle_eq_run judge h
  rw [hids]
  exact mute_polls held judge ids

theorem toldAt_fetch_of_isHeldBack (held : h.supply.isHeldBack = true) (judge : Judge) (place : Nat) :
    (h.fetch judge).2.toldAt place = h.toldAt place := by
  unfold Hub.fetch
  cases hask : h.supply.ask h.nextTask with
  | mk admission supply =>
    cases admission with
    | stored plugins => rfl
    | turn => rfl
    | wait =>
      have hheld : supply.isHeldBack = true := Supply.isHeldBack_ask held hask
      exact (mute_settle (h := { h with supply }) hheld judge).told place

end Hub

/-! ## 3. Where tasks come from -/

namespace Engine

variable {catalog : PluginSource} {answer : CatalogAnswer} {e : Engine}

/-- A submission is refused, or accepted with the next number for its task. -/
theorem step_submit_cases (e : Engine) (place : Nat) (token : Token) (request : Request) :
    (e.step (.operation (.submit place token request))).hub.tasks = e.hub.tasks ∨
      ∃ s : Submission, s.token = token ∧ s.request = request ∧
        (∃ n, (e.apply (.submit place token request)).1 = .submitted (.ok ()) n) ∧
        (e.step (.operation (.submit place token request))).hub.tasks =
          e.hub.tasks ++ [{ id := e.hub.nextTask, owner := place, submission := s }] := by
  simp only [step, apply, withDispatcher]
  cases e.hub.dispatchers[place]? with
  | none => exact Or.inl rfl
  | some d =>
    simp only
    split
    · exact Or.inl rfl
    · simp only [Hub.submit]
      rcases d.accept_cases token request with ⟨refusal, ha⟩ | ha | ⟨-, -, ha⟩
      · rw [ha]
        exact Or.inl rfl
      · rw [ha]
        exact Or.inl rfl
      · rw [ha]
        exact Or.inr ⟨_, rfl, rfl, ⟨_, rfl⟩, rfl⟩

/-- A task was sent by a step of a run that submitted its request, and was accepted. -/
def Sent (start : Engine) (steps : List Step) (t : Task) : Prop :=
  ∃ before later,
    steps = before ++ .operation (.submit t.owner t.submission.token t.submission.request) :: later ∧
      t.id = (start.after before).hub.nextTask ∧
      ∃ n, ((start.after before).apply
        (.submit t.owner t.submission.token t.submission.request)).1 = .submitted (.ok ()) n

theorem Sent.concat {start : Engine} {steps : List Step} {t u : Task} (h : Sent start steps u)
    (hkey : u.key = t.key) (s : Step) : Sent start (steps ++ [s]) t := by
  obtain ⟨before, later, rfl, hid, haccepted⟩ := h
  rw [Task.owner_of_key hkey, Task.submission_of_key hkey] at haccepted ⊢
  exact ⟨before, later ++ [s], by simp, Task.id_of_key hkey ▸ hid, haccepted⟩

/-- A call that submits nothing adds no task. -/
theorem tasks_act_call {h : Hub} {place : Nat} {call : Hub.Call}
    (hnot : ∀ token request, call ≠ .submit token request) :
    (h.act (.call place call)).2.tasks = h.tasks := by
  simp only [Hub.act]
  split
  · rfl
  · rename_i d hd
    have hbrings : Hub.brings d call = [] := by
      cases call with
      | submit token request => exact absurd rfl (hnot token request)
      | _ => rfl
    rw [Hub.serve_eq, hbrings]
    exact List.append_nil _

/-- **Only accepted submissions add tasks.** -/
theorem tasks_step (hg : e.hub.supply.Genuine catalog) (halways : catalog.Always answer) (s : Step)
    (hnot : ∀ place token request, s ≠ .operation (.submit place token request)) :
    ∀ t ∈ (e.step s).hub.tasks, ∃ u ∈ e.hub.tasks, u.key = t.key := by
  have heffect := e.step_effect s
  generalize (e.step s).hub = h' at heffect ⊢
  have hsame : ∀ h'' : Hub, h''.tasks = e.hub.tasks →
      ∀ t ∈ h''.tasks, ∃ u ∈ e.hub.tasks, u.key = t.key :=
    fun h'' htasks t ht => ⟨t, htasks ▸ ht, rfl⟩
  cases heffect with
  | still => exact hsame _ rfl
  | polled id => exact (Hub.advances_act hg halways e.judge id).tasks
  | called op place call stands =>
    refine hsame _ (tasks_act_call fun token request hcall => ?_)
    subst hcall
    cases op <;> simp [Operation.call?] at stands
    exact absurd rfl (hnot _ _ _)
  | added process => exact hsame _ rfl
  | opened => exact hsame _ rfl
  | fetched op => exact (Hub.advances_fetch hg halways e.judge).tasks
  | ran => exact (Hub.advances_settle hg halways e.judge).tasks

/-- **Every task goes back to an accepted submission.** -/
theorem sent_after {start : Engine} (hempty : start.hub.tasks = [])
    (hg : start.hub.supply.Genuine catalog) (halways : catalog.Always answer) (steps : List Step) :
    ∀ t ∈ (start.after steps).hub.tasks, Sent start steps t := by
  induction steps using List.reverseRecOn with
  | nil => simp [hempty]
  | append_singleton before s ih =>
    have hg' := genuine_after hg before
    rw [after_concat]
    intro t ht
    by_cases hsubmit : ∃ place token request, s = .operation (.submit place token request)
    · obtain ⟨place, token, request, rfl⟩ := hsubmit
      rcases (start.after before).step_submit_cases place token request with
        hsame | ⟨sub, rfl, rfl, haccepted, htasks⟩
      · rw [hsame] at ht
        exact (ih t ht).concat rfl _
      · rw [htasks] at ht
        rcases List.mem_append.mp ht with hold | hnew
        · exact (ih t hold).concat rfl _
        · rw [List.mem_singleton.mp hnew]
          exact ⟨before, [], rfl, rfl, haccepted⟩
    · have hnot : ∀ place token request, s ≠ .operation (.submit place token request) :=
        fun place token request he => hsubmit ⟨place, token, request, he⟩
      obtain ⟨u, hu, hkey⟩ := tasks_step hg' halways s hnot t ht
      exact (ih u hu).concat hkey s

/-! ## 4. Steps -/

/-- The hub once everything that a step brings about has happened, but before anything is
collected. -/
def stirred (e : Engine) : Step → Hub
  | .operation .run => e.hub.settle e.judge
  | s => (e.step s).hub

/-- What the sink of the dispatcher at a place holds after a step, before it is collected. -/
def toldBy (e : Engine) (s : Step) (place : Nat) : List (Token × Verdict) :=
  (e.stirred s).toldAt place

theorem stirred_of_ne {s : Step} (hs : s ≠ .operation .run) : e.stirred s = (e.step s).hub := by
  unfold stirred
  split
  · exact absurd rfl hs
  · rfl

/-- **In a step a sink is told what direct requests are answered at that moment.** -/
theorem told_step (hg : e.hub.supply.Genuine catalog) (halways : catalog.Always answer) (s : Step)
    (place : Nat) :
    ∃ news, e.toldBy s place = e.hub.toldAt place ++ news ∧
      ∀ p ∈ news, ∃ t ∈ e.hub.tasks, t.owner = place ∧
        p = (t.submission.token, (e.resolve t.submission.request).1) ∧
        ∀ u ∈ (e.step s).hub.tasks, u.id ≠ t.id := by
  have hresolve : (fun request => (e.resolve request).1) = (e.judge · answer) :=
    funext fun request => resolve_eq_judge hg halways request
  have hadvances : ∀ h' : Hub, Hub.Advances (e.judge · answer) e.hub h' →
      Hub.Advances (fun request => (e.resolve request).1) e.hub h' := fun h' ha => hresolve ▸ ha
  by_cases hrun : s = .operation .run
  · subst hrun
    exact (hadvances _ (Hub.advances_settle hg halways e.judge)).told place
  · rw [toldBy, stirred_of_ne hrun]
    have hquiet : ∀ a, (e.hub.act a).1.delivered place = [] →
        ∃ news, (e.hub.act a).2.toldAt place = e.hub.toldAt place ++ news ∧
          ∀ p ∈ news, ∃ t ∈ e.hub.tasks, t.owner = place ∧
            p = (t.submission.token, (e.resolve t.submission.request).1) ∧
            ∀ u ∈ (e.hub.act a).2.tasks, u.id ≠ t.id := by
      intro a hnothing
      exact ⟨[], by rw [Hub.toldAt_act_of_quiet hnothing, List.append_nil], by simp⟩
    have heffect := e.step_effect s
    generalize (e.step s).hub = h' at heffect ⊢
    cases heffect with
    | still => exact (hadvances _ (.of_eq rfl rfl)).told place
    | polled id => exact (hadvances _ (Hub.advances_act hg halways e.judge id)).told place
    | called op p call stands => exact hquiet _ (Hub.delivered_act_call _ p call place)
    | added process => exact hquiet _ rfl
    | opened => exact hquiet _ rfl
    | fetched op => exact (hadvances _ (Hub.advances_fetch hg halways e.judge)).told place
    | ran => exact absurd rfl hrun

/-- **While answers are held back no step tells a sink anything.** -/
theorem toldBy_of_isHeldBack (held : e.hub.supply.isHeldBack = true) (s : Step) (place : Nat) :
    e.toldBy s place = e.hub.toldAt place := by
  by_cases hrun : s = .operation .run
  · subst hrun
    exact (Hub.mute_settle held e.judge).told place
  · rw [toldBy, stirred_of_ne hrun]
    have heffect := e.step_effect s
    generalize (e.step s).hub = h' at heffect ⊢
    cases heffect with
    | still => rfl
    | polled id => exact (Hub.mute_act held e.judge id).told place
    | called op p call stands => exact Hub.toldAt_act_of_quiet (Hub.delivered_act_call _ p call place)
    | added process => exact Hub.toldAt_act_of_quiet rfl
    | opened => exact Hub.toldAt_act_of_quiet rfl
    | fetched op => exact Hub.toldAt_fetch_of_isHeldBack held e.judge place
    | ran => exact absurd rfl hrun

/-- What is collected is what sinks were told, and then they hold nothing. -/
theorem run_collects (e : Engine) (place : Nat) :
    (e.step (.operation .run)).hub.toldAt place = [] ∧
      ∃ ds, (e.apply .run).1 = .deliveries ds ∧
        ((ds[place]?.map (·.delivered)).getD []).Perm (e.toldBy (.operation .run) place) := by
  constructor
  · change (e.hub.settle e.judge).collect.2.toldAt place = []
    simp only [Hub.collect, Hub.toldAt, List.getElem?_map]
    cases (e.hub.settle e.judge).dispatchers[place]? <;> rfl
  · refine ⟨_, rfl, ?_⟩
    simp only [List.zip_map', List.getElem?_map, toldBy, stirred, Hub.toldAt]
    cases (e.hub.settle e.judge).dispatchers[place]? with
    | none => exact .refl _
    | some d => exact List.mergeSort_perm _ _

/-! ## 5. Runs -/

/-- **A delivered verdict is that of a direct request.**  Take any engine whose catalog answers all
enumerations alike, kept or not and gated or not, before its first dispatcher was made, any sequence
of operations and polls, and any step after it.

Whatever the sink of a dispatcher holds stays what it is, and what it is told in the step comes after
it.  Each verdict that is new belongs to a task that ends in this step, goes back to a submission
that was accepted earlier, and equals what a direct request with the same content is answered in the
state in which the step is taken; in that state no answer is held back, so the direct request need
not wait for the gate.  A sink holds what it was told until it is collected, and then all of it is
handed over. -/
theorem delivered_as_resolved (start : Engine) (catalog : PluginSource) (cached gated : Bool)
    (fresh : start.hub = .start catalog cached gated) {answer : CatalogAnswer}
    (reliable : catalog.Always answer) (steps : List Step) (s : Step) (place : Nat) :
    let e := start.after steps
    (∃ news, e.toldBy s place = e.hub.toldAt place ++ news ∧
      ∀ token verdict, (token, verdict) ∈ news →
        e.hub.supply.isHeldBack = false ∧ ∃ t ∈ e.hub.tasks,
        t.owner = place ∧ t.submission.token = token ∧ Sent start steps t ∧
        (∀ u ∈ (e.step s).hub.tasks, u.id ≠ t.id) ∧
        verdict = (e.resolve t.submission.request).1) ∧
      (s ≠ .operation .run → (e.step s).hub.toldAt place = e.toldBy s place) ∧
      (s = .operation .run → (e.step s).hub.toldAt place = [] ∧
        ∃ ds, (e.apply .run).1 = .deliveries ds ∧
          ((ds[place]?.map (·.delivered)).getD []).Perm (e.toldBy s place)) := by
  intro e
  have hstart : start.hub.supply.Genuine catalog :=
    fresh ▸ Supply.genuine_ofSource catalog cached gated
  have hg : e.hub.supply.Genuine catalog := genuine_after hstart steps
  refine ⟨?_, fun hs => by rw [toldBy, stirred_of_ne hs], ?_⟩
  · obtain ⟨news, heq, hnews⟩ := told_step hg reliable s place
    refine ⟨news, heq, fun token verdict hp => ?_⟩
    obtain ⟨t, ht, howner, hpair, hended⟩ := hnews _ hp
    obtain ⟨rfl, rfl⟩ := Prod.mk.inj hpair
    have hempty : start.hub.tasks = [] := by
      rw [fresh]
      rfl
    have hgiven : e.hub.supply.isHeldBack = false := by
      refine Bool.eq_false_iff.mpr fun held => ?_
      rw [toldBy_of_isHeldBack held, List.self_eq_append_right] at heq
      exact absurd hp (by simp [heq])
    exact ⟨hgiven, t, ht, howner, rfl, sent_after hempty hstart reliable steps t ht, hended, rfl⟩
  · rintro rfl
    exact e.run_collects place

/-- A guest that was registered while the enumeration was held back counts, though it was none when
the request was submitted. -/
theorem delivered_as_resolved_gated :
    let plugin : PluginDescriptor := { id := ⟨"p"⟩, associations := [{ mimeType := "a/b" }] }
    let catalog : PluginSource := { answerAt := fun _ => .ok [plugin] }
    let start : Engine := { hub := .start catalog true true }
    let request : Request := { (default : Request) with mimeType := "a/b" }
    let token : Token := default
    let steps : List Step :=
      [.operation (.addDispatcher request.process true), .operation (.submit 0 token request),
        .poll 0, .operation (.addGuest request.process), .operation .openGate]
    let e := start.after steps
    let verdict : Verdict := .on .unauthorized plugin "a/b"
    e.toldBy (.poll 0) 0 = [(token, verdict)] ∧ e.hub.supply.isHeldBack = false ∧
      ∃ t ∈ e.hub.tasks, Sent start steps t ∧ verdict = (e.resolve t.submission.request).1 := by
  intro plugin catalog start request token steps e verdict
  have htold : e.toldBy (.poll 0) 0 = [(token, verdict)] := by decide
  have hbefore : e.hub.toldAt 0 = [] := by decide
  obtain ⟨⟨news, heq, hnews⟩, -⟩ :=
    delivered_as_resolved start catalog true true rfl (fun _ => rfl) steps (.poll 0) 0
  have hpair : (token, verdict) ∈ news := by
    have hall : [(token, verdict)] = news := by
      rw [← htold, heq, hbefore, List.nil_append]
    exact hall ▸ List.mem_singleton_self _
  obtain ⟨hgiven, t, ht, -, -, hsent, -, hverdict⟩ := hnews token verdict hpair
  exact ⟨htold, hgiven, t, ht, hsent, hverdict⟩

end Engine

end PluginArbiter
