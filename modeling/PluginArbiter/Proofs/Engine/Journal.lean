/-
# Verdicts from the log alone

An engine keeps rules, guests, a history that forgets, and a catalog whose answer is kept.  Here a
verdict is computed without any of this, from the configuration and the list of everything that
happened since: who is switched off is a matter of the last word on a plugin, a host is blocked if it
was ever named, and a plugin is unstable if enough of all its crashes since it was cleared are recent
(`Journal.verdict`).

The engine gives the same verdict (`resolve_meets_journal`).  The invariant that carries this says
for each part of the engine what it answers in terms of the log (`Reflects`).  It holds at the start,
and each step keeps it; only the question that is asked at the end needs crashes to have come in the
order of their instants.

Main statements:
* `Reflects.start`, `Reflects.step`: each part of the engine answers as the log says;
* `Reflects.judge_eq`: so does the judgement;
* `resolve_meets_journal`: so do verdicts, after any sequence of operations and polls.
-/
import PluginArbiter.Proofs.Engine.Frame

namespace PluginArbiter

open CrashHistory (Incident crashesOf crashesSinceCleared recent)

/-! ## 1. What a log says -/

namespace Engine.Step

/-- Whether a step switches a plugin off or on. -/
def switchesOff? (id : PluginId) : Step → Option Bool
  | operation (.disable id') => if id' = id then some true else none
  | operation (.enable id') => if id' = id then some false else none
  | _ => none

/-- Whether a step makes a process a guest or takes it out. -/
def makesGuest? (p : ProcessId) : Step → Option Bool
  | operation (.addGuest p') => if p' = p then some true else none
  | operation (.removeGuest p') => if p' = p then some false else none
  | _ => none

/-- The host that a step blocks. -/
def blocks? : Step → Option String
  | operation (.block host) => some host
  | _ => none

/-- What a step sets the clock to. -/
def sets? : Step → Option Nat
  | operation (.setClock now) => some now
  | _ => none

theorem clock_eq (s : Step) (now : Nat) : s.clock now = s.sets?.getD now := by
  cases s with
  | poll id => rfl
  | operation op => cases op <;> rfl

end Engine.Step

namespace Journal

variable {c : Config} {log : List Engine.Step}

/-- The last word of a log on something. -/
def lastWord {α : Type} (word : Engine.Step → Option α) (log : List Engine.Step) : Option α :=
  log.reverse.findSome? word

theorem lastWord_concat {α : Type} (word : Engine.Step → Option α) (log : List Engine.Step)
    (s : Engine.Step) : lastWord word (log ++ [s]) = (word s).or (lastWord word log) := by
  simp only [lastWord, List.reverse_append, List.reverse_singleton, List.singleton_append,
    List.findSome?_cons]
  cases word s <;> rfl

/-- Whether a plugin is switched off: the last word counts, and without one the configuration. -/
def isDisabled (c : Config) (log : List Engine.Step) (id : PluginId) : Bool :=
  (lastWord (·.switchesOff? id) log).getD (c.availability.disabledPlugins.contains id)

/-- All hosts that were ever blocked, as they were written. -/
def blockedHosts (c : Config) (log : List Engine.Step) : List String :=
  c.availability.blockedHosts ++ log.filterMap (·.blocks?)

/-- Whether a page is on a blocked host, ignoring case. -/
def isBlocked (c : Config) (log : List Engine.Step) (topUrl : Url) : Bool :=
  topUrl.hostText?.any fun host => (blockedHosts c log).any (Text.sameIgnoringCase host)

/-- Whether a process is a guest: the last word counts, and without one it is none. -/
def isGuest (log : List Engine.Step) (p : ProcessId) : Bool :=
  (lastWord (·.makesGuest? p) log).getD false

/-- Where a clock that stood at `now` stands after a log. -/
def clock (now : Nat) (log : List Engine.Step) : Nat := (lastWord (·.sets?) log).getD now

/-- All crashes and clearings, in order.  A crash without an instant happens when the clock says. -/
def incidents (now : Nat) : List Engine.Step → List Incident
  | [] => []
  | s :: rest => (s.incident? now).toList ++ incidents (s.clock now) rest

/-- Whether enough of the crashes of a plugin since it was cleared lie within the window. -/
def isUnstable (c : Config) (log : List Engine.Step) (id : PluginId) : Bool :=
  c.stability.maxCrashes.toNat ≤ recent (c.stability.windowSeconds.toNat * 1000) (clock 0 log)
    (crashesSinceCleared id (incidents 0 log))

/-- Whether a plugin is available on a page. -/
def isAvailable (c : Config) (log : List Engine.Step) (topUrl : Url) (id : PluginId) : Bool :=
  !isBlocked c log topUrl && !isDisabled c log id

/-- **The verdict on a request**, from the configuration and the log. -/
def verdict (c : Config) (log : List Engine.Step) (request : Request) : Verdict :=
  let matching := candidates (·.associations) request.url request.mimeType true c.plugins
  let isolated := isGuest log request.process
  match matching.find? fun k => isAvailable c log request.topUrl k.plugin.id, matching with
  | some k, _ =>
    if isolated || isUnstable c log k.plugin.id then .on .unauthorized k.plugin k.mimeType
    else .on .allowed k.plugin k.mimeType
  | none, k :: _ =>
    if isolated && k.plugin.kind.isLegacy then .on .unauthorized k.plugin k.mimeType
    else .on .disabled k.plugin k.mimeType
  | none, [] =>
    if !c.policy.legacySupported && c.policy.legacyCapableTypes.contains request.mimeType then
      .without .npapiNotSupported
    else .without .notFound

/-! ## 2. One more step in the log -/

theorem clock_concat (now : Nat) (log : List Engine.Step) (s : Engine.Step) :
    clock now (log ++ [s]) = s.clock (clock now log) := by
  rw [clock, lastWord_concat, Engine.Step.clock_eq, clock]
  cases s.sets? <;> rfl

theorem clock_cons (now : Nat) (s : Engine.Step) (log : List Engine.Step) :
    clock now (s :: log) = clock (s.clock now) log := by
  rw [clock, clock, lastWord, lastWord, List.reverse_cons, List.findSome?_append,
    Engine.Step.clock_eq]
  cases log.reverse.findSome? (·.sets?) with
  | some at_ => rfl
  | none => cases hs : s.sets? <;> simp [hs]

theorem incidents_concat (now : Nat) (log : List Engine.Step) (s : Engine.Step) :
    incidents now (log ++ [s]) = incidents now log ++ (s.incident? (clock now log)).toList := by
  induction log generalizing now with
  | nil => simp [incidents, clock, lastWord]
  | cons first rest ih =>
    rw [List.cons_append, incidents, incidents, ih, clock_cons, List.append_assoc]

theorem isDisabled_concat (c : Config) (log : List Engine.Step) (s : Engine.Step) (id : PluginId) :
    isDisabled c (log ++ [s]) id = (s.switchesOff? id).getD (isDisabled c log id) := by
  rw [isDisabled, lastWord_concat, isDisabled]
  cases s.switchesOff? id <;> rfl

theorem isGuest_concat (log : List Engine.Step) (s : Engine.Step) (p : ProcessId) :
    isGuest (log ++ [s]) p = (s.makesGuest? p).getD (isGuest log p) := by
  rw [isGuest, lastWord_concat, isGuest]
  cases s.makesGuest? p <;> rfl

theorem blockedHosts_concat (c : Config) (log : List Engine.Step) (s : Engine.Step) :
    blockedHosts c (log ++ [s]) = blockedHosts c log ++ s.blocks?.toList := by
  cases hs : s.blocks? <;> simp [blockedHosts, hs]

end Journal

/-! ## 3. The engine reflects its log -/

namespace Engine

open Journal

variable {c : Config} {log : List Step} {e : Engine}

theorem Step.isDisabled_rules (s : Step) (r : AvailabilityRules) (id : PluginId) :
    (s.rules r).isDisabled id = (s.switchesOff? id).getD (r.isDisabled id) := by
  cases s with
  | poll => rfl
  | operation op =>
    cases op with
    | disable id' =>
      simp only [rules, switchesOff?, AvailabilityRules.isDisabled_disable]
      split <;> rfl
    | enable id' =>
      simp only [rules, switchesOff?, AvailabilityRules.isDisabled_enable]
      split <;> rfl
    | _ => rfl

theorem Step.contains_guests (s : Step) (g : Guests) (p : ProcessId) :
    (s.guests g).contains p = (s.makesGuest? p).getD (g.contains p) := by
  cases s with
  | poll => rfl
  | operation op =>
    cases op with
    | addGuest p' =>
      simp only [guests, makesGuest?, Guests.contains_register]
      split <;> rfl
    | removeGuest p' =>
      simp only [guests, makesGuest?, Guests.contains_unregister]
      split <;> rfl
    | _ => rfl

theorem Step.blockedHosts_rules (s : Step) (r : AvailabilityRules) :
    (s.rules r).blockedHosts = (s.blocks?.map Text.lower).toList ++ r.blockedHosts := by
  cases s with
  | poll => rfl
  | operation op => cases op <;> rfl

/-- **Each part of an engine answers as its log says**, and nothing was ever changed that no step
changes. -/
structure Reflects (c : Config) (log : List Step) (e : Engine) : Prop where
  options : e.options = c.policy
  asksRules : e.asksRules = true
  rulesFault : e.rulesFault = none
  historyFault : e.historyFault = none
  guestsFault : e.guestsFault = none
  disabled : ∀ id, e.rules.isDisabled id = isDisabled c log id
  blocked : ∀ host, Text.lower host ∈ e.rules.blockedHosts ↔
    ∃ b ∈ blockedHosts c log, Text.sameIgnoringCase host b = true
  history : e.history = (CrashHistory.ofLimits c.stability.maxCrashes.toNat
    (c.stability.windowSeconds.toNat * 1000)).after (incidents 0 log)
  guests : ∀ p, e.guests.contains p = isGuest log p
  clock : e.clock = Journal.clock 0 log
  catalog : e.hub.supply.Genuine (Catalog.source { plugins := c.plugins })

/-- At the start an engine answers as it was configured. -/
theorem Reflects.start (hc : c.validate = .ok ()) :
    ∃ e, ofConfig c = .ok e ∧ Reflects c [] e := by
  refine ⟨_, by rw [ofConfig, hc]; rfl, ?_⟩
  exact {
    options := rfl
    asksRules := rfl
    rulesFault := rfl
    historyFault := rfl
    guestsFault := rfl
    disabled := fun _ => rfl
    blocked := fun host => by
      rw [blockedHosts, List.filterMap_nil, List.append_nil]
      simp only [Text.sameIgnoringCase_iff, @eq_comm _ (Text.lower host)]
      exact List.mem_map
    history := rfl
    guests := fun _ => rfl
    clock := rfl
    catalog := Supply.genuine_ofSource _ true false }

/-- **Every step keeps this up.** -/
theorem Reflects.step (h : Reflects c log e) (s : Step) : Reflects c (log ++ [s]) (e.step s) := by
  have hgenuine := genuine_step h.catalog s
  obtain ⟨handlers, hub, hstep⟩ := e.exists_step_eq s
  rw [hstep] at hgenuine ⊢
  exact {
    options := h.options
    asksRules := h.asksRules
    rulesFault := h.rulesFault
    historyFault := h.historyFault
    guestsFault := h.guestsFault
    disabled := fun id => by
      rw [isDisabled_concat, ← h.disabled]
      exact s.isDisabled_rules e.rules id
    blocked := fun host => by
      have hblocked := h.blocked host
      have hrules : Text.lower host ∈ (s.rules e.rules).blockedHosts ↔
          ∃ b ∈ blockedHosts c (log ++ [s]), Text.sameIgnoringCase host b = true := by
        rw [blockedHosts_concat, s.blockedHosts_rules, List.mem_append, hblocked]
        cases s.blocks? with
        | none => simp
        | some b => simp [Text.sameIgnoringCase_iff, or_and_right, exists_or, or_comm]
      exact hrules
    history := by
      rw [incidents_concat, CrashHistory.after_append, ← h.history, ← h.clock]
      rfl
    guests := fun p => by
      rw [isGuest_concat, ← h.guests]
      exact s.contains_guests e.guests p
    clock := by
      rw [clock_concat, ← h.clock]
      rfl
    catalog := hgenuine }

theorem Reflects.after (h : Reflects c [] e) (log : List Step) : Reflects c log (e.after log) := by
  induction log using List.reverseRecOn with
  | nil => exact h
  | append_singleton before s ih =>
    rw [after_concat]
    exact ih.step s

/-! ## 4. What the parts answer -/

theorem Reflects.isBlocked_eq (h : Reflects c log e) (topUrl : Url) :
    e.rules.isBlocked topUrl = isBlocked c log topUrl := by
  rw [AvailabilityRules.isBlocked, isBlocked, Bool.eq_iff_iff]
  cases topUrl.hostText? with
  | none => simp
  | some host => simpa using h.blocked host

theorem Reflects.filterAnswer_eq (h : Reflects c log e) (request : Request) (d : PluginDescriptor) :
    e.filterAnswer request d = .ok (isAvailable c log request.topUrl d.id) := by
  rw [filterAnswer, h.rulesFault, AvailabilityRules.isAvailable, h.disabled, h.isBlocked_eq,
    Bool.and_comm, isAvailable]

/-- A sound configuration allows no plugin to be unstable without a crash. -/
theorem maxCrashes_pos (hc : c.validate = .ok ()) : 1 ≤ c.stability.maxCrashes.toNat := by
  have hnone := Config.validate_eq_ok_iff.mp hc
  simp only [Config.firstDefect?, Option.or_eq_none_iff, Config.stabilityDefect?] at hnone
  have hne : c.stability.maxCrashes ≠ 0 := by
    intro hzero
    exact absurd hnone.2 (by simp [hzero])
  rw [Nat.one_le_iff_ne_zero]
  exact fun hzero => hne (UInt64.toNat_inj.mp hzero)

/-- The history answers as the log says to questions that are not asked before any crash. -/
theorem Reflects.isUnstable_eq (h : Reflects c log e) (hc : c.validate = .ok ()) {id : PluginId}
    (hs : (crashesOf id (incidents 0 log)).Pairwise (· ≤ ·))
    (hnow : ∀ at_ ∈ crashesOf id (incidents 0 log), at_ ≤ Journal.clock 0 log) :
    e.history.isUnstable id e.clock = isUnstable c log id := by
  have hlimit := maxCrashes_pos hc
  rw [h.history, h.clock, Bool.eq_iff_iff, CrashHistory.isUnstable_after_iff _ _ _ id hs hnow,
    Nat.max_eq_left hlimit]
  exact decide_eq_true_iff.symm

/-- **The judgement rests on what the log says.** -/
theorem Reflects.judge_eq (h : Reflects c log e)
    (hstable : ∀ id, e.history.isUnstable id e.clock = isUnstable c log id) (request : Request) :
    e.judge request (.ok c.plugins) = verdict c log request := by
  have hassociations : e.hub.supply.catalog.associationsOf = (·.associations) := by
    rw [h.catalog.source]
    rfl
  have hfirst : ∀ cs, Policy.firstAvailable e.collaborators request cs
      = cs.find? fun k => isAvailable c log request.topUrl k.plugin.id := by
    intro cs
    have hfilter : e.collaborators.available = some e.filterAnswer := if_pos h.asksRules
    simp only [Policy.firstAvailable, hfilter, h.filterAnswer_eq, Answer.grants]
  have hisolated : (e.collaborators.isolated request.process).suspects
      = isGuest log request.process := by
    simp only [collaborators, h.guestsFault, Answer.suspects, h.guests]
  have hunstable : ∀ id, (e.collaborators.unstable id).suspects = isUnstable c log id := by
    intro id
    simp only [collaborators, h.historyFault, Answer.suspects, hstable]
  simp only [judge, Policy.judge, hassociations, Policy.decide, Policy.choose, hfirst, verdict]
  generalize candidates (·.associations) request.url request.mimeType true c.plugins = matching
  cases matching.find? fun k => isAvailable c log request.topUrl k.plugin.id with
  | some k =>
    simp only [hisolated, hunstable, Policy.lowered]
    cases isGuest log request.process <;> cases isUnstable c log k.plugin.id <;> simp
  | none =>
    cases matching with
    | nil =>
      simp only [Policy.withoutCandidates, PolicyOptions.reportsLegacyUnsupported, h.options]
      rfl
    | cons k rest =>
      simp only [hisolated, hunstable, Policy.lowered]
      cases isGuest log request.process <;> cases hlegacy : k.plugin.kind.isLegacy <;>
        simp [hlegacy]

/-- **A direct request is answered as the log alone says**, after any sequence of operations and
polls on the engine of a sound configuration.  The instants of each plugin's crashes must not
decrease, and the request must not be made before any of them. -/
theorem resolve_meets_journal (c : Config) (hc : c.validate = .ok ()) (log : List Step)
    (sorted : ∀ id, (crashesOf id (incidents 0 log)).Pairwise (· ≤ ·))
    (past : ∀ id, ∀ at_ ∈ crashesOf id (incidents 0 log), at_ ≤ Journal.clock 0 log)
    (request : Request) :
    ∃ e, ofConfig c = .ok e ∧
      ((e.after log).apply (.resolve request)).1 = .verdict (verdict c log request) := by
  obtain ⟨e, he, hstart⟩ := Reflects.start hc
  have h := hstart.after log
  have hjudge := h.judge_eq (fun id => h.isUnstable_eq hc (sorted id) (past id)) request
  rw [← hjudge, ← resolve_eq_judge h.catalog (fun _ => rfl)]
  exact ⟨e, he, rfl⟩

/-- Two crashes within the window make a plugin unstable, though it was switched off and on again in
between.  To a page of a host that was blocked in other letters it is not available at all. -/
theorem resolve_meets_journal_two_crashes :
    let plugin : PluginDescriptor := { id := ⟨"p"⟩, associations := [{ mimeType := "a/b" }] }
    let c : Config :=
      { plugins := [plugin], stability := { maxCrashes := 2, windowSeconds := 60 } }
    let log : List Step :=
      [.operation (.crash ⟨"p"⟩ (some 5)), .operation (.disable ⟨"p"⟩), .poll 0,
        .operation (.block "Example.ORG"), .operation (.setClock 59000),
        .operation (.enable ⟨"p"⟩), .operation (.crash ⟨"p"⟩ none)]
    let page (host : String) : Url :=
      { scheme := "https", authority := some { host := some (.name host) }, path := "/" }
    let request (host : String) : Request :=
      { (default : Request) with topUrl := page host, mimeType := "a/b" }
    (∃ e, ofConfig c = .ok e ∧ ((e.after log).apply (.resolve (request "example.com"))).1
        = .verdict (.on .unauthorized plugin "a/b")) ∧
      ∃ e, ofConfig c = .ok e ∧ ((e.after log).apply (.resolve (request "example.org"))).1
        = .verdict (.on .disabled plugin "a/b") := by
  intro plugin c log page request
  have hcrashes : ∀ id, crashesOf id (incidents 0 log) = if ⟨"p"⟩ = id then [5, 59000] else [] := by
    intro id
    by_cases hid : ⟨"p"⟩ = id <;> simp [log, incidents, crashesOf, Step.incident?, Step.clock, hid,
      Incident.instantOf?]
  have hvalid : c.validate = .ok () := by decide
  have hsorted : ∀ id, (crashesOf id (incidents 0 log)).Pairwise (· ≤ ·) := by
    intro id
    rw [hcrashes]
    split <;> decide
  have hpast : ∀ id, ∀ at_ ∈ crashesOf id (incidents 0 log), at_ ≤ Journal.clock 0 log := by
    intro id
    rw [hcrashes]
    split <;> decide
  have hother : verdict c log (request "example.com") = .on .unauthorized plugin "a/b" := by decide
  have hblocked : verdict c log (request "example.org") = .on .disabled plugin "a/b" := by decide
  rw [← hother, ← hblocked]
  exact ⟨resolve_meets_journal c hvalid log hsorted hpast _,
    resolve_meets_journal c hvalid log hsorted hpast _⟩

end Engine

end PluginArbiter
