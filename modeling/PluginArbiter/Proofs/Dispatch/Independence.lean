/-
# Dispatchers do not notice each other

Dispatchers that share a catalog wait for each other's tasks.  Yet where all tasks are run together,
a dispatcher among others does what it would do alone: its state and its submissions after a command
can be told from what they were before (`Solo.perform`), and a call on another dispatcher is nothing
to it.  So two runs that differ only in the calls on one dispatcher are the same to every other one
(`obey_independent`).  The calls may come at any moment, also while a task of the one dispatcher is
inside the enumeration that all the others wait for.

Only what the catalog answers may depend on how often it was asked.  So the verdicts are the same
where it answers all enumerations alike, and in any case verdicts are given on the same submissions.
That it never fails is not enough (`verdicts_hang_on_others`).

Main statements:
* `side_perform`, `side_obey`: among others a dispatcher does what it does alone;
* `obey_unstuck`, `obey_told`: once the gate is open, letting all tasks run leaves nothing open and
  loses nothing;
* `obey_independent`: calls on one dispatcher are nothing to the others;
* `verdicts_hang_on_others`: but the verdicts are, where the catalog changes its mind.
-/
import PluginArbiter.Dispatch.Command
import PluginArbiter.Policy
import PluginArbiter.Proofs.Dispatch.Backing
import PluginArbiter.Proofs.Dispatch.Rounds

namespace PluginArbiter

open Dispatcher

/-! ## 1. A dispatcher alone -/

/-- What concerns the dispatcher at one place: whether the gate is open, how many dispatchers were
made, the dispatcher, if it was made, and its submissions that have a task. -/
structure Solo where
  gateOpen : Bool
  made : Nat
  self : Option Dispatcher
  jobs : List Submission

namespace Solo

open Hub

/-- A call on the dispatcher. -/
def serve (s : Solo) (call : Call) : Solo :=
  match s.self with
  | none => s
  | some d => { s with self := some (served d call), jobs := s.jobs ++ brings d call }

/-- Its tasks run until none can go on. -/
def settle (s : Solo) (verdictOn : Request → Verdict) : Solo :=
  match s.self with
  | none => s
  | some d =>
    { s with
      self := some (s.jobs.foldl (visit s.gateOpen verdictOn) d)
      jobs := s.jobs.filter (d.stays s.gateOpen) }

/-- A command, as far as it concerns the dispatcher at a place. -/
def perform (place : Nat) (verdictOn : Judge → Request → Verdict) (s : Solo) : Command → Solo
  | .addDispatcher process handlers =>
    { s with
      made := s.made + 1
      self := if s.made = place then some { process, handlers } else s.self }
  | .call p call => if p = place then s.serve call else s
  | .openGate => { s with gateOpen := true }
  | .settle judge => s.settle (verdictOn judge)

/-- Where commands lead. -/
def obey (place : Nat) (verdictOn : Judge → Request → Verdict) (s : Solo)
    (commands : List Command) : Solo :=
  commands.foldl (perform place verdictOn) s

/-- What a command is answered, if it is a call on the dispatcher. -/
def answer (place : Nat) (s : Solo) : Command → List Event
  | .call p call =>
    if p = place then [(s.self.map fun d => reply place d call).getD .other] else []
  | _ => []

/-- What the calls on the dispatcher are answered, one after the other. -/
def answersOn (place : Nat) (verdictOn : Judge → Request → Verdict) (s : Solo) :
    List Command → List Event
  | [] => []
  | c :: rest =>
    s.answer place c ++ answersOn place verdictOn (s.perform place verdictOn c) rest

section Others

variable {place other : Nat} (hne : other ≠ place) (verdictOn : Judge → Request → Verdict)
include hne

/-- A call on another dispatcher is nothing to it. -/
theorem perform_of_isOn (s : Solo) {c : Command} (hon : c.isOn other = true) :
    s.perform place verdictOn c = s ∧ s.answer place c = [] := by
  cases c with
  | call p call =>
    have hp : p = other := by simpa [Command.isOn] using hon
    exact ⟨if_neg (hp ▸ hne), if_neg (hp ▸ hne)⟩
  | _ => exact absurd hon (by simp [Command.isOn])

/-- **So it can do without them.** -/
theorem run_without (s : Solo) (commands : List Command) :
    s.obey place verdictOn (Command.without other commands) = s.obey place verdictOn commands ∧
      s.answersOn place verdictOn (Command.without other commands)
        = s.answersOn place verdictOn commands := by
  induction commands generalizing s with
  | nil => exact ⟨rfl, rfl⟩
  | cons c rest ih =>
    obtain ⟨hobey, hanswers⟩ := ih (s.perform place verdictOn c)
    cases hon : c.isOn other with
    | false =>
      rw [Command.without, List.filter_cons, if_pos (by simp [hon])]
      exact ⟨hobey, congrArg (s.answer place c ++ ·) hanswers⟩
    | true =>
      obtain ⟨hstate, hanswer⟩ := perform_of_isOn hne verdictOn s hon
      rw [hstate] at hobey hanswers
      rw [Command.without, List.filter_cons, if_neg (by simp [hon])]
      refine ⟨hobey.trans ?_, hanswers.trans ?_⟩
      · change _ = (s.perform place verdictOn c).obey place verdictOn rest
        rw [hstate]
      · rw [answersOn, hstate, hanswer]
        rfl

end Others

end Solo

namespace Hub

variable {catalog : PluginSource} {f : Verdict → Verdict} {h : Hub}

/-! ## 2. Among others as alone -/

/-- What concerns the dispatcher at a place, seen through `f`. -/
def side (f : Verdict → Verdict) (h : Hub) (place : Nat) : Solo :=
  { gateOpen := h.supply.gateOpen
    made := h.dispatchers.length
    self := h.dispatchers[place]?.map (blurred f)
    jobs := h.jobs place }

/-- A verdict by the first answer of the catalog, seen through `f`. -/
def verdictOn (catalog : PluginSource) (f : Verdict → Verdict) (judge : Judge) (request : Request) :
    Verdict :=
  f (judge request (catalog.answerAt 0))

theorem side_addDispatcher (h : Hub) (place : Nat) (process : ProcessId) (handlers : Handlers)
    (verdictOn : Judge → Request → Verdict) :
    (h.addDispatcher process handlers).2.side f place =
      (h.side f place).perform place verdictOn (.addDispatcher process handlers) := by
  have hself : ∀ d : Dispatcher, d.blurred f = d →
      (h.dispatchers ++ [d])[place]?.map (blurred f) =
        if h.dispatchers.length = place then some d else h.dispatchers[place]?.map (blurred f) := by
    intro d hd
    rcases Nat.lt_trichotomy place h.dispatchers.length with hlt | he | hgt
    · rw [List.getElem?_append_left hlt, if_neg (Nat.ne_of_gt hlt)]
    · subst he
      simp [hd]
    · have hlong : (h.dispatchers ++ [d]).length ≤ place := by
        rw [List.length_append]
        exact hgt
      rw [List.getElem?_eq_none hlong, if_neg (Nat.ne_of_lt hgt),
        List.getElem?_eq_none (Nat.le_of_lt hgt)]
  simp only [side, addDispatcher, Solo.perform, List.length_append, List.length_singleton]
  rw [hself _ rfl]
  rfl

theorem side_call (h : Hub) (place p : Nat) (call : Call)
    (verdictOn : Judge → Request → Verdict) :
    (h.act (.call p call)).2.side f place =
      (h.side f place).perform place verdictOn (.call p call) := by
  cases hp : h.dispatchers[p]? with
  | none =>
    simp only [act, hp, Solo.perform]
    split
    · rename_i he
      subst he
      simp [side, Solo.serve, hp]
    · rfl
  | some d =>
    have hlength : (h.serve p d call).2.dispatchers.length = h.dispatchers.length := by
      rw [serve_eq]
      exact length_setDispatcher h p _
    have hself : (h.serve p d call).2.dispatchers[place]? =
        if p = place then some (served d call) else h.dispatchers[place]? := by
      obtain ⟨hlt, -⟩ := List.getElem?_eq_some_iff.mp hp
      rw [serve_eq]
      change (h.dispatchers.set p _)[place]? = _
      rw [List.getElem?_set, if_pos hlt]
    simp only [act, hp, Solo.perform, side, supply_serve, hlength, hself, jobs_serve]
    by_cases he : p = place
    · subst he
      simp only [if_true, Solo.serve, hp, Option.map_some, blurred_served]
      rw [show brings (d.blurred f) call = brings d call from brings_withReceiver d _ _ call]
    · simp [he]

theorem side_settle (hr : h.AtRest catalog) (hblurs : Blurs catalog f) (judge : Judge)
    (place : Nat) :
    (settle judge h).side f place = (h.side f place).settle (verdictOn catalog f judge) := by
  obtain ⟨hend, hstretch⟩ := hr.settle judge hblurs
  cases hd : h.dispatchers[place]? with
  | none =>
    have hd' : (settle judge h).dispatchers[place]? = none := by
      rw [List.getElem?_eq_none_iff] at hd ⊢
      rwa [hstretch.length]
    have hjobs := hr.sound.jobs_eq_nil hd
    have hjobs' := hend.sound.jobs_eq_nil hd'
    simp [side, Solo.settle, hd, hd', hjobs, hjobs', hstretch.gate, hstretch.length]
  | some d =>
    obtain ⟨d', hd', hvisits, hjobs⟩ := hstretch.visits place d hd
    have hleft : (settle judge h).jobs place = (h.jobs place).filter (d.stays h.supply.gateOpen) :=
      hjobs
    simp only [side, Solo.settle, hd, hd', Option.map_some, hstretch.gate, hstretch.length, hvisits,
      hleft]
    rfl

/-- **Among others a dispatcher does what it does alone.** -/
theorem side_perform (hr : h.AtRest catalog) (hblurs : Blurs catalog f) (place : Nat)
    (c : Command) :
    (h.perform c).2.side f place = (h.side f place).perform place (verdictOn catalog f) c := by
  cases c with
  | addDispatcher process handlers => exact side_addDispatcher h place process handlers _
  | call p call => exact side_call h place p call _
  | openGate => rfl
  | settle judge => exact side_settle hr hblurs judge place

/-- Between two commands the tasks are at rest. -/
theorem AtRest.perform (hr : h.AtRest catalog) (c : Command) :
    (h.perform c).2.AtRest catalog := by
  cases c with
  | addDispatcher process handlers =>
    exact ⟨hr.toSteady.act (.addDispatcher process handlers), rfl, hr.line, hr.cold, fun _ => rfl⟩
  | call p call =>
    have hs := hr.toSteady.act (.call p call)
    change (h.act (.call p call)).2.Steady catalog at hs
    change (h.act (.call p call)).2.AtRest catalog
    cases hp : h.dispatchers[p]? with
    | none => simpa only [act, hp] using hr
    | some d =>
      simp only [act, hp] at hs ⊢
      refine ⟨hs, rfl, fun c hc => ⟨List.nil_prefix, ?_⟩, fun hclosed c hc => ?_, fun _ => rfl⟩
      · rw [supply_serve] at hc
        have horder := (hr.line c hc).order
        rw [serve_eq, List.map_append]
        exact horder.trans (List.prefix_append _ _)
      · rw [supply_serve] at hc hclosed
        exact hr.cold hclosed c hc
  | openGate =>
    exact ⟨hr.toSteady.act .openGate, rfl, hr.line, fun hclosed => Bool.noConfusion hclosed,
      fun _ => rfl⟩
  | settle judge => exact (hr.settle judge (blurs_const catalog default)).1

theorem atRest_start (catalog : PluginSource) (cached gated : Bool) :
    (start catalog cached gated).AtRest catalog where
  toSteady := ⟨sound_start catalog cached gated, inLine_run catalog cached gated [],
    Supply.genuine_ofSource catalog cached gated⟩
  tasks := rfl
  line c hc := by
    cases cached with
    | false => exact absurd hc (by simp [start, Supply.ofSource])
    | true =>
      obtain rfl := Option.some.inj hc
      exact ⟨List.nil_prefix, List.nil_prefix⟩
  cold _ c hc := by
    cases cached with
    | false => exact absurd hc (by simp [start, Supply.ofSource])
    | true =>
      obtain rfl := Option.some.inj hc
      rfl
  ended _ := rfl

theorem AtRest.obey (hr : h.AtRest catalog) (commands : List Command) :
    (h.obey commands).AtRest catalog := by
  induction commands generalizing h with
  | nil => exact hr
  | cons c rest ih => exact ih (hr.perform c)

/-- What a call answers can be told from what concerns its dispatcher. -/
theorem answer_side (f : Verdict → Verdict) (h : Hub) (place : Nat) (c : Command) :
    (h.side f place).answer place c = if c.isOn place then [(h.perform c).1] else [] := by
  cases c with
  | call p call =>
    simp only [Solo.answer, Command.isOn, beq_iff_eq, perform, act, side]
    split
    · rename_i he
      subst he
      cases h.dispatchers[p]? with
      | none => rfl
      | some d =>
        have hreply : reply p (d.blurred f) call = reply p d call := reply_withReceiver d _ _ call
        simp only [Option.map_some, Option.getD_some, serve_event, hreply]
    · rfl
  | _ => rfl

/-- **Whatever is commanded, among others a dispatcher does what it does alone**, and answers what
it answers alone. -/
theorem side_obey (hr : h.AtRest catalog) (hblurs : Blurs catalog f) (place : Nat)
    (commands : List Command) :
    (h.obey commands).side f place =
        (h.side f place).obey place (verdictOn catalog f) commands ∧
      h.answersOn place commands =
        (h.side f place).answersOn place (verdictOn catalog f) commands := by
  induction commands generalizing h with
  | nil => exact ⟨rfl, rfl⟩
  | cons c rest ih =>
    obtain ⟨hobey, hanswers⟩ := ih (hr.perform c)
    rw [side_perform hr hblurs] at hobey hanswers
    refine ⟨hobey, ?_⟩
    rw [answersOn, Solo.answersOn, answer_side, ← hanswers]
    split <;> rfl

/-! ## 3. Commands are runs -/

theorem perform_eq_run (h : Hub) (c : Command) :
    ∃ actions, (h.perform c).2 = h.run actions ∧
      ∀ place, submissionsTo place actions = if c.submitsTo place then 1 else 0 := by
  cases c with
  | addDispatcher process handlers => exact ⟨[.addDispatcher process handlers], rfl, fun _ => rfl⟩
  | call p call =>
    refine ⟨[.call p call], rfl, fun place => ?_⟩
    rw [submissionsTo, List.countP_singleton]
    cases call <;> rfl
  | openGate => exact ⟨[.openGate], rfl, fun _ => rfl⟩
  | settle judge =>
    obtain ⟨ids, hids⟩ := settle_eq_run judge h
    exact ⟨polls judge ids, hids, fun place => submissionsTo_polls place judge ids⟩

/-- To obey commands is a run that submits what the commands submit. -/
theorem obey_eq_run (h : Hub) (commands : List Command) :
    ∃ actions, h.obey commands = h.run actions ∧
      ∀ place, submissionsTo place actions = commands.countP (Command.submitsTo place) := by
  induction commands generalizing h with
  | nil => exact ⟨[], rfl, fun _ => rfl⟩
  | cons c rest ih =>
    obtain ⟨first, hfirst, hsubmits⟩ := h.perform_eq_run c
    obtain ⟨more, hmore, hrest⟩ := ih (h.perform c).2
    refine ⟨first ++ more, ?_, fun place => ?_⟩
    · rw [run_append, ← hfirst]
      exact hmore
    · have hadd : submissionsTo place (first ++ more)
          = submissionsTo place first + submissionsTo place more := List.countP_append
      rw [hadd, hsubmits, hrest, List.countP_cons, Nat.add_comm]

/-- **With the gate open nothing stays open**, also where numbers have started over. -/
theorem obey_unstuck (catalog : PluginSource) (cached gated : Bool) (commands : List Command)
    (place : Nat) :
    let h := (start catalog cached gated).obey commands
    h.supply.gateOpen = true → ∀ judge d, (settle judge h).dispatchers[place]? = some d →
      d.pending = [] := by
  intro h hopen judge d hd
  have hr : h.AtRest catalog := (atRest_start catalog cached gated).obey commands
  have hnone : (settle judge h).tasks = [] := Ready.settle_tasks ⟨hr.sound, hr.inLine, hopen⟩ judge
  obtain ⟨actions, hrun, -⟩ :=
    (start catalog cached gated).obey_eq_run (commands ++ [.settle judge])
  have hsettle : settle judge h = (start catalog cached gated).run actions := by
    rw [← hrun, obey_concat]
    rfl
  rw [hsettle] at hd hnone
  have hbacked := (run_course catalog cached gated hd).backed
  refine List.eq_nil_iff_forall_not_mem.mpr fun row hrow => ?_
  obtain ⟨s, hs, -⟩ := hbacked.rows row hrow
  simp [jobs, hnone] at hs

/-- **And nothing is lost**: with the gate open the sink is told of every submission that was open,
as long as numbers have not started over. -/
theorem obey_told (catalog : PluginSource) (cached gated : Bool) {commands : List Command}
    {place : Nat} (few : commands.countP (Command.submitsTo place) < UInt64.size) :
    let h := (start catalog cached gated).obey commands
    h.supply.gateOpen = true → ∀ judge d, h.dispatchers[place]? = some d → d.sink = .listening →
      ∃ d', (settle judge h).dispatchers[place]? = some d' ∧
        d'.received.map (·.1) = d.received.map (·.1) ++ d.pending.map (·.1) := by
  intro h hopen judge d hd hsink
  have hr : h.AtRest catalog := (atRest_start catalog cached gated).obey commands
  obtain ⟨hmatched, hmade⟩ : Matched d (h.jobs place) ∧ d.cancels.made < UInt64.size := by
    obtain ⟨actions, hrun, hsubmits⟩ := (start catalog cached gated).obey_eq_run commands
    rw [← hsubmits] at few
    rw [show h = (start catalog cached gated).run actions from hrun] at hd ⊢
    exact ⟨run_matched catalog cached gated hd few, run_made_lt catalog cached gated hd few⟩
  let f : Verdict → Verdict := fun _ => default
  obtain ⟨-, hstretch⟩ := hr.settle judge (blurs_const catalog default)
  obtain ⟨d', hd', hvisits, -⟩ := hstretch.visits place d hd
  have hbooks : SameBooks d (d.blurred f) := ⟨rfl, rfl, rfl, rfl⟩
  refine ⟨d', hd', ?_⟩
  rw [hopen] at hvisits
  rw [← tokens_blurred f d', hvisits, ← tokens_blurred f d]
  exact (hmatched.congr hbooks).visits (Nat.le_of_lt hmade) hsink _

/-! ## 4. Two runs -/

/-- **Two runs that differ only in the calls on one dispatcher** are the same to every other one, as
far as `f` lets it be seen. -/
theorem side_eq_of_without (catalog : PluginSource) (cached gated : Bool) {f : Verdict → Verdict}
    (hblurs : Blurs catalog f) {a b : Nat} (hne : a ≠ b) {commands commands' : List Command}
    (hsame : Command.without a commands' = Command.without a commands) :
    ((start catalog cached gated).obey commands').side f b
        = ((start catalog cached gated).obey commands).side f b ∧
      (start catalog cached gated).answersOn b commands'
        = (start catalog cached gated).answersOn b commands := by
  obtain ⟨hobey, hanswers⟩ := side_obey (atRest_start catalog cached gated) hblurs b commands
  obtain ⟨hobey', hanswers'⟩ := side_obey (atRest_start catalog cached gated) hblurs b commands'
  let alone := (start catalog cached gated).side f b
  obtain ⟨hwithout, hanswersWithout⟩ := alone.run_without hne (verdictOn catalog f) commands
  obtain ⟨hwithout', hanswersWithout'⟩ := alone.run_without hne (verdictOn catalog f) commands'
  rw [hsame] at hwithout' hanswersWithout'
  exact ⟨by rw [hobey', hobey, ← hwithout', hwithout],
    by rw [hanswers', hanswers, ← hanswersWithout', hanswersWithout]⟩

/-- **Calls on one dispatcher are nothing to the others.**  Any number of dispatchers share a
catalog, and the polling of their tasks is left to steps that let all of them run until none can go
on.  Take two runs that differ in nothing but the calls on the dispatcher at `a`; in one of them
there may be none.  Then, for every other dispatcher,
* the calls on it are answered the same, one after the other;
* at the point to which the runs lead, and so at every point of them, the same submissions are open,
  and it has received verdicts on the same submissions, in the same order;
* where the catalog answers all enumerations alike, they are the same verdicts, and it is in the same
  state.

Nor are its submissions ever stuck or lost, whatever was done to the dispatcher at `a` and to its
tasks.  With the gate open none is open after the tasks have run; and the sink, if it listens, was
told of each that was open, as long as the numbers of its dispatcher have not started over. -/
theorem obey_independent (catalog : PluginSource) (cached gated : Bool) {a b : Nat} (hne : a ≠ b)
    {commands commands' : List Command}
    (hsame : Command.without a commands' = Command.without a commands) :
    let s := start catalog cached gated
    let h := s.obey commands
    let h' := s.obey commands'
    s.answersOn b commands' = s.answersOn b commands ∧
      h'.dispatchers[b]?.map (·.pending) = h.dispatchers[b]?.map (·.pending) ∧
      (h'.dispatchers[b]?.map fun d => d.received.map (·.1))
        = (h.dispatchers[b]?.map fun d => d.received.map (·.1)) ∧
      (∀ answer, catalog.Always answer → h'.dispatchers[b]? = h.dispatchers[b]?) ∧
      (h.supply.gateOpen = true → ∀ judge d, (settle judge h).dispatchers[b]? = some d →
        d.pending = []) ∧
      (h.supply.gateOpen = true → commands.countP (Command.submitsTo b) < UInt64.size →
        ∀ judge d, h.dispatchers[b]? = some d → d.sink = .listening →
          ∃ d', (settle judge h).dispatchers[b]? = some d' ∧
            d'.received.map (·.1) = d.received.map (·.1) ++ d.pending.map (·.1)) := by
  intro s h h'
  obtain ⟨hside, hanswers⟩ :=
    side_eq_of_without catalog cached gated (blurs_const catalog default) hne hsame
  have hself : h'.dispatchers[b]?.map (blurred fun _ => default)
      = h.dispatchers[b]?.map (blurred fun _ => default) := congrArg Solo.self hside
  refine ⟨hanswers, ?_, ?_, fun answer halways => ?_, obey_unstuck catalog cached gated commands b,
    fun hopen few => obey_told catalog cached gated few hopen⟩
  · have hpending := congrArg (Option.map Dispatcher.pending) hself
    rwa [Option.map_map, Option.map_map] at hpending
  · have hreceived := congrArg (Option.map fun d => d.received.map (·.1)) hself
    simpa only [Option.map_map, Function.comp_def, tokens_blurred] using hreceived
  · obtain ⟨hside, -⟩ := side_eq_of_without catalog cached gated (blurs_id halways) hne hsame
    have hid : h'.dispatchers[b]?.map (blurred id) = h.dispatchers[b]?.map (blurred id) :=
      congrArg Solo.self hside
    have hblurred : blurred id = id := funext blurred_id
    rwa [hblurred, Option.map_id, id, id] at hid

/-- One token is open with two dispatchers, and the task of the first is inside the enumeration that
the task of the second waits for, when the first is shut down.  Then the gate opens and all tasks
run: the second is told, as it would be if the first had never been called. -/
theorem obey_independent_handover :
    let request : Request := { (default : Request) with mimeType := "a" }
    let before : List Command :=
      [.addDispatcher ⟨0⟩ {}, .addDispatcher ⟨0⟩ {}, .call 0 (.submit (.ofNat 1) request),
        .call 1 (.submit (.ofNat 1) request), .settle echo]
    let commands := before ++ [.call 0 .shut, .openGate]
    let start := start {} true true
    let h := start.obey commands
    (start.obey before).dispatchers.map (·.pending.map (·.1)) = [[.ofNat 1], [.ofNat 1]] ∧
      (start.obey before).tasks.map (fun t => (t.owner, t.stage))
        = [(0, .enumerating 0), (1, .asking)] ∧
      (start.obey (Command.without 0 commands)).dispatchers[1]? = h.dispatchers[1]? ∧
      ∃ d', (settle echo h).dispatchers[1]? = some d' ∧ d'.pending = [] ∧
        d'.received.map (·.1) = [.ofNat 1] := by
  intro request before commands start h
  obtain ⟨-, -, -, hstate, hunstuck, htold⟩ :=
    @obey_independent {} true true 0 1 (by decide) commands (Command.without 0 commands) rfl
  have hwaiting : (h.dispatchers[1]?.map fun d =>
      (d.sink, d.received.map (·.1), d.pending.map (·.1)))
        = some (.listening, [], [.ofNat 1]) := by
    decide +kernel
  obtain ⟨d, hd, hsees⟩ := Option.map_eq_some_iff.mp hwaiting
  obtain ⟨hsink, hreceived, hpending⟩ : d.sink = .listening ∧ d.received.map (·.1) = [] ∧
      d.pending.map (·.1) = [.ofNat 1] := by simpa using hsees
  have hopen : h.supply.gateOpen = true := by decide +kernel
  obtain ⟨d', hd', htokens⟩ := htold hopen (by decide +kernel) echo d hd hsink
  rw [hreceived, hpending] at htokens
  exact ⟨by decide +kernel, by decide +kernel, hstate (.ok []) fun _ => rfl, d', hd',
    hunstuck hopen echo d' hd', htokens⟩

/-- **Verdicts hang on the calls on others** where the catalog does not answer all enumerations alike.
The first catalog never fails, but it lists the plugin from its second enumeration on.  The second
would fail once and has one list; a submission to the first dispatcher starts the enumeration that
would fail and is cancelled while its answer is held back, so in the run with these calls nobody ever
meets the fault.  Both times the second dispatcher is told that the plugin is allowed, and without the
calls on the first that there is none. -/
theorem verdicts_hang_on_others :
    let plugin : PluginDescriptor := { id := ⟨"p"⟩, associations := [{ mimeType := "a/b" }] }
    let changing : PluginSource :=
      { answerAt := fun number => .ok (if number = 0 then [] else [plugin]) }
    let failing : Catalog :=
      { plugins := [plugin], fault := some (.unavailable "x"), failures := some 1 }
    let trusting : Collaborators :=
      { available := none, unstable := fun _ => .ok false, isolated := fun _ => .ok false }
    let judge : Judge := Policy.judge {} trusting (·.associations)
    let request : Request := { (default : Request) with mimeType := "a/b" }
    let pair : List Command := [.addDispatcher ⟨0⟩ {}, .addDispatcher ⟨0⟩ {}]
    let both : List Command :=
      pair ++ [.call 0 (.submit (.ofNat 1) request), .call 1 (.submit (.ofNat 1) request),
        .settle judge]
    let handedOver : List Command :=
      pair ++ [.call 0 (.submit (.ofNat 1) request), .settle judge, .call 0 (.cancel (.ofNat 1)),
        .call 1 (.submit (.ofNat 1) request), .openGate, .settle judge]
    let told := fun (h : Hub) => h.dispatchers[1]?.map (·.received)
    changing.NeverFails ∧
      told ((start changing false false).obey both)
        = some [(.ofNat 1, .on .allowed plugin "a/b")] ∧
      told ((start changing false false).obey (Command.without 0 both))
        = some [(.ofNat 1, .without .notFound)] ∧
      told ((start failing.source false true).obey handedOver)
        = some [(.ofNat 1, .on .allowed plugin "a/b")] ∧
      told ((start failing.source false true).obey (Command.without 0 handedOver))
        = some [(.ofNat 1, .without .notFound)] := by
  refine ⟨fun number => ⟨_, rfl⟩, ?_, ?_, ?_, ?_⟩ <;> decide +kernel

end Hub

end PluginArbiter
