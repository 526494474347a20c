/-
# What a round does to every dispatcher

When all tasks run, what happens to a dispatcher can be told from the dispatcher, its own
submissions and the gate: it is visited for each of them, in the order in which they were accepted
(`Dispatcher.visit`).  Other dispatchers do not come into it, not even where one of their tasks has
the turn that everybody waits for.  What does come into it is the catalog's answer, which may differ
from one enumeration to the next; so verdicts are seen through a function that blurs the difference
(`Blurs`).  For a catalog that answers all enumerations alike this may be the identity.

Main statements:
* `Turn.stretch`: one poll visits the dispatcher that the task works for, and no other;
* `Matched.visits`: with the gate open the sink is told of every open submission;
* `AtRest.round`: so does a round, for all tasks;
* `AtRest.settle`: and so does letting all tasks run, whatever the number of rounds.
-/
import PluginArbiter.Proofs.Dispatch.Receiver
import PluginArbiter.Proofs.Dispatch.Turns

namespace PluginArbiter

/-! ## 1. What a turn does to a dispatcher -/

namespace Dispatcher

variable {d : Dispatcher} {f : Verdict → Verdict}

/-- The dispatcher, where of the verdicts that were received only what `f` leaves is seen. -/
def blurred (f : Verdict → Verdict) (d : Dispatcher) : Dispatcher :=
  d.withReceiver d.sink (d.received.map fun r => (r.1, f r.2))

theorem blurred_id (d : Dispatcher) : d.blurred id = d := by
  simp [blurred, withReceiver]

/-- Under which tokens verdicts were received is always seen. -/
theorem tokens_blurred (f : Verdict → Verdict) (d : Dispatcher) :
    (d.blurred f).received.map (·.1) = d.received.map (·.1) := by
  simp [blurred, withReceiver]

theorem blurred_withdraw (f : Verdict → Verdict) (d : Dispatcher) (s : Submission) :
    (d.withdraw s).blurred f = (d.blurred f).withdraw s := by
  obtain ⟨hreceived, hsink⟩ := Hub.release_keeps_sink d s
  have hwithdraw := withdraw_withReceiver d d.sink (d.received.map fun r => (r.1, f r.2)) s
  rw [blurred, blurred, hwithdraw, withdraw, hreceived, hsink]

theorem blurred_tell (f : Verdict → Verdict) (d : Dispatcher) (token : Token) (verdict : Verdict) :
    (d.tell token verdict).2.blurred f = ((d.blurred f).tell token (f verdict)).2 := by
  obtain ⟨process, handlers, nextSeq, pending, cancels, isDropped, sink, received⟩ := d
  cases sink <;> simp [tell, blurred, withReceiver]

theorem blurred_conclude (f : Verdict → Verdict) (d : Dispatcher) (s : Submission)
    (verdict : Verdict) :
    (d.conclude s verdict).2.blurred f = ((d.blurred f).conclude s (f verdict)).2 := by
  have htells : (d.blurred f).tellsOf s = d.tellsOf s := tellsOf_withReceiver d s _ _
  rw [conclude_eq_tellsOf, conclude_eq_tellsOf, htells, ← blurred_withdraw]
  split
  · exact blurred_tell f _ _ _
  · rfl

theorem blurred_served (f : Verdict → Verdict) (d : Dispatcher) (call : Hub.Call) :
    (Hub.served d call).blurred f = Hub.served (d.blurred f) call := by
  by_cases hkeep : call ≠ .dropSink ∧ call ≠ .closeReceiver
  · have hown : Hub.served d call = (Hub.served d call).withReceiver d.sink d.received :=
      Hub.served_withReceiver d d.sink d.received call hkeep
    have hsink : (Hub.served d call).sink = d.sink := by rw [hown]; rfl
    have hblurred := Hub.served_withReceiver d d.sink (d.received.map fun r => (r.1, f r.2)) call
      hkeep
    rw [blurred, blurred, hblurred, Hub.received_served, hsink]
  · rcases not_and_or.mp hkeep with hdrop | hclose
    · obtain rfl := not_not.mp hdrop
      rfl
    · obtain rfl := not_not.mp hclose
      rfl

/-- What becomes of a dispatcher when the task of one of its submissions is polled in its turn. -/
def visit (isOpen : Bool) (verdictOn : Request → Verdict) (d : Dispatcher) (s : Submission) :
    Dispatcher :=
  if d.cancels.isCancelled s.cancel then d.withdraw s
  else if isOpen then (d.conclude s (verdictOn s.request)).2 else d

/-- Whether the task stays. -/
def stays (isOpen : Bool) (d : Dispatcher) (s : Submission) : Bool :=
  !isOpen && !d.cancels.isCancelled s.cancel

theorem cancels_visit (isOpen : Bool) (verdictOn : Request → Verdict) (d : Dispatcher)
    (s : Submission) : (d.visit isOpen verdictOn s).cancels = d.cancels := by
  unfold visit
  split
  · exact release_cancels d s
  · split
    · exact conclude_cancels d s _
    · rfl

theorem cancels_visits (isOpen : Bool) (verdictOn : Request → Verdict) (d : Dispatcher)
    (jobs : List Submission) :
    (jobs.foldl (visit isOpen verdictOn) d).cancels = d.cancels := by
  induction jobs generalizing d with
  | nil => rfl
  | cons s rest ih => exact (ih _).trans (cancels_visit isOpen verdictOn d s)

/-- Who stays, stays for the next round too, and nothing happens to the dispatcher. -/
theorem visits_of_stays {isOpen : Bool} {verdictOn : Request → Verdict} {jobs : List Submission}
    (hstays : ∀ s ∈ jobs, d.stays isOpen s = true) :
    jobs.foldl (visit isOpen verdictOn) d = d := by
  induction jobs with
  | nil => rfl
  | cons s rest ih =>
    obtain ⟨hclosed, hlive⟩ : isOpen = false ∧ d.cancels.isCancelled s.cancel = false := by
      simpa [stays] using hstays s List.mem_cons_self
    have hvisit : d.visit isOpen verdictOn s = d := by
      simp [visit, hclosed, hlive]
    rw [List.foldl_cons, hvisit]
    exact ih fun s' hs' => hstays s' (List.mem_cons_of_mem s hs')

/-- **With the gate open, letting all tasks run tells the sink of every open submission**, in the
order in which they were accepted, and of nothing else. -/
theorem Matched.visits {d : Dispatcher} {jobs : List Submission} (h : Matched d jobs)
    (few : d.cancels.made ≤ UInt64.size) (hsink : d.sink = .listening)
    (verdictOn : Request → Verdict) :
    (jobs.foldl (visit true verdictOn) d).received.map (·.1)
      = d.received.map (·.1) ++ d.pending.map (·.1) := by
  induction jobs generalizing d with
  | nil =>
    have hempty : d.pending = [] := by simpa [Dispatcher.live] using h.table
    simp [hempty]
  | cons s rest ih =>
    have h' : Matched d ([] ++ s :: rest) := h
    rw [List.foldl_cons, visit]
    cases hc : d.cancels.isCancelled s.cancel with
    | true =>
      have hrest := h'.withdraw few hc
      rw [if_pos rfl]
      rw [h.withdraw_eq few List.mem_cons_self hc] at hrest ⊢
      exact ih hrest few hsink
    | false =>
      have hlive : d.live (s :: rest) = s :: d.live rest := by
        rw [Dispatcher.live, List.filter_cons, if_pos (by simp [isLive, hc])]
        rfl
      have htable : d.pending = s.row :: without d.pending s.token := by
        rw [h'.without_of_live hc, h.table, hlive]
        rfl
      have hrest := h'.conclude hc (verdictOn s.request)
      have hmem : s ∈ d.live (s :: rest) := mem_live.mpr ⟨List.mem_cons_self, hc⟩
      have htold : (d.conclude s (verdictOn s.request)).2 =
          { d with
            pending := without d.pending s.token
            received := d.received ++ [(s.token, verdictOn s.request)] } := by
        rw [h.conclude_eq hmem, tell, hsink]
      rw [if_neg (by simp), if_pos rfl]
      rw [htold] at hrest ⊢
      rw [ih hrest few hsink]
      conv_rhs => rw [htable]
      simp [Submission.row]

end Dispatcher

namespace Hub

open Dispatcher

variable {catalog : PluginSource} {judge : Judge} {f : Verdict → Verdict} {h h' h'' : Hub}
  {kept kept' kept'' rest ts us : List Task} {t : Task}

/-! ## 2. What a round does to every dispatcher -/

/-- The submissions of some tasks, as far as they were made at a place. -/
def jobsOf (place : Nat) (tasks : List Task) : List Submission :=
  (tasks.filter fun t => t.owner = place).map (·.submission)

theorem jobsOf_append (place : Nat) (ts us : List Task) :
    jobsOf place (ts ++ us) = jobsOf place ts ++ jobsOf place us := by
  simp [jobsOf]

theorem jobsOf_singleton (place : Nat) (t : Task) :
    jobsOf place [t] = if t.owner = place then [t.submission] else [] := by
  by_cases he : t.owner = place <;> simp [jobsOf, he]

/-- What `f` leaves of a verdict does not depend on the enumeration that the answer comes from. -/
def Blurs (catalog : PluginSource) (f : Verdict → Verdict) : Prop :=
  ∀ (judge : Judge) (request : Request) (number : Nat),
    f (judge request (catalog.answerAt number)) = f (judge request (catalog.answerAt 0))

/-- Whatever the catalog does, nothing of a verdict is left where nothing is looked at. -/
theorem blurs_const (catalog : PluginSource) (verdict : Verdict) : Blurs catalog fun _ => verdict :=
  fun _ _ _ => rfl

/-- Where all enumerations end alike, nothing need be blurred. -/
theorem blurs_id {answer : CatalogAnswer} (halways : catalog.Always answer) : Blurs catalog id := by
  intro judge request number
  rw [halways number, halways 0]

/-- **What polling some tasks in their turn does to every dispatcher**, where `kept` and `kept'` are
the tasks that stayed so far.  Each dispatcher is visited for its own submissions, in their order,
and for no others. -/
structure Stretch (catalog : PluginSource) (judge : Judge) (f : Verdict → Verdict) (ts : List Task)
    (h : Hub) (kept : List Task) (h' : Hub) (kept' : List Task) : Prop where
  gate : h'.supply.gateOpen = h.supply.gateOpen
  length : h'.dispatchers.length = h.dispatchers.length
  visits : ∀ (place : Nat) (d : Dispatcher), h.dispatchers[place]? = some d →
    ∃ d', h'.dispatchers[place]? = some d' ∧
      d'.blurred f = (jobsOf place ts).foldl
        (visit h.supply.gateOpen fun request => f (judge request (catalog.answerAt 0)))
        (d.blurred f) ∧
      jobsOf place kept' = jobsOf place kept ++
        (jobsOf place ts).filter (d.stays h.supply.gateOpen)

namespace Stretch

theorem nothing (catalog : PluginSource) (judge : Judge) (f : Verdict → Verdict) (h : Hub)
    (kept : List Task) : Stretch catalog judge f [] h kept h kept :=
  ⟨rfl, rfl, fun _ d hd => ⟨d, hd, rfl, (List.append_nil _).symm⟩⟩

/-- What a visited dispatcher cancelled is what it cancelled before. -/
theorem stays_eq {d d' : Dispatcher} {isOpen : Bool} {verdictOn : Request → Verdict}
    {jobs : List Submission}
    (hd' : d'.blurred f = jobs.foldl (visit isOpen verdictOn) (d.blurred f)) :
    d'.stays isOpen = d.stays isOpen := by
  have hcancels : d'.cancels = d.cancels :=
    (congrArg Dispatcher.cancels hd').trans (cancels_visits isOpen verdictOn (d.blurred f) jobs)
  funext s
  rw [stays, stays, hcancels]

theorem append (first : Stretch catalog judge f ts h kept h' kept')
    (next : Stretch catalog judge f us h' kept' h'' kept'') :
    Stretch catalog judge f (ts ++ us) h kept h'' kept'' := by
  refine ⟨next.gate.trans first.gate, next.length.trans first.length, fun place d hd => ?_⟩
  obtain ⟨d', hd', hvisits', hjobs'⟩ := first.visits place d hd
  obtain ⟨d'', hd'', hvisits'', hjobs''⟩ := next.visits place d' hd'
  rw [first.gate] at hvisits'' hjobs''
  refine ⟨d'', hd'', ?_, ?_⟩
  · rw [hvisits'', hvisits', jobsOf_append, List.foldl_append]
  · rw [hjobs'', hjobs', stays_eq hvisits', jobsOf_append, List.filter_append, List.append_assoc]

end Stretch

theorem Answers.blurs (hblurs : Blurs catalog f) {answer : CatalogAnswer}
    (ha : Answers catalog answer) (judge : Judge) (request : Request) :
    f (judge request answer) = f (judge request (catalog.answerAt 0)) := by
  obtain ⟨number, rfl⟩ := ha
  exact hblurs judge request number

namespace Turn

variable {place : Nat} {d : Dispatcher}

theorem length (turn : Turn catalog judge h t h' ts) :
    h'.dispatchers.length = h.dispatchers.length := by
  cases turn with
  | withdrawn cancelled => exact (withdraw_ends h t).length
  | concluded live isOpen supply answer answers =>
    exact (conclude_ends judge { h with supply } t answer).length
  | stays live closed h' t' key dispatchers => rw [dispatchers]

/-- The dispatcher that the task works for is visited, and no other. -/
theorem visits (turn : Turn catalog judge h t h' ts) (hblurs : Blurs catalog f)
    (hd : h.dispatchers[place]? = some d) :
    ∃ d', h'.dispatchers[place]? = some d' ∧
      d'.blurred f = if t.owner = place then
        (d.blurred f).visit h.supply.gateOpen
          (fun request => f (judge request (catalog.answerAt 0))) t.submission
      else d.blurred f := by
  have hcancelled : t.owner = place →
      (d.blurred f).cancels.isCancelled t.submission.cancel = h.isCancelled t := by
    intro he
    have hown : h.isCancelled t = d.cancels.isCancelled t.submission.cancel :=
      isCancelled_eq (he ▸ hd)
    exact hown.symm
  cases turn with
  | withdrawn cancelled =>
    refine ⟨_, dispatchers_withdraw hd t, ?_⟩
    split
    · rename_i he
      rw [visit, hcancelled he, cancelled, if_pos rfl, blurred_withdraw]
    · rfl
  | concluded live isOpen supply answer answers =>
    refine ⟨_, dispatchers_conclude (h := { h with supply }) hd judge t answer, ?_⟩
    split
    · rename_i he
      rw [visit, hcancelled he, live, isOpen, blurred_conclude, answers.blurs hblurs]
      rfl
    · rfl
  | stays live closed h' t' key dispatchers =>
    refine ⟨d, by rw [dispatchers, hd], ?_⟩
    split
    · rename_i he
      rw [visit, hcancelled he, live, closed]
      rfl
    · rfl

/-- Whether the task stays. -/
theorem jobsOf_left (turn : Turn catalog judge h t h' ts) (hd : h.dispatchers[place]? = some d) :
    jobsOf place ts = (jobsOf place [t]).filter (d.stays h.supply.gateOpen) := by
  rw [jobsOf_singleton]
  by_cases he : t.owner = place
  · have hcancelled : d.cancels.isCancelled t.submission.cancel = h.isCancelled t :=
      (isCancelled_eq (he ▸ hd)).symm
    rw [if_pos he, List.filter_singleton, Dispatcher.stays, hcancelled]
    cases turn with
    | withdrawn cancelled =>
      rw [cancelled, Bool.not_true, Bool.and_false]
      rfl
    | concluded live isOpen supply answer answers =>
      rw [isOpen]
      rfl
    | stays live closed h' t' key dispatchers =>
      rw [live, closed, jobsOf_singleton, Task.owner_of_key key, Task.submission_of_key key,
        if_pos he]
      rfl
  · rw [if_neg he]
    cases turn with
    | withdrawn cancelled => rfl
    | concluded live isOpen supply answer answers => rfl
    | stays live closed h' t' key dispatchers =>
      rw [jobsOf_singleton, Task.owner_of_key key, if_neg he]
      rfl

/-- One turn is a stretch. -/
theorem stretch (turn : Turn catalog judge h t h' ts) (hblurs : Blurs catalog f)
    (gate : h'.supply.gateOpen = h.supply.gateOpen) (kept : List Task) :
    Stretch catalog judge f [t] h kept h' (kept ++ ts) := by
  refine ⟨gate, turn.length, fun place d hd => ?_⟩
  obtain ⟨d', hd', hvisits⟩ := turn.visits hblurs hd
  refine ⟨d', hd', ?_, ?_⟩
  · rw [hvisits, jobsOf_singleton]
    split <;> rfl
  · rw [jobsOf_append, turn.jobsOf_left hd]

end Turn

/-! ## 3. All tasks run -/

/-- **A round visits every dispatcher for its own submissions.** -/
theorem Midway.run (m : h.Midway catalog kept rest) (judge : Judge) (hblurs : Blurs catalog f) :
    ∃ kept', ((rest.map (·.id)).foldl (fun h id => (h.poll judge id).2) h).Midway catalog kept' [] ∧
      Stretch catalog judge f rest h kept
        ((rest.map (·.id)).foldl (fun h id => (h.poll judge id).2) h) kept' := by
  induction rest generalizing h kept with
  | nil => exact ⟨kept, m, .nothing catalog judge f h kept⟩
  | cons t rest ih =>
    have hpoll : (h.poll judge t.id).2 = (h.pollTask judge t).2 := by
      rw [poll, m.sound.find?_eq m.mem]
    obtain ⟨left, turn, m'⟩ := m.pollTask judge
    obtain ⟨kept', hend, hrest⟩ := ih m'
    have hfirst := turn.stretch hblurs (gateOpen_pollTask judge h t) kept
    rw [List.map_cons, List.foldl_cons, hpoll]
    exact ⟨kept', hend, hfirst.append hrest⟩

/-- The end of a round is the beginning of the next. -/
theorem Midway.atRest (m : h.Midway catalog kept []) : h.AtRest catalog where
  toSteady := m.toSteady
  tasks := rfl
  line c hc := by
    refine ⟨List.nil_prefix, ?_⟩
    have horder := (m.line c hc).order
    rw [List.map_nil, List.append_nil] at horder
    rw [m.tasks, List.append_nil]
    exact horder
  cold := m.cold
  ended _ := rfl

/-- A round leads from rest to rest. -/
theorem AtRest.round (hr : h.AtRest catalog) (judge : Judge) (hblurs : Blurs catalog f) :
    (h.round judge).AtRest catalog ∧
      Stretch catalog judge f h.tasks h [] (h.round judge) (h.round judge).tasks := by
  obtain ⟨kept', hend, hstretch⟩ := Midway.run hr judge hblurs
  have htasks : (h.round judge).tasks = kept' := hend.tasks.trans (List.append_nil kept')
  exact ⟨hend.atRest, htasks ▸ hstretch⟩

/-- After a round another one changes nothing that a dispatcher could see. -/
theorem Stretch.again (first : Stretch catalog judge f h.tasks h [] h' h'.tasks)
    (next : Stretch catalog judge f h'.tasks h' [] h'' h''.tasks) :
    Stretch catalog judge f h.tasks h [] h'' h''.tasks := by
  refine ⟨next.gate.trans first.gate, next.length.trans first.length, fun place d hd => ?_⟩
  obtain ⟨d', hd', hvisits', hjobs'⟩ := first.visits place d hd
  obtain ⟨d'', hd'', hvisits'', hjobs''⟩ := next.visits place d' hd'
  rw [first.gate] at hvisits'' hjobs''
  have hstay : ∀ s ∈ jobsOf place h'.tasks, d'.stays h.supply.gateOpen s = true := by
    intro s hs
    rw [Stretch.stays_eq hvisits']
    rw [hjobs'] at hs
    exact (List.mem_filter.mp hs).2
  refine ⟨d'', hd'', ?_, ?_⟩
  · rw [hvisits'', visits_of_stays (d := d'.blurred f) hstay, hvisits']
  · rw [hjobs'', List.filter_eq_self.mpr hstay, hjobs']
    rfl

/-- **To let all tasks run is to visit every dispatcher once for its own submissions**, whatever the
number of rounds. -/
theorem AtRest.settle (hr : h.AtRest catalog) (judge : Judge) (hblurs : Blurs catalog f) :
    (settle judge h).AtRest catalog ∧
      Stretch catalog judge f h.tasks h [] (settle judge h) (settle judge h).tasks := by
  induction h using settle.induct judge with
  | case1 h next hlt ih =>
    obtain ⟨hnext, hfirst⟩ := hr.round judge hblurs
    obtain ⟨hend, hrest⟩ := ih hnext
    rw [Hub.settle, if_pos hlt]
    exact ⟨hend, hfirst.again hrest⟩
  | case2 h next hnot =>
    rw [Hub.settle, if_neg hnot]
    exact hr.round judge hblurs

end Hub

end PluginArbiter
