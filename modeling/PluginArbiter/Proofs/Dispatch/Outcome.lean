/-
# What is open is delivered

The log of a run says which submissions were accepted and which of them have met a fate; the others
are unsettled.  A dispatcher does not keep the log, it has a table, and its tasks have the
submissions.  All three agree: the submissions whose tasks were not cancelled are those that are
unsettled (`Course.live_perm`).

So the outcome of a submission can be told in advance.  Once the gate is open and all tasks have run,
the sink holds what it held before, and besides one verdict for each unsettled submission, under its
token and on its own request.  The order in which the verdicts come hangs on who has the turn at the
catalog, and it is left open here: what the sink holds together with what it is still promised is,
up to order, the same after every poll (`Outline.keeps_pollJob`).  A catalog may fail, and which
submission that hits hangs on the order too; so of each verdict only that is looked at which does not
depend on the enumeration that answers (`Blurs`).  Where all enumerations end alike this is everything.

Main statements:
* `Course.live_perm`: tasks and log agree on what is unsettled;
* `Outline.keeps_pollJob`: no poll breaks a promise, and none makes one;
* `run_delivers_unsettled`, `run_tells_unsettled`: once all tasks have run, the sink was told of all
  that was unsettled.
-/
import PluginArbiter.Proofs.Dispatch.Rejection
import PluginArbiter.Proofs.Dispatch.Rounds

namespace PluginArbiter

open Dispatcher

/-! ## 1. Who is unsettled -/

namespace Hub

/-- The accepted submissions to a place that have met no fate yet. -/
def unsettled (place : Nat) (log : List Event) : List Submission :=
  (opened (answersTo place log)).filter fun s =>
    (fatesOf (endedAt place log) s.ticket).isEmpty

theorem mem_unsettled {place : Nat} {log : List Event} {s : Submission} :
    s ∈ unsettled place log ↔
      s ∈ opened (answersTo place log) ∧ fatesOf (endedAt place log) s.ticket = [] := by
  rw [unsettled, List.mem_filter, List.isEmpty_iff]

/-- **Tasks and log agree on what is unsettled.** -/
theorem Course.live_perm {place : Nat} {d : Dispatcher} {jobs : List Submission} {log : List Event}
    (c : Course d jobs (answersTo place log) (endedAt place log))
    (few : (answersTo place log).length < UInt64.size) :
    (d.live jobs).Perm (unsettled place log) := by
  have hm := c.matched few
  have htickets := c.nodup_tickets few
  have hopened : ∀ s ∈ d.live jobs, s ∈ opened (answersTo place log) := fun s hs =>
    (List.mem_filter.mp (List.mem_of_getLast? (c.latest few hs))).1
  have hnodup : (d.live jobs).Nodup := (hm.distinct.of_map _).filter _
  refine (List.perm_ext_iff_of_nodup hnodup ((htickets.of_map _).filter _)).mpr fun s => ?_
  rw [← unsettled, mem_unsettled]
  constructor
  · intro hs
    refine ⟨hopened s hs, ?_⟩
    rcases c.one_fate few (hopened s hs) with ⟨-, hnone⟩ | ⟨hgone, -⟩
    · exact hnone
    · exact absurd (List.mem_map_of_mem (hm.row_mem hs)) hgone
  · rintro ⟨hs, hnone⟩
    rcases c.one_fate few hs with ⟨hopen, -⟩ | ⟨-, f, hf⟩
    · obtain ⟨row, hrow, he⟩ := List.mem_map.mp hopen
      obtain ⟨s', hs', rfl⟩ := hm.exists_of_mem hrow
      -- the row may belong to another submission only if that one has the same ticket
      obtain rfl : s' = s := List.inj_on_of_nodup_map htickets (hopened s' hs') hs he
      exact hs'
    · rw [hnone] at hf
      exact absurd hf (by simp)

end Hub

/-! ## 2. Promises -/

namespace Outline

variable {catalog : PluginSource} {f : Verdict → Verdict} {verdictOn : Request → Verdict}
  {o o' : Outline}
  {place : Nat} {j : Job}

/-- What a sink holds, and what it is promised: a verdict on the request of every open submission.
Of each verdict only that is looked at which `f` leaves of it. -/
def promised (f : Verdict → Verdict) (verdictOn : Request → Verdict) (face : Face)
    (jobs : List Job) : List (Token × Verdict) :=
  (face.received.map fun x => (x.1, f x.2)) ++ jobs.map fun j => (j.token, f (verdictOn j.request))

/-- What the sink at a place holds and is promised is the same in both, up to order, as long as it
listens. -/
def Keeps (f : Verdict → Verdict) (verdictOn : Request → Verdict) (place : Nat)
    (o o' : Outline) : Prop :=
  ∀ face, o.faces[place]? = some face → face.sink = .listening →
    ∃ face', o'.faces[place]? = some face' ∧ face'.sink = .listening ∧
      (promised f verdictOn face' (o'.openAt place)).Perm (promised f verdictOn face (o.openAt place))

theorem Keeps.refl (f : Verdict → Verdict) (verdictOn : Request → Verdict) (place : Nat)
    (o : Outline) : Keeps f verdictOn place o o :=
  fun face hface hlistens => ⟨face, hface, hlistens, .refl _⟩

theorem Keeps.trans {o'' : Outline} (first : Keeps f verdictOn place o o')
    (next : Keeps f verdictOn place o' o'') : Keeps f verdictOn place o o'' := by
  intro face hface hlistens
  obtain ⟨face', hface', hlistens', hperm⟩ := first face hface hlistens
  obtain ⟨face'', hface'', hlistens'', hperm'⟩ := next face' hface' hlistens'
  exact ⟨face'', hface'', hlistens'', hperm'.trans hperm⟩

/-- When a task ends that has no open submission at a place, the open ones there stay. -/
theorem openAt_remove_of_closed (hids : (o.jobs.map (·.id)).Nodup) (hj : j ∈ o.jobs)
    (hclosed : (decide (j.owner = place) && j.isLive) = false) :
    (o.remove j.id).openAt place = o.openAt place := by
  rw [openAt, openAt, remove, List.filter_filter]
  refine List.filter_congr fun k hk => ?_
  by_cases he : k.id = j.id
  · obtain rfl := List.inj_on_of_nodup_map hids hk hj he
    simp [hclosed]
  · simp [he]

/-- When the task of an open submission ends, that one goes and no other. -/
theorem openAt_remove_of_open (hids : (o.jobs.map (·.id)).Nodup) (hj : j ∈ o.jobs)
    (hopen : j.isLive = true) :
    (o.openAt j.owner).Perm (j :: (o.remove j.id).openAt j.owner) := by
  obtain ⟨before, after, hjobs⟩ := List.append_of_mem hj
  have hothers : ∀ k ∈ before ++ after, k.id ≠ j.id := by
    rw [hjobs, List.map_append, List.map_cons] at hids
    have hnot := (List.nodup_cons.mp (List.nodup_middle.mp hids)).1
    rw [← List.map_append] at hnot
    exact fun k hk he => hnot (he ▸ List.mem_map_of_mem hk)
  have hrest : (o.remove j.id).jobs = before ++ after := by
    have hkeep : (before ++ after).filter (fun k => decide (k.id ≠ j.id)) = before ++ after :=
      List.filter_eq_self.mpr fun k hk => decide_eq_true (hothers k hk)
    rw [List.filter_append] at hkeep
    rw [remove, hjobs, List.filter_append, List.filter_cons_of_neg (by simp), hkeep]
  rw [openAt, openAt, hrest, hjobs]
  have hmiddle := (List.perm_middle : (before ++ j :: after).Perm _).filter
    fun k => decide (k.owner = j.owner) && k.isLive
  rwa [List.filter_cons_of_pos (by simp [hopen])] at hmiddle

/-- A task that ends without an open submission leaves all promises. -/
theorem keeps_remove (hids : (o.jobs.map (·.id)).Nodup) (hj : j ∈ o.jobs)
    (hclosed : (decide (j.owner = place) && j.isLive) = false) :
    Keeps f verdictOn place o (o.remove j.id) := by
  intro face hface hlistens
  rw [openAt_remove_of_closed hids hj hclosed]
  exact ⟨face, hface, hlistens, .refl _⟩

/-- How far a task has come makes no difference to promises. -/
theorem keeps_setStage (id : Nat) (stage : Stage) :
    Keeps f verdictOn place o (o.setStage id stage) := by
  intro face hface hlistens
  have hopen : (o.setStage id stage).openAt place
      = (o.openAt place).map fun k => if k.id = id then { k with stage } else k := by
    rw [openAt, openAt, setStage, List.filter_map]
    refine congrArg _ (List.filter_congr fun k _ => ?_)
    rw [Function.comp_apply]
    split <;> rfl
  refine ⟨face, hface, hlistens, .of_eq ?_⟩
  rw [promised, promised, hopen, List.map_map]
  refine congrArg _ (List.map_congr_left fun k _ => ?_)
  rw [Function.comp_apply]
  split <;> rfl

/-- **The promise of an open submission is kept by the verdict that ends its task.** -/
theorem keeps_conclude (hids : (o.jobs.map (·.id)).Nodup) (hj : j ∈ o.jobs) (hopen : j.isLive = true)
    {judge : Judge} {answer : CatalogAnswer}
    (hverdict : f (judge j.request answer) = f (verdictOn j.request)) :
    Keeps f verdictOn place o (conclude judge o j answer).2 := by
  by_cases hown : j.owner = place
  · subst hown
    intro face hface hlistens
    have hface' : (o.remove j.id).faces[j.owner]? = some face := hface
    obtain ⟨hlt, -⟩ := List.getElem?_eq_some_iff.mp hface
    let told : Face := { face with received := face.received ++ [(j.token, judge j.request answer)] }
    have hend : (conclude judge o j answer).2 = (o.remove j.id).setFace j.owner told := by
      simp only [conclude, hface', Face.tell, hlistens, told]
    rw [hend]
    refine ⟨told, List.getElem?_set_self hlt, hlistens, ?_⟩
    have hgone := (openAt_remove_of_open hids hj hopen).symm.map
      fun k => (k.token, f (verdictOn k.request))
    have hheld : promised f verdictOn told (((o.remove j.id).setFace j.owner told).openAt j.owner)
        = (face.received.map fun x => (x.1, f x.2))
          ++ (j :: (o.remove j.id).openAt j.owner).map fun k => (k.token, f (verdictOn k.request)) := by
      simp only [promised, told, List.map_append, List.map_cons, List.map_nil, hverdict,
        List.append_assoc, List.singleton_append]
      rfl
    rw [hheld]
    exact hgone.append_left _
  · have hremoved : Keeps f verdictOn place o (o.remove j.id) :=
      keeps_remove hids hj (by simp [hown])
    intro face hface hlistens
    obtain ⟨face', hface', hlistens', hperm⟩ := hremoved face hface hlistens
    refine ⟨face', ?_, hlistens', ?_⟩
    · simp only [conclude]
      split
      · exact hface'
      · exact (List.getElem?_set_ne hown).trans hface'
    · simp only [conclude]
      split <;> exact hperm

/-- **No poll breaks a promise, and none makes one.** -/
theorem keeps_pollJob (hids : (o.jobs.map (·.id)).Nodup) (hj : j ∈ o.jobs)
    (hg : o.supply.Genuine catalog) (hblurs : Hub.Blurs catalog f) (judge : Judge) :
    Keeps f (fun request => judge request (catalog.answerAt 0)) place o (o.pollJob judge j).2 := by
  have hfinish : ∀ (supply : Supply) (number : Nat), j.isLive = true → supply.Genuine catalog →
      Keeps f (fun request => judge request (catalog.answerAt 0)) place o
        (finish judge { o with supply } j number).2 := by
    intro supply number hopen hsupply
    have hanswer : f (judge j.request (supply.catalog.answerAt number))
        = f (judge j.request (catalog.answerAt 0)) := by
      rw [hsupply.source]
      exact hblurs judge j.request number
    exact keeps_conclude
      (o := { o with supply := supply.finish (supply.catalog.answerAt number) }) hids hj hopen hanswer
  cases hopen : j.isLive with
  | false =>
    rw [pollJob, if_neg (by simp [hopen])]
    exact keeps_remove (o := { o with supply := o.supply.leave j.id }) hids hj (by simp [hopen])
  | true =>
    rw [pollJob, if_pos hopen]
    cases j.stage with
    | enumerating number =>
      dsimp only
      split
      · exact hfinish o.supply number hopen hg
      · exact .refl f _ place o
    | asking =>
      dsimp only
      rcases hask : o.supply.ask j.id with ⟨admission, supply⟩
      cases admission with
      | stored plugins =>
        obtain ⟨number, hnumber⟩ := hg.stored hask
        refine keeps_conclude (o := { o with supply }) hids hj hopen ?_
        rw [← hnumber]
        exact hblurs judge j.request number
      | wait => exact .refl f _ place o
      | turn =>
        dsimp only
        split
        · exact hfinish supply.start.2 supply.start.1 hopen (hg.ask hask).start
        · exact keeps_setStage (o := { o with supply := supply.start.2 }) j.id _

end Outline

/-! ## 3. All tasks run -/

namespace Hub

variable {catalog : PluginSource} {f : Verdict → Verdict} {h : Hub} {place : Nat} {d : Dispatcher}

/-- A poll keeps all promises. -/
theorem keeps_act_poll (hi : h.InOrder) (hg : h.supply.Genuine catalog) (hblurs : Blurs catalog f)
    (judge : Judge) (id : Nat) :
    Outline.Keeps f (fun request => judge request (catalog.answerAt 0)) place h.outline
      (h.act (.poll judge id)).2.outline := by
  have hids : (h.outline.jobs.map (·.id)).Nodup := by
    have hsound := hi.sound.ids
    rwa [outline, List.map_map]
  have hact : (h.outline.act (.poll judge id)).2 = (h.act (.poll judge id)).2.outline :=
    congrArg Prod.snd (act_outline hi (.poll judge id))
  rw [← hact]
  simp only [Outline.act]
  split
  · exact .refl _ _ _ _
  · rename_i j hfind
    exact Outline.keeps_pollJob hids (List.mem_of_find?_eq_some hfind) hg hblurs judge

section Runs

variable (cached gated : Bool)

/-- Polls keep all promises, however many. -/
theorem keeps_polls {before : List Action} (few : ∀ p, submissionsTo p before < UInt64.size)
    (hblurs : Blurs catalog f) (judge : Judge) (ids : List Nat) :
    let h := (start catalog cached gated).run before
    Outline.Keeps f (fun request => judge request (catalog.answerAt 0)) place h.outline
      (h.run (polls judge ids)).outline := by
  induction ids generalizing before with
  | nil =>
    intro h
    exact .refl _ _ _ _
  | cons id rest ih =>
    intro h
    have hg : h.supply.Genuine catalog :=
      genuine_run (Supply.genuine_ofSource catalog cached gated) before
    have hfirst : Outline.Keeps f (fun request => judge request (catalog.answerAt 0)) place h.outline
        (h.act (.poll judge id)).2.outline :=
      keeps_act_poll (inOrder_run catalog cached gated few) hg hblurs judge id
    have hfew : ∀ p, submissionsTo p (before ++ [.poll judge id]) < UInt64.size := by
      intro p
      have hpoll := submissionsTo_polls p judge [id]
      have hbefore := few p
      simp only [submissionsTo, polls, List.map_cons, List.map_nil, List.countP_append]
        at hpoll hbefore ⊢
      omega
    have hnext := ih hfew
    rw [run_concat] at hnext
    exact hfirst.trans hnext

/-- What the sink is promised are verdicts on the unsettled submissions. -/
theorem promised_perm {before : List Action} (few : submissionsTo place before < UInt64.size)
    (hd : ((start catalog cached gated).run before).dispatchers[place]? = some d)
    (verdictOn : Request → Verdict) :
    (Outline.promised f verdictOn d.face
        (((start catalog cached gated).run before).outline.openAt place)).Perm
      ((d.blurred f).received
        ++ (unsettled place ((start catalog cached gated).log before)).map fun s =>
          (s.token, f (verdictOn s.request))) := by
  have hlive := (run_course catalog cached gated hd).live_perm (length_answersTo_lt _ few)
  have hjobs := hlive.map fun s => (s.token, f (verdictOn s.request))
  rw [live_jobs hd, List.map_map] at hjobs
  rw [Outline.promised, openAt_outline, List.map_map]
  exact hjobs.append_left _

/-- **What is unsettled is delivered.**  Wherever a run has led, take a dispatcher whose sink listens;
then open the gate, if it is not open, and let all tasks run.  The dispatcher has no open submission
any more, and up to order its sink holds what it held before and one verdict for each submission that
was unsettled, under its token and on its own request, as far as a verdict does not hang on the
enumeration that answers. -/
theorem run_delivers_unsettled {before : List Action}
    (few : ∀ p, submissionsTo p before < UInt64.size)
    (hd : ((start catalog cached gated).run before).dispatchers[place]? = some d)
    (hlistens : d.sink = .listening) (hblurs : Blurs catalog f) (judge : Judge) :
    let h := (start catalog cached gated).run before
    ∃ d', (settle judge h.openGate).dispatchers[place]? = some d' ∧ d'.pending = [] ∧
      (d'.blurred f).received.Perm
        ((d.blurred f).received
          ++ (unsettled place ((start catalog cached gated).log before)).map fun s =>
            (s.token, f (judge s.request (catalog.answerAt 0)))) := by
  intro h
  let ready := before ++ [.openGate]
  have hready : (start catalog cached gated).run ready = h.openGate := run_concat ..
  have hfew : ∀ p, submissionsTo p ready < UInt64.size := by
    intro p
    have hbefore := few p
    simpa [ready, submissionsTo, Action.submitsTo] using hbefore
  obtain ⟨ids, hids⟩ := settle_eq_run judge h.openGate
  have hkeeps : Outline.Keeps f (fun request => judge request (catalog.answerAt 0)) place _ _ :=
    keeps_polls cached gated hfew hblurs judge ids
  simp only [hready, ← hids] at hkeeps
  obtain ⟨face, hface, -, hperm⟩ := hkeeps d.face (face_outline (h := h.openGate) hd) hlistens
  have hsettled := run_settles catalog cached gated ready hfew judge (by rw [hready]; rfl)
  rw [hready] at hsettled
  obtain ⟨hnone, hempty⟩ := hsettled
  rw [faces_outline] at hface
  obtain ⟨d', hd', rfl⟩ := Option.map_eq_some_iff.mp hface
  refine ⟨d', hd', List.length_eq_zero_iff.mp (hempty d' (List.mem_of_getElem? hd')), ?_⟩
  have hnobody : (settle judge h.openGate).outline.openAt place = [] := by
    rw [openAt_outline, hnone]
    rfl
  rw [Outline.promised, hnobody, List.map_nil, List.append_nil] at hperm
  exact hperm.trans (promised_perm cached gated (few place) hd _)

/-- **Every unsettled submission is told once**, under its token.  Where all enumerations end alike,
its verdict is the one on its request and that answer. -/
theorem run_tells_unsettled {before : List Action}
    (few : ∀ p, submissionsTo p before < UInt64.size)
    (hd : ((start catalog cached gated).run before).dispatchers[place]? = some d)
    (hlistens : d.sink = .listening) (judge : Judge) :
    let h := (start catalog cached gated).run before
    let log := (start catalog cached gated).log before
    ∃ d', (settle judge h.openGate).dispatchers[place]? = some d' ∧
      (d'.received.map (·.1)).Perm (d.received.map (·.1) ++ (unsettled place log).map (·.token)) ∧
      ∀ answer, catalog.Always answer →
        d'.received.Perm
          (d.received ++ (unsettled place log).map fun s => (s.token, judge s.request answer)) := by
  intro h log
  obtain ⟨d', hd', -, hblurred⟩ :=
    run_delivers_unsettled cached gated few hd hlistens (blurs_const catalog default) judge
  refine ⟨d', hd', ?_, fun answer halways => ?_⟩
  · have htokens := hblurred.map (·.1)
    rwa [List.map_append, tokens_blurred, tokens_blurred, List.map_map] at htokens
  · obtain ⟨d'', hd'', -, hverdicts⟩ :=
      run_delivers_unsettled cached gated few hd hlistens (blurs_id halways) judge
    obtain rfl : d' = d'' := Option.some.inj (hd'.symm.trans hd'')
    rwa [blurred_id, blurred_id, halways 0] at hverdicts

end Runs

end Hub

end PluginArbiter
