/-
# Tokens may be used again

Once a submission has ended its token is free, but its task may not have noticed yet.  So there may
be two tasks under one token, the stale one of a submission that was cancelled and that of the
submission now open, and they may be polled in any order.

The one that is live is that of the submission that was accepted last under its token
(`Course.latest`), and only live ones tell the sink.  A stale one finds its submission cancelled,
and then all it does is to end: every dispatcher stays as it is (`withdraw_dispatchers`).

Main statements:
* `Course.latest`: who is live is the last that was accepted under its token;
* `Course.isCancelled_of_ended`: who has ended and still has a task is cancelled;
* `received_act`: the sink is told by polls that conclude, and by nothing else;
* `run_reuses_tokens`: both together, in every run.
-/
import PluginArbiter.Proofs.Dispatch.Conservation

namespace PluginArbiter

namespace Hub

open Dispatcher

variable {d d' : Dispatcher} {jobs jobs' : List Submission}
  {as as' : List (Except DispatchError Submission)} {es es' : List (Fate × Ticket)}

/-! ## 1. The last submission under a token -/

/-- **Who is live after a move** was live before, and nobody came in under its token, or is the one
that came in. -/
theorem Move.live_cases (m : Move d jobs as es d' jobs') (h : Matched d jobs) {s : Submission}
    (hs : s ∈ d'.live jobs') :
    (s ∈ d.live jobs ∧ ∀ s' ∈ opened as, s'.token ≠ s.token) ∨ opened as = [s] := by
  -- where nobody comes in it is enough that jobs go and cancelled ones stay cancelled
  have hfewer : opened as = [] → jobs'.Sublist jobs →
      (∀ n, d'.cancels.isCancelled n = false → d.cancels.isCancelled n = false) →
      (s ∈ d.live jobs ∧ ∀ s' ∈ opened as, s'.token ≠ s.token) ∨ opened as = [s] := by
    intro hnone hsub hmono
    obtain ⟨hmem, hlive⟩ := mem_live.mp hs
    refine Or.inl ⟨mem_live.mpr ⟨hsub.subset hmem, hmono _ hlive⟩, ?_⟩
    rw [hnone]
    exact fun s' hs' => absurd hs' List.not_mem_nil
  have hall : ∀ l l' : List Submission, (l ++ l').Sublist (l ++ s :: l') := fun l l' =>
    (List.sublist_cons_self s l').append_left l
  cases m with
  | rest same => exact hfewer rfl (List.Sublist.refl _) (by rw [same.cancels]; exact fun n => id)
  | submit token request =>
    rcases d.accept_cases token request with ⟨e, he⟩ | he | ⟨-, hnone, he⟩
    · rw [he] at hs hfewer ⊢
      exact hfewer rfl (by simp [admitted]) fun n => id
    · rw [he] at hs hfewer ⊢
      exact hfewer rfl (by simp [admitted]) fun n => id
    · rw [he] at hs ⊢
      obtain ⟨hmem, hlive⟩ := mem_live.mp hs
      rcases List.mem_append.mp hmem with hold | hnew
      · have hlive' : s ∈ d.live jobs := mem_live.mpr ⟨hold, hlive⟩
        refine Or.inl ⟨hlive', fun s' hs' => ?_⟩
        have htoken := token_ne_of_lookup_eq_none hnone _ (h.row_mem hlive')
        rw [List.mem_singleton.mp hs']
        exact Ne.symm htoken
      · rw [List.mem_singleton.mp hnew]
        exact Or.inr rfl
  | cancel token =>
    refine hfewer rfl (List.Sublist.refl _) fun n hn => ?_
    revert hn
    unfold Dispatcher.cancel
    split <;> simp
  | cancelFrame frame =>
    refine hfewer rfl (List.Sublist.refl _) fun n hn => ?_
    revert hn
    simp [Dispatcher.cancelFrame]
  | shut same =>
    refine hfewer rfl (List.Sublist.refl _) fun n hn => ?_
    revert hn
    unfold Dispatcher.shut
    split
    · rw [same.cancels]
      exact id
    · simp
  | conclude live verdict =>
    refine hfewer rfl ((List.sublist_cons_self _ _).append_left _) fun n hn => ?_
    rwa [conclude_cancels] at hn
  | withdraw cancelled =>
    refine hfewer rfl ((List.sublist_cons_self _ _).append_left _) fun n hn => ?_
    rwa [Dispatcher.withdraw, release_cancels] at hn

/-- The submissions among some that were made under a token. -/
def under (token : Token) (submissions : List Submission) : List Submission :=
  submissions.filter fun s => s.token = token

theorem under_append (token : Token) (l l' : List Submission) :
    under token (l ++ l') = under token l ++ under token l' :=
  List.filter_append ..

theorem under_eq_nil {token : Token} {l : List Submission} :
    under token l = [] ↔ ∀ s ∈ l, s.token ≠ token := by
  simp [under]

/-- **Who is live is the last that was accepted under its token.** -/
theorem Course.latest (c : Course d jobs as es) (few : as.length < UInt64.size) {s : Submission}
    (hs : s ∈ d.live jobs) : (under s.token (opened as)).getLast? = some s := by
  induction c generalizing s with
  | made process handlers => exact absurd hs (by simp [Dispatcher.live])
  | move course step ih =>
    rw [List.length_append] at few
    rw [opened_append, under_append, List.getLast?_append]
    rcases step.live_cases (course.matched (by omega)) hs with ⟨hold, hother⟩ | hnew
    · rw [under_eq_nil.mpr hother, ih (by omega) hold]
      rfl
    · rw [hnew]
      simp [under]

/-- **Who has ended and still has a task is cancelled.** -/
theorem Course.isCancelled_of_ended (c : Course d jobs as es) (few : as.length < UInt64.size)
    {s : Submission} (hs : s ∈ jobs) (hended : s.ticket ∈ es.map (·.2)) :
    d.cancels.isCancelled s.cancel = true := by
  cases hc : d.cancels.isCancelled s.cancel with
  | true => rfl
  | false =>
    have hrow := (c.matched few).row_mem (mem_live.mpr ⟨hs, hc⟩)
    exact absurd hended ((c.tickets_apart few).2 (List.mem_map_of_mem hrow))

/-! ## 2. Where a submission comes from -/

/-- What is accepted in a step was submitted in it. -/
theorem act_of_mem_opened {h : Hub} {place : Nat} {a : Action} {s : Submission}
    (hs : s ∈ opened ((h.act a).1.answers place)) :
    a = .call place (.submit s.token s.request) ∧ (h.act a).1 = .submitted place (.ok s) := by
  have hevent : (h.act a).1 = .submitted place (.ok s) := by
    revert hs
    generalize (h.act a).1 = e
    cases e with
    | submitted p result =>
      simp only [Event.answers]
      split
      · rename_i hp
        subst hp
        cases result with
        | error e => exact fun hs => absurd hs (by simp [opened, admitted])
        | ok s' =>
          intro hs
          have hsame : s = s' := by simpa [opened, admitted] using hs
          rw [hsame]
      · exact fun hs => absurd hs (by simp [opened])
    | _ => exact fun hs => absurd hs (by simp [opened, Event.answers])
  refine ⟨?_, hevent⟩
  cases a with
  | call p call =>
    simp only [act] at hevent
    split at hevent
    · exact absurd hevent (by simp)
    · rename_i d hd
      cases call with
      | submit token request =>
        simp only [serve, Hub.submit] at hevent
        rcases d.accept_cases token request with ⟨e, he⟩ | he | ⟨-, -, he⟩
        · simp [he] at hevent
        · simp [he] at hevent
        · simp only [he, Event.submitted.injEq, Except.ok.injEq] at hevent
          obtain ⟨rfl, rfl⟩ := hevent
          rfl
      | _ => exact absurd hevent (by simp [serve])
  | poll judge id =>
    simp only [act] at hevent
    split at hevent <;> exact absurd hevent (by simp)
  | _ => exact absurd hevent (by simp [act])

/-- **The last submission under a token was submitted in some step**, and in no later one was
anything accepted under its token. -/
theorem exists_submit_of_latest {h : Hub} {place : Nat} {actions : List Action} {s : Submission}
    (hlast : (under s.token (opened (answersTo place (h.log actions)))).getLast? = some s) :
    ∃ before after, actions = before ++ .call place (.submit s.token s.request) :: after ∧
      ((h.run before).act (.call place (.submit s.token s.request))).1 = .submitted place (.ok s) ∧
      ∀ s' ∈ opened (answersTo place
        (((h.run before).act (.call place (.submit s.token s.request))).2.log after)),
        s'.token ≠ s.token := by
  induction actions generalizing h with
  | nil => exact absurd hlast (by simp [answersTo, opened, under])
  | cons a rest ih =>
    rw [show answersTo place (h.log (a :: rest))
      = (h.act a).1.answers place ++ answersTo place ((h.act a).2.log rest) from rfl,
      opened_append, under_append, List.getLast?_append] at hlast
    cases hrest : (under s.token
        (opened (answersTo place ((h.act a).2.log rest)))).getLast? with
    | some s' =>
      rw [hrest, Option.some_or, Option.some_inj] at hlast
      subst hlast
      obtain ⟨before, after, rfl, hevent, hnone⟩ := ih hrest
      exact ⟨a :: before, after, rfl, hevent, hnone⟩
    | none =>
      rw [hrest, Option.none_or] at hlast
      have hmem := (List.mem_filter.mp (List.mem_of_getLast? hlast)).1
      obtain ⟨rfl, hevent⟩ := act_of_mem_opened hmem
      exact ⟨[], rest, rfl, hevent, under_eq_nil.mp (List.getLast?_eq_none_iff.mp hrest)⟩

/-! ## 3. What the sink is told -/

/-- What a step tells the sink of the dispatcher at a place. -/
def Event.delivered (place : Nat) : Event → List (Token × Verdict)
  | .polled t (.concluded .told verdict) =>
    if t.owner = place then [(t.submission.token, verdict)] else []
  | _ => []

theorem delivered_concluded (place : Nat) (t : Task) (how : Conclusion) (verdict : Verdict) :
    (Event.polled t (.concluded how verdict)).delivered place =
      if how = .told ∧ t.owner = place then [(t.submission.token, verdict)] else [] := by
  cases how <;> simp [Event.delivered]

/-- Who looks for his own row tells nobody anything. -/
theorem release_keeps_sink (d : Dispatcher) (s : Submission) :
    (d.release s).2.received = d.received ∧ (d.release s).2.sink = d.sink := by
  unfold release
  split
  · exact ⟨rfl, rfl⟩
  · split <;> exact ⟨rfl, rfl⟩

/-- Who is told of a verdict is told of it under the token of the submission. -/
theorem received_conclude (d : Dispatcher) (s : Submission) (verdict : Verdict) :
    (d.conclude s verdict).2.received = d.received ++
      if d.sink = .listening ∧ (d.conclude s verdict).1 = .told then [(s.token, verdict)]
      else [] := by
  obtain ⟨hreceived, hsink⟩ := release_keeps_sink d s
  simp only [Dispatcher.conclude]
  split
  · simp [hreceived]
  · unfold Dispatcher.tell
    rw [hsink]
    cases d.sink <;> simp [hreceived]

section Steps

variable {h : Hub} {place : Nat} {d : Dispatcher}

/-- No call tells the sink anything. -/
theorem received_served (d : Dispatcher) (call : Call) : (served d call).received = d.received := by
  cases call with
  | submit token request =>
    simp only [served]
    rcases d.accept_cases token request with ⟨e, he⟩ | he | ⟨-, -, he⟩ <;> rw [he] <;> rfl
  | cancel token =>
    simp only [served, Dispatcher.cancel]
    split <;> rfl
  | cancelFrame frame => rfl
  | shut =>
    simp only [served, Dispatcher.shut]
    split <;> rfl
  | drop =>
    simp only [served, Dispatcher.shut]
    split <;> rfl
  | dropSink => rfl
  | closeReceiver => rfl

theorem delivered_serve (h : Hub) (p : Nat) (d : Dispatcher) (call : Call) (place : Nat) :
    (h.serve p d call).1.delivered place = [] := by
  cases call <;> rfl

/-- The end of a task with a verdict tells the sink of its owner, and no other. -/
theorem received_conclude_task (hd : h.dispatchers[place]? = some d) (t : Task) (judge : Judge)
    (answer : CatalogAnswer) :
    ∃ d', (conclude judge h t answer).2.dispatchers[place]? = some d' ∧
      d'.received = d.received ++ if d.sink = .listening then
        (Event.polled t (conclude judge h t answer).1).delivered place else [] := by
  simp only [conclude]
  cases howner : (h.removeTask t.id).dispatchers[t.owner]? with
  | none => exact ⟨d, hd, by simp [Event.delivered]⟩
  | some d₁ =>
    refine ⟨_, getElem?_setDispatcher (h := h.removeTask t.id) hd, ?_⟩
    split
    · rename_i he
      obtain rfl : d = d₁ := Option.some.inj (hd.symm.trans (he ▸ howner))
      rw [received_conclude, delivered_concluded]
      simp [he, ← ite_and]
    · rename_i he
      rw [delivered_concluded]
      simp [he]

/-- The end of a task that was cancelled tells nobody anything. -/
theorem received_withdraw_task (hd : h.dispatchers[place]? = some d) (t : Task) :
    ∃ d', (h.withdraw t).dispatchers[place]? = some d' ∧ d'.received = d.received := by
  refine ⟨_, dispatchers_withdraw hd t, ?_⟩
  split
  · exact (release_keeps_sink d t.submission).1
  · rfl

/-- A poll tells the sink of the owner of the task what it concludes. -/
theorem received_pollTask (hd : h.dispatchers[place]? = some d) (t : Task) (judge : Judge) :
    ∃ d', (h.pollTask judge t).2.dispatchers[place]? = some d' ∧
      d'.received = d.received ++ if d.sink = .listening then
        (Event.polled t (h.pollTask judge t).1).delivered place else [] := by
  have hp := pollTask_outcome judge h t
  generalize h.pollTask judge t = outcome at hp ⊢
  cases hp with
  | withdrawn cancelled =>
    obtain ⟨d', hget, hkeep⟩ := received_withdraw_task hd t
    exact ⟨d', hget, by simp [hkeep, Event.delivered]⟩
  | concluded live supply answer =>
    exact received_conclude_task (h := { h with supply }) hd t judge answer
  | goesOn progress rests h' dispatchers keys nextTask =>
    refine ⟨d, by rw [dispatchers, hd], ?_⟩
    rcases rests with rfl | rfl <;> simp [Event.delivered]

/-- **The sink is told by polls that conclude a submission**, each time its token and its verdict,
and by nothing else. -/
theorem received_act (hd : h.dispatchers[place]? = some d) (a : Action) :
    ∃ d', (h.act a).2.dispatchers[place]? = some d' ∧
      d'.received = d.received ++
        if d.sink = .listening then (h.act a).1.delivered place else [] := by
  have hstill : ∃ d', h.dispatchers[place]? = some d' ∧
      d'.received = d.received ++ if d.sink = .listening then [] else [] :=
    ⟨d, hd, by simp⟩
  cases a with
  | addDispatcher process handlers =>
    obtain ⟨hlt, -⟩ := List.getElem?_eq_some_iff.mp hd
    exact ⟨d, (List.getElem?_append_left hlt).trans hd, by simp [act, Event.delivered]⟩
  | call p call =>
    simp only [act]
    cases hp : h.dispatchers[p]? with
    | none => exact hstill
    | some d' =>
      refine ⟨_, getElem?_serve hd p d' call, ?_⟩
      rw [delivered_serve, ite_self, List.append_nil]
      split
      · rename_i he
        rw [received_served, Option.some.inj (hp.symm.trans (he ▸ hd))]
      · rfl
  | openGate => exact hstill
  | poll judge id =>
    simp only [act]
    cases h.tasks.find? (·.id == id) with
    | none => exact hstill
    | some t => exact received_pollTask hd t judge

/-! ## 4. Stale tasks and live ones -/

/-- The task with a number is found by it. -/
theorem Sound.find?_eq (hs : h.Sound) {t : Task} (ht : t ∈ h.tasks) :
    h.tasks.find? (·.id == t.id) = some t := by
  cases hf : h.tasks.find? (·.id == t.id) with
  | none => exact absurd (List.find?_eq_none.mp hf t ht) (by simp)
  | some u =>
    have hid : u.id = t.id := by simpa using List.find?_some hf
    rw [List.inj_on_of_nodup_map hs.ids (List.mem_of_find?_eq_some hf) ht hid]

theorem isCancelled_eq {t : Task} (hd : h.dispatchers[t.owner]? = some d) :
    h.isCancelled t = d.cancels.isCancelled t.submission.cancel := by
  simp only [isCancelled, hd]

/-- All that the end of a stale task does is to take it out, also from the line at the catalog. -/
theorem withdraw_eq {t : Task} (hm : Matched d (h.jobs t.owner))
    (few : d.cancels.made ≤ UInt64.size) (hd : h.dispatchers[t.owner]? = some d) (ht : t ∈ h.tasks)
    (cancelled : h.isCancelled t = true) :
    h.withdraw t = ({ h with supply := h.supply.leave t.id } : Hub).removeTask t.id := by
  rw [isCancelled_eq hd] at cancelled
  have hget : (({ h with supply := h.supply.leave t.id } : Hub).removeTask
      t.id).dispatchers[t.owner]? = some d := hd
  have hset : h.dispatchers.set t.owner d = h.dispatchers := by
    obtain ⟨hlt, rfl⟩ := List.getElem?_eq_some_iff.mp hd
    exact List.set_getElem_self hlt
  simp only [withdraw, hget, hm.withdraw_eq few (submission_mem_jobs ht) cancelled, setDispatcher]
  simp only [removeTask, hset]

/-- **A stale task leaves every dispatcher as it is.** -/
theorem withdraw_dispatchers (hm : Matched d (h.jobs place)) (few : d.cancels.made ≤ UInt64.size)
    (hd : h.dispatchers[place]? = some d) {t : Task} (ht : t ∈ h.tasks) (howner : t.owner = place)
    (cancelled : h.isCancelled t = true) : (h.withdraw t).dispatchers = h.dispatchers := by
  subst howner
  rw [withdraw_eq hm few hd ht cancelled]
  rfl

/-- A task that ends with a verdict ends with the one on its own request. -/
theorem conclude_verdict {judge : Judge} {t : Task} {answer : CatalogAnswer}
    {how : Conclusion} {verdict : Verdict}
    (hend : (conclude judge h t answer).1 = .concluded how verdict) :
    verdict = judge t.submission.request answer := by
  simp only [conclude] at hend
  split at hend <;> exact (Progress.concluded.inj hend).2.symm

/-- The task of a submission that was not cancelled gives the verdict on its own request. -/
theorem pollTask_concluded {judge : Judge} {t : Task} {how : Conclusion} {verdict : Verdict}
    (hpoll : (h.pollTask judge t).1 = .concluded how verdict) :
    h.isCancelled t = false ∧ ∃ answer, verdict = judge t.submission.request answer := by
  have hp := pollTask_outcome judge h t
  generalize h.pollTask judge t = outcome at hp hpoll
  cases hp with
  | withdrawn cancelled => exact absurd hpoll (by simp)
  | concluded live supply answer =>
    exact ⟨live, answer, conclude_verdict hpoll⟩
  | goesOn progress rests h' dispatchers keys nextTask =>
    rcases rests with rfl | rfl <;> exact absurd hpoll (by simp)

end Steps

/-! ## 5. Runs -/

/-- **Tokens may be used again.**  Consider any point of a run that does not submit 2^64 times.
If the next step tells the sink of a dispatcher, then it is a poll of the task of the submission
that was accepted last under the token: some earlier step submitted it with its request, nothing
was accepted under the token since, and the verdict is the one on this request.  What the sink
receives is this verdict under this token, and in no other step does it receive anything.  If the
next step polls the task of a submission that was cancelled before, the task ends and every
dispatcher stays as it is, with all rows and all that is cancelled in it, and no sink is told. -/
theorem run_reuses_tokens (catalog : PluginSource) (cached gated : Bool) {place : Nat}
    {actions : List Action} (few : submissionsTo place actions < UInt64.size) {d : Dispatcher}
    (hd : ((start catalog cached gated).run actions).dispatchers[place]? = some d) :
    let h := (start catalog cached gated).run actions
    let ended := endedAt place ((start catalog cached gated).log actions)
    (∀ a t verdict, t.owner = place → (h.act a).1 = .polled t (.concluded .told verdict) →
      (∃ judge answer, a = .poll judge t.id ∧ verdict = judge t.submission.request answer) ∧
        ∃ before after,
          let submit := .call place (.submit t.submission.token t.submission.request)
          let h' := (start catalog cached gated).run before
          actions = before ++ submit :: after ∧
            (h'.act submit).1 = .submitted place (.ok t.submission) ∧
            ∀ s ∈ opened (answersTo place ((h'.act submit).2.log after)),
              s.token ≠ t.submission.token) ∧
      (∀ a, ∃ d', (h.act a).2.dispatchers[place]? = some d' ∧
        d'.received = d.received ++
          if d.sink = .listening then (h.act a).1.delivered place else []) ∧
      ∀ t ∈ h.tasks, t.owner = place → (∃ f, (f, t.submission.ticket) ∈ ended) → ∀ judge,
        (h.act (.poll judge t.id)).1 = .polled t .withdrawn ∧
          (h.act (.poll judge t.id)).2.dispatchers = h.dispatchers := by
  intro h ended
  have hs : h.Sound := sound_run catalog cached gated actions
  have c := run_course catalog cached gated hd
  have hfew := length_answersTo_lt (start catalog cached gated) few
  refine ⟨fun a t verdict howner htold => ?_, fun a => received_act hd a, ?_⟩
  · subst howner
    cases a with
    | poll judge id =>
      simp only [act] at htold
      split at htold
      · exact absurd htold (by simp)
      · rename_i u hu
        obtain ⟨rfl, hpoll⟩ := Event.polled.inj htold
        obtain ⟨hlive, answer, hverdict⟩ := pollTask_concluded hpoll
        have hid : u.id = id := by simpa using List.find?_some hu
        subst hid
        rw [isCancelled_eq hd] at hlive
        have hmem := submission_mem_jobs (List.mem_of_find?_eq_some hu)
        exact ⟨⟨judge, answer, rfl, hverdict⟩,
          exists_submit_of_latest (c.latest hfew (mem_live.mpr ⟨hmem, hlive⟩))⟩
    | call p call =>
      simp only [act] at htold
      split at htold
      · exact absurd htold (by simp)
      · cases call <;> exact absurd htold (by simp [serve])
    | addDispatcher process handlers => exact absurd htold (by simp [act])
    | openGate => exact absurd htold (by simp [act])
  · rintro t ht rfl ⟨f, hf⟩ judge
    have hcancelled : h.isCancelled t = true := by
      rw [isCancelled_eq hd]
      exact c.isCancelled_of_ended hfew (submission_mem_jobs ht)
        (List.mem_map.mpr ⟨_, hf, rfl⟩)
    have hpoll : h.act (.poll judge t.id) = (.polled t .withdrawn, h.withdraw t) := by
      simp only [act, hs.find?_eq ht, pollTask, hcancelled, if_true]
    rw [hpoll]
    exact ⟨rfl, withdraw_dispatchers (run_matched catalog cached gated hd few)
      (Nat.le_of_lt (run_made_lt catalog cached gated hd few)) hd ht rfl hcancelled⟩

/-- The stale task of the first submission may be polled or not; what is delivered under the token is
the verdict on the second, and the sink receives nothing else. -/
theorem run_reuses_tokens_reuse :
    let h := (start {} false false).run reuse
    let second : Request := { (default : Request) with mimeType := "b" }
    submissionsTo 0 reuse < UInt64.size ∧ (h.act (.poll echo 0)).2.dispatchers = h.dispatchers ∧
      (h.act (.poll echo 1)).1
        = .polled ⟨1, 0, ⟨.ofNat 7, 1, 1, second⟩, .asking⟩ (.concluded .told (echo second (.ok []))) ∧
      ∃ d, (h.act (.poll echo 1)).2.dispatchers[0]? = some d ∧
        d.received = [(.ofNat 7, echo second (.ok []))] := by
  intro h second
  have few : submissionsTo 0 reuse < UInt64.size := by decide
  obtain ⟨htold, hreceived, hstale⟩ := run_reuses_tokens {} false false few rfl
  obtain ⟨verdict, hpoll⟩ : ∃ verdict, (h.act (.poll echo 1)).1
      = .polled ⟨1, 0, ⟨.ofNat 7, 1, 1, second⟩, .asking⟩ (.concluded .told verdict) := ⟨_, rfl⟩
  obtain ⟨⟨judge, answer, hjudge, hverdict⟩, -⟩ := htold (.poll echo 1) _ verdict rfl hpoll
  obtain ⟨rfl, -⟩ := Action.poll.inj hjudge
  -- whatever the catalog answered, what this judge names is the type that was asked for
  obtain rfl : verdict = echo second (.ok []) := hverdict
  obtain ⟨-, hsame⟩ := hstale
    ⟨0, 0, ⟨.ofNat 7, 0, 0, { (default : Request) with mimeType := "a" }⟩, .asking⟩
    (by decide) rfl ⟨.cancelled, by decide⟩ echo
  obtain ⟨d, hd, hall⟩ := hreceived (.poll echo 1)
  rw [hpoll] at hall
  exact ⟨few, hsame, hpoll, d, hd, hall⟩

end Hub

end PluginArbiter
