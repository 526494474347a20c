/-
# No submission is lost, and none ends twice

Whoever submits and is accepted can count on exactly one outcome.  Either the submission is still
open, or it has ended in exactly one of five ways, and then exactly once: the sink was told, there
was no sink left to tell, or it was cancelled by its token, with its frame, or with the whole
dispatcher.  A task, `cancel`, `cancelFrame` and `shut` compete for the same row, in any order, and
tokens are used again; what decides is who takes the row out.

The books are kept step by step.  In every move the rows before it and the submissions it brings in
are, up to order, the rows after it and the submissions it ends (`Move.conserves`).  Along a course
this adds up, so accepted submissions are a permutation of the open ones and the ended ones
(`Course.conserves`).  As no two accepted submissions share a ticket (`Course.nodup_tickets`), none
can occur in both, or twice in one.

Main statements:
* `Move.conserves`, `Course.conserves`: the books are even;
* `Course.nodup_tickets`: accepted submissions are told apart by their tickets;
* `run_conserves_submissions`: the same for runs, counted by the answers that callers get.
-/
import PluginArbiter.Proofs.Dispatch.Course

namespace PluginArbiter.Hub

open Dispatcher
open scoped List

variable {d d' : Dispatcher} {jobs jobs' : List Submission}
  {as as' : List (Except DispatchError Submission)} {es es' : List (Fate × Ticket)}

/-! ## 1. One move -/

/-- Rows that are struck with a fate leave the books even. -/
theorem strike_conserves (p : Row → Bool) (f : Fate) (table : List Row) :
    (table.map Row.ticket).Perm
      ((table.filter fun row => !p row).map Row.ticket
        ++ ((table.filter p).map fun row => (f, row.ticket)).map (·.2)) := by
  have hsplit : (table.filter p ++ table.filter fun row => !p row).Perm table :=
    List.filter_append_perm p table
  have hmap : ((table.filter p).map fun row => (f, row.ticket)).map (·.2)
      = (table.filter p).map Row.ticket := by
    rw [List.map_map]
    rfl
  rw [hmap, ← List.map_append]
  exact (hsplit.symm.trans List.perm_append_comm).map _

/-- Who tells the sink gives the submission a fate. -/
theorem tell_fate (d : Dispatcher) (token : Token) (verdict : Verdict) :
    ∃ f, (d.tell token verdict).1.fate = [f] := by
  unfold Dispatcher.tell
  split
  · exact ⟨.told, rfl⟩
  · exact ⟨.told, rfl⟩
  · exact ⟨.unheard, rfl⟩

/-- **The books of one move.**  What was open and what comes in is, up to order, what is open and
what ended. -/
theorem Move.conserves (m : Move d jobs as es d' jobs') (few : d.cancels.made ≤ UInt64.size)
    (h : Matched d jobs) :
    (d.pending.map Row.ticket ++ (opened as).map Submission.ticket).Perm
      (d'.pending.map Row.ticket ++ es.map (·.2)) := by
  cases m with
  | rest same =>
    rw [same.pending]
    exact List.Perm.refl _
  | submit token request =>
    rcases d.accept_cases token request with ⟨e, he⟩ | he | ⟨-, -, he⟩
    · rw [he]
      exact List.Perm.refl _
    · rw [he]
      exact List.Perm.refl _
    · rw [he]
      simp [opened, admitted, Row.ticket, Submission.ticket]
  | cancel token =>
    simp only [opened, List.flatMap_nil, List.map_nil, List.append_nil]
    cases hl : d.pending.lookup token with
    | none =>
      rw [cancel_eq_of_lookup hl]
      simp
    | some entry =>
      have hmem : (token, entry) ∈ d.pending := mem_of_lookup hl
      have hstrike := strike_conserves (fun r => r.1 = token) .cancelled d.pending
      rw [filter_eq_singleton (·.1) h.tokens hmem] at hstrike
      rw [cancel_eq_of_mem h.tokens hmem]
      exact hstrike
  | cancelFrame frame =>
    rw [cancelFrame_eq]
    simp only [opened, List.flatMap_nil, List.map_nil, List.append_nil]
    exact strike_conserves _ _ _
  | shut same =>
    simp only [opened, List.flatMap_nil, List.map_nil, List.append_nil]
    rw [← same.pending]
    unfold Dispatcher.shut
    split
    · simp
    · have hstrike := strike_conserves (fun _ => true) .cleared
      simpa using hstrike _
  | @conclude before after s live verdict =>
    have hmem : s ∈ d.live (before ++ s :: after) := mem_live.mpr ⟨by simp, live⟩
    have hleft : d.pending.Perm (s.row :: without d.pending s.token) := by
      rw [h.without_of_live live]
      conv_lhs => rw [h.table]
      have hsplit : (d.live (before ++ s :: after)).Perm (s :: d.live (before ++ after)) := by
        have hfilter := (List.perm_middle : (before ++ s :: after).Perm _).filter d.isLive
        rwa [List.filter_cons_of_pos (by simp [isLive, live])] at hfilter
      exact hsplit.map Submission.row
    obtain ⟨f, hf⟩ := tell_fate { d with pending := without d.pending s.token } s.token verdict
    rw [h.conclude_eq hmem, hf, (SameBooks.tell _ _ _).pending]
    simp only [opened, List.flatMap_nil, List.map_nil, List.append_nil, List.map_cons]
    exact (hleft.map Row.ticket).trans (List.perm_append_singleton _ _).symm
  | withdraw cancelled =>
    rw [h.withdraw_eq few (by simp) cancelled]
    exact List.Perm.refl _

/-! ## 2. A whole course -/

/-- **The books of a course.**  The accepted submissions are, up to order, those that are open and
those that ended. -/
theorem Course.conserves (c : Course d jobs as es) (few : as.length < UInt64.size) :
    ((opened as).map Submission.ticket).Perm (d.pending.map Row.ticket ++ es.map (·.2)) := by
  induction c with
  | made process handlers => exact List.Perm.refl _
  | @move d d' jobs jobs' as as' es es' course step ih =>
    rw [List.length_append] at few
    have hold := ih (by omega)
    have hmade := course.made_le
    have hnew := step.conserves (by omega) (course.matched (by omega))
    rw [opened_append, List.map_append, List.map_append]
    calc
      (opened as).map Submission.ticket ++ (opened as').map Submission.ticket
          ~ (d.pending.map Row.ticket ++ es.map (·.2)) ++ (opened as').map Submission.ticket :=
            hold.append_right _
      _ ~ es.map (·.2) ++ (d.pending.map Row.ticket ++ (opened as').map Submission.ticket) := by
            rw [← List.append_assoc]
            exact List.perm_append_comm.append_right _
      _ ~ es.map (·.2) ++ (d'.pending.map Row.ticket ++ es'.map (·.2)) := hnew.append_left _
      _ ~ d'.pending.map Row.ticket ++ (es.map (·.2) ++ es'.map (·.2)) := by
            rw [← List.append_assoc, ← List.append_assoc]
            exact List.perm_append_comm.append_right _

/-- Accepted submissions have numbers that were given out, each one another. -/
theorem Course.numbered (c : Course d jobs as es) (few : as.length < UInt64.size) :
    (∀ s ∈ opened as, s.seq = .ofNat s.cancel ∧ s.cancel < d.cancels.made) ∧
      ((opened as).map (·.cancel)).Nodup := by
  induction c with
  | made process handlers =>
    exact ⟨fun s hs => absurd hs List.not_mem_nil, List.nodup_nil⟩
  | @move d d' jobs jobs' as as' es es' course step ih =>
    rw [List.length_append] at few
    obtain ⟨hold, hdistinct⟩ := ih (by omega)
    have hnext := (course.matched (by omega)).nextSeq
    rw [opened_append, List.map_append]
    rcases step.spends with ⟨hmade, hnone⟩ | ⟨hmade, -, hnone | ⟨s, hone, hcancel, hseq⟩⟩
    · rw [hnone, List.map_nil, List.append_nil, List.append_nil, hmade]
      exact ⟨hold, hdistinct⟩
    · rw [hnone, List.map_nil, List.append_nil, List.append_nil, hmade]
      exact ⟨fun s hs => ⟨(hold s hs).1, Nat.lt_succ_of_lt (hold s hs).2⟩, hdistinct⟩
    · rw [hone, hmade]
      refine ⟨fun t ht => ?_, ?_⟩
      · rcases List.mem_append.mp ht with ho | hn
        · exact ⟨(hold t ho).1, Nat.lt_succ_of_lt (hold t ho).2⟩
        · rw [List.mem_singleton.mp hn]
          exact ⟨by rw [hseq, hcancel, hnext], by omega⟩
      · refine List.Nodup.append hdistinct (List.nodup_singleton _) ?_
        rw [List.map_singleton, List.disjoint_singleton]
        intro hm
        obtain ⟨t, ht, he⟩ := List.mem_map.mp hm
        have hlt := (hold t ht).2
        omega

/-- **Accepted submissions are told apart by their tickets**, also where tokens are used again. -/
theorem Course.nodup_tickets (c : Course d jobs as es) (few : as.length < UInt64.size) :
    ((opened as).map Submission.ticket).Nodup := by
  obtain ⟨hnumber, hdistinct⟩ := c.numbered few
  have hmade := c.made_le
  refine (List.nodup_map_iff_inj_on (hdistinct.of_map _)).mpr fun s hs t ht he => ?_
  refine List.inj_on_of_nodup_map hdistinct hs ht ?_
  obtain ⟨hs1, hs2⟩ := hnumber s hs
  obtain ⟨ht1, ht2⟩ := hnumber t ht
  have hseq : s.seq = t.seq := congrArg Ticket.seq he
  rw [hs1, ht1] at hseq
  exact ofNat_inj (by omega) (by omega) hseq

/-- No submission has ended twice, and none that has ended is open. -/
theorem Course.tickets_apart (c : Course d jobs as es) (few : as.length < UInt64.size) :
    (es.map (·.2)).Nodup ∧ List.Disjoint (d.pending.map Row.ticket) (es.map (·.2)) :=
  (List.nodup_append'.mp ((c.conserves few).nodup_iff.mp (c.nodup_tickets few))).2

/-! ## 3. One fate each -/

/-- The fates that a ticket met. -/
def fatesOf (es : List (Fate × Ticket)) (k : Ticket) : List Fate :=
  (es.filter fun e => e.2 = k).map (·.1)

theorem fatesOf_eq_nil {es : List (Fate × Ticket)} {k : Ticket} (h : k ∉ es.map (·.2)) :
    fatesOf es k = [] := by
  rw [fatesOf, List.map_eq_nil_iff, List.filter_eq_nil_iff]
  intro e he hk
  exact h (List.mem_map.mpr ⟨e, he, by simpa using hk⟩)

/-- A ticket that occurs once met one fate. -/
theorem exists_fatesOf_eq {es : List (Fate × Ticket)} (hn : (es.map (·.2)).Nodup) {k : Ticket}
    (h : k ∈ es.map (·.2)) : ∃ f, (f, k) ∈ es ∧ fatesOf es k = [f] := by
  obtain ⟨e, he, rfl⟩ := List.mem_map.mp h
  refine ⟨e.1, he, ?_⟩
  rw [fatesOf, filter_eq_singleton (·.2) hn he, List.map_singleton]

/-- **Every accepted submission is open and has met no fate, or is not open and has met one.** -/
theorem Course.one_fate (c : Course d jobs as es) (few : as.length < UInt64.size) {s : Submission}
    (hs : s ∈ opened as) :
    (s.ticket ∈ d.pending.map Row.ticket ∧ fatesOf es s.ticket = []) ∨
      (s.ticket ∉ d.pending.map Row.ticket ∧ ∃ f, fatesOf es s.ticket = [f]) := by
  obtain ⟨hended, hdisjoint⟩ := c.tickets_apart few
  have hmem : s.ticket ∈ d.pending.map Row.ticket ++ es.map (·.2) :=
    (c.conserves few).subset (List.mem_map_of_mem hs)
  rcases List.mem_append.mp hmem with hp | he
  · exact Or.inl ⟨hp, fatesOf_eq_nil (hdisjoint hp)⟩
  · obtain ⟨f, -, hf⟩ := exists_fatesOf_eq hended he
    exact Or.inr ⟨fun hp => hdisjoint hp he, f, hf⟩

/-- A ticket that met a fate met no other. -/
theorem Course.fatesOf_eq (c : Course d jobs as es) (few : as.length < UInt64.size) {f : Fate}
    {k : Ticket} (h : (f, k) ∈ es) : fatesOf es k = [f] := by
  rw [fatesOf, filter_eq_singleton (·.2) (c.tickets_apart few).1 h, List.map_singleton]

/-! ## 4. Counting by answers

Callers see no tickets.  What they can count are the answers they get and the calls of the sink. -/

/-- How many submissions a step accepted. -/
def Event.acceptedCount (place : Nat) : Event → Nat
  | .submitted p (.ok _) => if p = place then 1 else 0
  | _ => 0

/-- How many submissions met a fate in a step: calls of the sink, conclusions without one, yeses to
who cancels a token, and the numbers that who cancels a frame or shuts down is told. -/
def Event.count (place : Nat) (f : Fate) : Event → Nat
  | .polled t (.concluded how _) => if t.owner = place then how.fate.count f else 0
  | .cancelled p _ entry => if p = place ∧ f = .cancelled ∧ entry.isSome then 1 else 0
  | .frameCancelled p rows => if p = place ∧ f = .frameCancelled then rows.length else 0
  | .shut p rows => if p = place ∧ f = .cleared then rows.length else 0
  | _ => 0

/-- A count over a whole log. -/
def total (count : Event → Nat) : List Event → Nat
  | [] => 0
  | e :: rest => count e + total count rest

theorem length_opened_answers (place : Nat) (e : Event) :
    (opened (e.answers place)).length = e.acceptedCount place := by
  cases e with
  | submitted p result =>
    simp only [Event.answers]
    by_cases hp : p = place
    · cases result <;> simp [opened, admitted, Event.acceptedCount, hp]
    · cases result <;> simp [opened, Event.acceptedCount, hp]
  | _ => rfl

theorem length_opened_answersTo (place : Nat) (log : List Event) :
    (opened (answersTo place log)).length = total (Event.acceptedCount place) log := by
  induction log with
  | nil => rfl
  | cons e rest ih =>
    have he := length_opened_answers place e
    rw [show answersTo place (e :: rest) = e.answers place ++ answersTo place rest from rfl,
      opened_append, List.length_append, he, ih, total]

/-- How many of some submissions that ended did so with a given fate. -/
def tally (f : Fate) (es : List (Fate × Ticket)) : Nat := (es.map (·.1)).count f

theorem tally_append (f : Fate) (es es' : List (Fate × Ticket)) :
    tally f (es ++ es') = tally f es + tally f es' := by
  rw [tally, List.map_append, List.count_append]
  rfl

/-- All fates of some submissions that ended together, where it is the same one. -/
theorem tally_map_of_same {α : Type} (f g : Fate) (ticket : α → Ticket) (xs : List α) :
    tally f (xs.map fun x => (g, ticket x)) = if f = g then xs.length else 0 := by
  rw [tally, List.map_map]
  change (xs.map fun _ => g).count f = _
  rw [List.map_const', List.count_replicate]
  by_cases he : f = g
  · simp [he]
  · simp [he, Ne.symm he]

/-- Whoever ended did so with one of five fates. -/
theorem length_eq_tallies (es : List (Fate × Ticket)) :
    es.length = tally .told es + tally .unheard es + tally .cancelled es
      + tally .frameCancelled es + tally .cleared es := by
  induction es with
  | nil => rfl
  | cons e rest ih =>
    obtain ⟨f, k⟩ := e
    simp only [tally, List.map_cons, List.count_cons, List.length_cons] at ih ⊢
    cases f <;> simp <;> omega

/-- **What a step tells its caller is what it ended.** -/
theorem tally_ended (place : Nat) (f : Fate) (e : Event) :
    tally f (e.ended place) = e.count place f := by
  cases e with
  | other => rfl
  | submitted p result => rfl
  | cancelled p token entry =>
    simp only [Event.ended, Event.count]
    by_cases hp : p = place
    · rw [if_pos hp, tally_map_of_same]
      cases entry <;> simp [hp]
    · simp [hp, tally]
  | frameCancelled p rows =>
    simp only [Event.ended, Event.count]
    by_cases hp : p = place
    · rw [if_pos hp, tally_map_of_same]
      simp [hp]
    · simp [hp, tally]
  | shut p rows =>
    simp only [Event.ended, Event.count]
    by_cases hp : p = place
    · rw [if_pos hp, tally_map_of_same]
      simp [hp]
    · simp [hp, tally]
  | polled t progress =>
    cases progress with
    | concluded how verdict =>
      simp only [Event.ended, Event.count]
      by_cases hp : t.owner = place
      · rw [if_pos hp, if_pos hp, tally, List.map_map]
        change (how.fate.map id).count f = _
        rw [List.map_id]
      · simp [hp, tally]
    | _ => rfl

theorem tally_endedAt (place : Nat) (f : Fate) (log : List Event) :
    tally f (endedAt place log) = total (Event.count place f) log := by
  induction log with
  | nil => rfl
  | cons e rest ih =>
    rw [show endedAt place (e :: rest) = e.ended place ++ endedAt place rest from rfl,
      tally_append, tally_ended, ih, total]

/-! ## 5. Runs -/

/-- **Accepted submissions are conserved, and each has one fate.**  At every point of a run that
does not submit 2^64 times, the accepted submissions to a dispatcher number as many as are open, as
the sink was told of, as found no sink, and as were cancelled by token, with their frame, or by
shutting down.  Each of them is open and has met no fate, or is not open and has met exactly one,
once.  However the run goes on, a fate that was met stays the only one, so what was cancelled or
cleared is never delivered. -/
theorem run_conserves_submissions (catalog : PluginSource) (cached gated : Bool) (place : Nat)
    (actions later : List Action) (few : submissionsTo place (actions ++ later) < UInt64.size)
    {d : Dispatcher}
    (hd : ((start catalog cached gated).run actions).dispatchers[place]? = some d) :
    let log := (start catalog cached gated).log actions
    let accepted := opened (answersTo place log)
    let ended := endedAt place log
    let endedLater := endedAt place ((start catalog cached gated).log (actions ++ later))
    accepted.length = total (Event.acceptedCount place) log ∧
      (accepted.map Submission.ticket).Nodup ∧
      total (Event.acceptedCount place) log = d.pendingCount
        + total (Event.count place .told) log + total (Event.count place .unheard) log
        + total (Event.count place .cancelled) log + total (Event.count place .frameCancelled) log
        + total (Event.count place .cleared) log ∧
      (∀ s ∈ accepted,
        (s.ticket ∈ d.pending.map Row.ticket ∧ fatesOf ended s.ticket = []) ∨
          (s.ticket ∉ d.pending.map Row.ticket ∧ ∃ f, fatesOf ended s.ticket = [f])) ∧
      ∀ f k, (f, k) ∈ ended →
        fatesOf endedLater k = [f] ∧ (f.isWithdrawal = true → (.told, k) ∉ endedLater) := by
  intro log accepted ended endedLater
  have hsubmits : submissionsTo place (actions ++ later)
      = submissionsTo place actions + submissionsTo place later := List.countP_append
  have c : Course d (((start catalog cached gated).run actions).jobs place)
      (answersTo place log) ended := run_course catalog cached gated hd
  have hfew : (answersTo place log).length < UInt64.size := length_answersTo_lt _ (by omega)
  have haccepted : accepted.length = total (Event.acceptedCount place) log :=
    length_opened_answersTo place log
  refine ⟨haccepted, c.nodup_tickets hfew, ?_, fun s hs => c.one_fate hfew hs, ?_⟩
  · have hbooks := (c.conserves hfew).length_eq
    simp only [List.length_append, List.length_map] at hbooks
    rw [length_eq_tallies ended] at hbooks
    have htally : ∀ f, total (Event.count place f) log = tally f ended := fun f =>
      (tally_endedAt place f log).symm
    rw [← haccepted, hbooks, Dispatcher.pendingCount, htally, htally, htally, htally, htally]
    omega
  · intro f k hf
    obtain ⟨d', hd'⟩ := run_present (sound_run catalog cached gated actions) hd later
    rw [← run_append] at hd'
    have hlater : fatesOf endedLater k = [f] := by
      refine (run_course catalog cached gated hd').fatesOf_eq (length_answersTo_lt _ few) ?_
      rw [log_append, endedAt_append]
      exact List.mem_append_left _ hf
    refine ⟨hlater, fun hw htold => ?_⟩
    -- a ticket that was told of as well would have met a second fate
    have : Fate.told ∈ fatesOf endedLater k :=
      List.mem_map.mpr ⟨(.told, k), List.mem_filter.mpr ⟨htold, by simp⟩, rfl⟩
    rw [hlater, List.mem_singleton] at this
    subst this
    exact absurd hw (by decide)

/-- A token is submitted, cancelled and submitted again for another type, before any poll. -/
def reuse : List Action :=
  [.addDispatcher ⟨0⟩ {}, .call 0 (.submit (.ofNat 7) { (default : Request) with mimeType := "a" }),
    .call 0 (.cancel (.ofNat 7)),
    .call 0 (.submit (.ofNat 7) { (default : Request) with mimeType := "b" })]

/-- Names the type that was asked for. -/
def echo : Judge := fun request _ => { status := .notFound, mimeType := request.mimeType }

/-- When both tasks were polled, the first submission is still what it was, cancelled.  The second
was delivered, and this is all that the sink has received. -/
theorem run_conserves_reuse :
    let polled := reuse ++ [.poll echo 0, .poll echo 1]
    let ended := endedAt 0 ((start {} false false).log polled)
    submissionsTo 0 polled < UInt64.size ∧
      fatesOf ended ⟨.ofNat 7, 0⟩ = [.cancelled] ∧ (.told, ⟨.ofNat 7, 0⟩) ∉ ended ∧
      fatesOf ended ⟨.ofNat 7, 1⟩ = [.told] ∧
      ∃ d, ((start {} false false).run polled).dispatchers[0]? = some d ∧ d.pending = [] ∧
        d.received = [(.ofNat 7, { status := .notFound, mimeType := "b" })] := by
  intro polled ended
  have few : submissionsTo 0 (polled ++ []) < UInt64.size := by decide
  obtain ⟨-, -, -, -, hlater⟩ := run_conserves_submissions {} false false 0 polled [] few rfl
  rw [List.append_nil] at few hlater
  obtain ⟨hcancelled, hnever⟩ := hlater .cancelled ⟨.ofNat 7, 0⟩ (by decide)
  obtain ⟨htold, -⟩ := hlater .told ⟨.ofNat 7, 1⟩ (by decide)
  exact ⟨few, hcancelled, hnever rfl, htold, _, rfl, rfl, rfl⟩

end PluginArbiter.Hub
