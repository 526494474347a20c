/-
# Cancelling a frame

To cancel a frame is one pass over the table; to cancel its submissions one by one is a lookup for
each of them, in whatever order.  The two leave different books behind, for the children of the root
are cancelled in another order.  Nobody can see that.

Seen from outside, a call that cancels closes some of the open submissions, and only who is closed
counts.  Closing twice is closing once by either mark (`Outline.close_close`), and marks that agree on
the open submissions close the same ones (`Outline.close_congr`).  So a whole order of single calls
closes by the mark "its token is in the order" (`run_cancels`), and this agrees with the mark "it is
of the frame" wherever the order holds the tokens of that frame's submissions, for no two open
submissions share a token.  From then on both runs are runs of one outline, and it does not matter
that the tasks of the cancelled submissions have still to be polled, or that their tokens are used
again for another frame.

Main statements:
* `Outline.close_close`, `Outline.close_congr`: closing goes by marks;
* `run_cancels`: what single calls do, one after the other;
* `Move.pending_cases`, `run_pending_cases`: a row is new only where a submission is accepted;
* `run_cancelFrame_refines`: to cancel a frame is to cancel its submissions one by one;
* `outcome_hangs_on_cancelled_frame`: which may change the verdicts on others, if the catalog fails.
-/
import PluginArbiter.Policy
import PluginArbiter.Proofs.Dispatch.Outcome

namespace PluginArbiter

open Dispatcher

/-! ## 1. Closing by a mark -/

namespace Outline

variable {o : Outline} {place : Nat} {p q : Job → Bool}

/-- Marks that agree on the open submissions close the same ones. -/
theorem close_congr (h : ∀ j ∈ o.openAt place, p j = q j) : o.close place p = o.close place q := by
  have hjobs : ∀ j ∈ o.jobs,
      (if j.owner = place && p j then { j with isLive := false } else j)
        = if j.owner = place && q j then { j with isLive := false } else j := by
    intro j hj
    by_cases hopen : (decide (j.owner = place) && j.isLive) = true
    · rw [h j (List.mem_filter.mpr ⟨hj, hopen⟩)]
    · -- who is not open stays as he is, be he marked or not
      by_cases howner : j.owner = place
      · have hclosed : { j with isLive := false } = j := by
          have hlive : j.isLive = false := by simpa [howner] using hopen
          rw [← hlive]
        rw [hclosed, ite_self, ite_self]
      · simp [howner]
  simp only [close, List.map_congr_left hjobs]

/-- To close by one mark and then by another is to close by either. -/
theorem close_close :
    (o.close place p).close place q = o.close place fun j => p j || q j := by
  simp only [close, List.map_map]
  congr 1
  refine List.map_congr_left fun j _ => ?_
  simp only [Function.comp_apply]
  by_cases howner : j.owner = place
  · by_cases hp : p j = true <;> simp [howner, hp]
  · simp [howner]

end Outline

/-! ## 2. What cannot be told apart -/

namespace Hub

variable {h h' : Hub} {place : Nat} {d : Dispatcher}

/-- The table of the dispatcher at a place, as far as it can be seen. -/
def table (h : Hub) (place : Nat) : Option (List (Token × FrameId)) :=
  h.dispatchers[place]?.map fun d => d.pending.map fun row => (row.1, row.2.frame)

theorem table_eq (hi : h.InOrder) (place : Nat) :
    h.table place = h.outline.faces[place]?.map fun _ =>
      (h.outline.openAt place).map fun j => (j.token, j.request.frame) := by
  rw [table, faces_outline]
  cases hd : h.dispatchers[place]? with
  | none => rfl
  | some d => simp only [Option.map_some, pending_eq_openAt (hi.matched place d hd) hd]

/-- A run that goes on from either point shows the same: every step has the same report, and at the
end all dispatchers have the same face and the same submissions open, and the catalog is in the same
state. -/
structure SeenAlike (h h' : Hub) (later : List Action) : Prop where
  reports : (h'.log later).map Event.report = (h.log later).map Event.report
  glance : ∀ p, (h'.run later).glance p = (h.run later).glance p
  table : ∀ p, (h'.run later).table p = (h.run later).table p
  supply : (h'.run later).supply = (h.run later).supply

section Runs

variable (catalog : PluginSource) (cached gated : Bool)

/-- Two points with one outline are seen alike, whatever follows. -/
theorem seenAlike_of_outline {before before' : List Action} (later : List Action)
    (few : ∀ p, submissionsTo p (before ++ later) < UInt64.size)
    (few' : ∀ p, submissionsTo p (before' ++ later) < UInt64.size)
    (same : ((start catalog cached gated).run before').outline
      = ((start catalog cached gated).run before).outline) :
    SeenAlike ((start catalog cached gated).run before) ((start catalog cached gated).run before')
      later := by
  obtain ⟨hreports, hglance, hsupply⟩ := run_eq_of_outline catalog cached gated later few few' same
  refine ⟨hreports, hglance, fun p => ?_, hsupply⟩
  have hend := (run_outline catalog cached gated before later few).2
  have hend' := (run_outline catalog cached gated before' later few').2
  have hi := inOrder_run catalog cached gated few
  have hi' := inOrder_run catalog cached gated few'
  rw [run_append] at hi hi'
  rw [table_eq hi, table_eq hi', hend, hend', same]

/-- Actions that submit nothing cost no numbers. -/
theorem few_insert {before mid later : List Action}
    (few : ∀ p, submissionsTo p (before ++ later) < UInt64.size)
    (silent : ∀ p, submissionsTo p mid = 0) :
    ∀ p, submissionsTo p ((before ++ mid) ++ later) < UInt64.size := by
  intro p
  have hbefore := few p
  have hmid := silent p
  simp only [submissionsTo, List.countP_append] at hbefore hmid ⊢
  omega

/-! ## 3. One by one -/

/-- Cancels what is under some tokens, one after the other. -/
def cancels (place : Nat) (order : List Token) : List Action :=
  order.map fun token => .call place (.cancel token)

theorem submissionsTo_cancels (p place : Nat) (order : List Token) :
    submissionsTo p (cancels place order) = 0 := by
  rw [submissionsTo, cancels, List.countP_eq_zero]
  intro a ha
  obtain ⟨token, -, rfl⟩ := List.mem_map.mp ha
  simp [Action.submitsTo]

/-- A call changes its dispatcher as it does. -/
theorem getElem?_call (hd : h.dispatchers[place]? = some d) (call : Call) :
    (h.act (.call place call)).2.dispatchers[place]? = some (served d call) := by
  simp only [act, hd]
  rw [getElem?_serve hd, if_pos rfl]

theorem getElem?_run_call {before : List Action} {h : Hub}
    (hd : (h.run before).dispatchers[place]? = some d) (call : Call) :
    (h.run (before ++ [.call place call])).dispatchers[place]? = some (served d call) := by
  rw [run_concat]
  exact getElem?_call hd call

/-- To cancel a frame gives its rows and changes its dispatcher. -/
theorem act_cancelFrame (hd : h.dispatchers[place]? = some d) (frame : FrameId) :
    h.act (.call place (.cancelFrame frame))
      = (.frameCancelled place (d.cancelFrame frame).1,
          h.setDispatcher place (d.cancelFrame frame).2) := by
  simp only [act, hd]
  rfl

/-- What a call shows, it shows to the outline. -/
theorem outline_call {before : List Action} (few : ∀ p, submissionsTo p before < UInt64.size)
    (hd : ((start catalog cached gated).run before).dispatchers[place]? = some d) (call : Call) :
    let h := (start catalog cached gated).run before
    ((h.act (.call place call)).1.report, (h.act (.call place call)).2.outline)
      = h.outline.serve place d.face call := by
  intro h
  rw [← act_outline (inOrder_run catalog cached gated few)]
  simp only [Outline.act, face_outline hd]
  rfl

/-- **One by one.**  Whoever cancels what is under some tokens, each of them once and each with a row,
is told each time that there was one.  In the end the rows under these tokens are gone and no
others, and what was under them is closed. -/
theorem run_cancels {before : List Action} (few : ∀ p, submissionsTo p before < UInt64.size)
    (hd : ((start catalog cached gated).run before).dispatchers[place]? = some d)
    {order : List Token} (hn : order.Nodup) (hrows : ∀ token ∈ order, ∃ row ∈ d.pending, row.1 = token) :
    let h := (start catalog cached gated).run before
    (h.log (cancels place order)).map Event.report
        = order.map (fun token => .cancelled place token true) ∧
      (∃ d', (h.run (cancels place order)).dispatchers[place]? = some d' ∧
        d'.pending = d.pending.filter fun row => row.1 ∉ order) ∧
      (h.run (cancels place order)).outline = h.outline.close place fun j => j.token ∈ order := by
  induction order generalizing before d with
  | nil =>
    intro h
    refine ⟨rfl, ⟨d, hd, ?_⟩, ?_⟩
    · exact (List.filter_eq_self.mpr fun row _ => by simp).symm
    · exact (by simp [Outline.close] : _ = h.outline).symm
  | cons token rest ih =>
    intro h
    obtain ⟨hnot, hnrest⟩ := List.nodup_cons.mp hn
    have hm := run_matched catalog cached gated hd (few place)
    obtain ⟨row, hrow, hrowtoken⟩ := hrows token List.mem_cons_self
    let first := Action.call place (.cancel token)
    have hserve := outline_call catalog cached gated few hd (.cancel token)
    have hreport : (h.act first).1.report = .cancelled place token true := by
      have hfound : (h.outline.openAt place).any (·.token = token) = true := by
        rw [← lookup_pending hm hd, ← hrowtoken, lookup_eq_some_of_mem hm.tokens hrow]
        rfl
      exact (congrArg Prod.fst hserve).trans (congrArg (Report.cancelled place token) hfound)
    have hclosed : (h.act first).2.outline = h.outline.close place (·.token = token) :=
      congrArg Prod.snd hserve
    have hd' := getElem?_call hd (.cancel token)
    have hpending : (served d (.cancel token)).pending = d.pending.filter fun r => r.1 ≠ token := by
      simp only [served, cancel_eq hm.tokens, strike, decide_not]
    have hstill : ∀ other ∈ rest, ∃ r ∈ (served d (.cancel token)).pending, r.1 = other := by
      intro other hother
      obtain ⟨r, hr, he⟩ := hrows other (List.mem_cons_of_mem _ hother)
      have hne : r.1 ≠ token := fun hsame => hnot (hsame ▸ he ▸ hother)
      rw [hpending]
      exact ⟨r, List.mem_filter.mpr ⟨hr, decide_eq_true hne⟩, he⟩
    have hfew : ∀ p, submissionsTo p (before ++ [first]) < UInt64.size := by
      have hinsert : ∀ p, submissionsTo p ((before ++ [first]) ++ []) < UInt64.size :=
        few_insert (by simpa using few) fun p => by simp [first, submissionsTo, Action.submitsTo]
      simpa using hinsert
    have hnext := ih hfew (getElem?_run_call hd _) hnrest hstill
    rw [run_concat] at hnext
    obtain ⟨hlog, ⟨d', hd'', hrest⟩, houtline⟩ := hnext
    refine ⟨?_, ⟨d', hd'', ?_⟩, ?_⟩
    · exact congrArg₂ List.cons hreport hlog
    · rw [hrest, hpending, List.filter_filter]
      refine List.filter_congr fun r _ => ?_
      simp [Bool.and_comm]
    · refine houtline.trans ?_
      rw [hclosed, Outline.close_close]
      congr 1
      funext j
      simp

/-! ## 4. The submissions of a frame -/

/-- The unsettled submissions have the rows of the table. -/
theorem pending_perm {before : List Action} (few : submissionsTo place before < UInt64.size)
    (hd : ((start catalog cached gated).run before).dispatchers[place]? = some d) :
    d.pending.Perm
      ((unsettled place ((start catalog cached gated).log before)).map Submission.row) := by
  rw [(run_matched catalog cached gated hd few).table]
  exact ((run_course catalog cached gated hd).live_perm (length_answersTo_lt _ few)).map _

/-- The unsettled submissions of a frame. -/
def unsettledOf (place : Nat) (frame : FrameId) (log : List Event) : List Submission :=
  (unsettled place log).filter fun s => s.request.frame = frame

/-- A frame has as many rows as unsettled submissions. -/
theorem length_cancelFrame {before : List Action} (few : submissionsTo place before < UInt64.size)
    (hd : ((start catalog cached gated).run before).dispatchers[place]? = some d) (frame : FrameId) :
    (d.cancelFrame frame).1.length
      = (unsettledOf place frame ((start catalog cached gated).log before)).length := by
  have hrows := (pending_perm catalog cached gated few hd).filter fun row => row.2.frame = frame
  rw [List.filter_map] at hrows
  have hlength := hrows.length_eq
  rwa [List.length_map] at hlength

/-- Where an order holds the tokens of the unsettled submissions of a frame, each of these has a row,
and the rows under the order are those of the frame. -/
theorem mem_order_iff {before : List Action} (few : submissionsTo place before < UInt64.size)
    (hd : ((start catalog cached gated).run before).dispatchers[place]? = some d) {frame : FrameId}
    {order : List Token}
    (horder : order.Perm
      ((unsettledOf place frame ((start catalog cached gated).log before)).map (·.token))) :
    (∀ row ∈ d.pending, row.1 ∈ order ↔ row.2.frame = frame) ∧ order.Nodup ∧
      ∀ token ∈ order, ∃ row ∈ d.pending, row.1 = token := by
  have hm := run_matched catalog cached gated hd few
  have hrows := pending_perm catalog cached gated few hd
  have htokens := hrows.map (·.1)
  rw [List.map_map] at htokens
  have hnodup := htokens.nodup_iff.mp hm.tokens
  have hfrom : ∀ token ∈ order, ∃ row ∈ d.pending, row.1 = token ∧ row.2.frame = frame := by
    intro token htoken
    obtain ⟨s, hs, rfl⟩ := List.mem_map.mp (horder.subset htoken)
    obtain ⟨hunsettled, hframe⟩ := List.mem_filter.mp hs
    exact ⟨s.row, hrows.symm.subset (List.mem_map_of_mem hunsettled), rfl,
      of_decide_eq_true hframe⟩
  refine ⟨fun row hrow => ⟨fun htoken => ?_, fun hframe => ?_⟩, ?_, fun token htoken => ?_⟩
  · obtain ⟨row', hrow', htoken', hframe⟩ := hfrom row.1 htoken
    rwa [← List.inj_on_of_nodup_map hm.tokens hrow' hrow htoken']
  · obtain ⟨s, hs, rfl⟩ := List.mem_map.mp (hrows.subset hrow)
    exact horder.symm.subset
      (List.mem_map_of_mem (List.mem_filter.mpr ⟨hs, decide_eq_true hframe⟩))
  · exact horder.nodup_iff.mpr (hnodup.sublist (List.filter_sublist.map _))
  · obtain ⟨row, hrow, he, -⟩ := hfrom token htoken
    exact ⟨row, hrow, he⟩

end Runs

/-! ## 5. Where rows come from -/

theorem pending_release_subset (d : Dispatcher) (s : Submission) :
    (d.release s).2.pending ⊆ d.pending := by
  unfold release
  split
  · exact List.Subset.refl _
  · split
    · exact fun _ hrow => List.mem_of_mem_filter hrow
    · exact List.Subset.refl _

/-- **A row is new only where a submission is accepted.** -/
theorem Move.pending_cases {d' : Dispatcher} {jobs jobs' : List Submission}
    {as : List (Except DispatchError Submission)} {es : List (Fate × Ticket)}
    (m : Move d jobs as es d' jobs') {row : Row} (hrow : row ∈ d'.pending) :
    row ∈ d.pending ∨ ∃ s ∈ opened as, s.row = row := by
  cases m with
  | rest same => exact Or.inl (same.pending ▸ hrow)
  | submit token request =>
    rcases d.accept_cases token request with ⟨e, he⟩ | he | ⟨-, -, he⟩
    · rw [he] at hrow
      exact Or.inl hrow
    · rw [he] at hrow
      exact Or.inl hrow
    · rw [he] at hrow ⊢
      rcases List.mem_append.mp hrow with hold | hnew
      · exact Or.inl hold
      · exact Or.inr ⟨_, List.mem_singleton_self _, (List.mem_singleton.mp hnew).symm⟩
  | cancel token =>
    left
    unfold Dispatcher.cancel at hrow
    split at hrow
    · exact hrow
    · exact List.mem_of_mem_filter hrow
  | cancelFrame frame => exact Or.inl (List.mem_of_mem_filter hrow)
  | shut same =>
    left
    unfold Dispatcher.shut at hrow
    split at hrow
    · exact same.pending ▸ hrow
    · exact absurd hrow List.not_mem_nil
  | @conclude before after s live verdict =>
    left
    simp only [Dispatcher.conclude] at hrow
    split at hrow
    · exact pending_release_subset d s hrow
    · rw [(SameBooks.tell _ _ _).pending] at hrow
      exact pending_release_subset d s hrow
  | @withdraw before after s cancelled => exact Or.inl (pending_release_subset d s hrow)

/-- Whatever follows, a row is there already or is that of a submission accepted meanwhile. -/
theorem run_pending_cases (hs : h.Sound) (hd : h.dispatchers[place]? = some d) (later : List Action) :
    ∃ d', (h.run later).dispatchers[place]? = some d' ∧ ∀ row ∈ d'.pending,
      row ∈ d.pending ∨ ∃ s ∈ opened (answersTo place (h.log later)), s.row = row := by
  induction later generalizing h d with
  | nil => exact ⟨d, hd, fun row hrow => Or.inl hrow⟩
  | cons a rest ih =>
    obtain ⟨d₁, hd₁, hmove⟩ := act_move hs hd a
    obtain ⟨d', hd', hrows⟩ := ih (hs.act a) hd₁
    refine ⟨d', hd', fun row hrow => ?_⟩
    have hopened : opened (answersTo place (h.log (a :: rest)))
        = opened ((h.act a).1.answers place) ++ opened (answersTo place ((h.act a).2.log rest)) :=
      opened_append ..
    rw [hopened]
    rcases hrows row hrow with hold | ⟨s, hs', he⟩
    · rcases hmove.pending_cases hold with hfirst | ⟨s, hs', he⟩
      · exact Or.inl hfirst
      · exact Or.inr ⟨s, List.mem_append_left _ hs', he⟩
    · exact Or.inr ⟨s, List.mem_append_right _ hs', he⟩

/-! ## 6. A frame at once -/

section Runs

variable (catalog : PluginSource) (cached gated : Bool)

variable {before : List Action} (few : ∀ p, submissionsTo p before < UInt64.size)
  (hd : ((start catalog cached gated).run before).dispatchers[place]? = some d)

theorem submissionsTo_cancelFrame (p place : Nat) (frame : FrameId) :
    submissionsTo p [.call place (.cancelFrame frame)] = 0 := by
  simp [submissionsTo, Action.submitsTo]

include few in
theorem few_cancelFrame (frame : FrameId) :
    ∀ p, submissionsTo p (before ++ [.call place (.cancelFrame frame)]) < UInt64.size := by
  have hinsert : ∀ p, submissionsTo p ((before ++ [.call place (.cancelFrame frame)]) ++ []) < _ :=
    few_insert (by simpa using few) (submissionsTo_cancelFrame · place frame)
  simpa using hinsert

include few hd

/-- Whoever cancels a frame is told how many of its submissions were unsettled. -/
theorem report_cancelFrame (frame : FrameId) :
    (((start catalog cached gated).run before).act (.call place (.cancelFrame frame))).1.report
      = .frameCancelled place
          (unsettledOf place frame ((start catalog cached gated).log before)).length := by
  rw [act_cancelFrame hd, Event.report, length_cancelFrame catalog cached gated (few place) hd]

/-- To cancel a frame closes its submissions and shows nothing else. -/
theorem outline_cancelFrame (frame : FrameId) :
    (((start catalog cached gated).run before).act (.call place (.cancelFrame frame))).2.outline
      = ((start catalog cached gated).run before).outline.close place (·.request.frame = frame) :=
  congrArg Prod.snd (outline_call catalog cached gated few hd (.cancelFrame frame))

/-- **At once or one by one.**  In whatever order the submissions of a frame are cancelled, each call
finds its submission, and the table and all that can be seen are as if the frame had been cancelled
at once. -/
theorem cancels_eq_cancelFrame {frame : FrameId} {order : List Token}
    (horder : order.Perm
      ((unsettledOf place frame ((start catalog cached gated).log before)).map (·.token))) :
    let h := (start catalog cached gated).run before
    let h' := (h.act (.call place (.cancelFrame frame))).2
    let single := h.run (cancels place order)
    (h.log (cancels place order)).map Event.report
        = order.map (fun token => .cancelled place token true) ∧
      single.dispatchers[place]?.map (·.pending) = h'.dispatchers[place]?.map (·.pending) ∧
      single.outline = h'.outline := by
  intro h h' single
  have hm := run_matched catalog cached gated hd (few place)
  obtain ⟨hiff, hnodup, hrows⟩ := mem_order_iff catalog cached gated (few place) hd horder
  obtain ⟨hreports, ⟨d', hd', hpending⟩, houtline⟩ :=
    run_cancels catalog cached gated few hd hnodup hrows
  have hserved := getElem?_call hd (.cancelFrame frame)
  refine ⟨hreports, ?_, ?_⟩
  · have hkeep : d'.pending = (d.cancelFrame frame).2.pending := by
      rw [hpending]
      exact List.filter_congr fun row hrow => decide_eq_decide.mpr (not_congr (hiff row hrow))
    exact (congrArg (Option.map _) hd').trans
      ((congrArg some hkeep).trans (congrArg (Option.map _) hserved).symm)
  · have hagree : ∀ j ∈ h.outline.openAt place,
        decide (j.token ∈ order) = decide (j.request.frame = frame) := by
      intro j hj
      have hseen := List.mem_map_of_mem (f := fun j : Job => (j.token, j.request.frame)) hj
      rw [← pending_eq_openAt hm hd] at hseen
      obtain ⟨row, hrow, he⟩ := List.mem_map.mp hseen
      obtain ⟨htoken, hframe⟩ := Prod.mk.inj he
      rw [← htoken, ← hframe, decide_eq_decide]
      exact hiff row hrow
    refine houtline.trans ?_
    rw [Outline.close_congr hagree]
    exact (outline_cancelFrame catalog cached gated few hd frame).symm

/-- **Nobody else is touched.**  All tasks go on where they were, only those of the frame at this place
are cancelled, and what is unsettled afterwards is what was and is not of the frame. -/
theorem cancelFrame_spares (frame : FrameId) :
    let h := (start catalog cached gated).run before
    let h' := (h.act (.call place (.cancelFrame frame))).2
    h'.tasks = h.tasks ∧
      (∀ t ∈ h.tasks, (t.owner = place → t.submission.request.frame ≠ frame) →
        h'.isCancelled t = h.isCancelled t) ∧
      (unsettled place
          ((start catalog cached gated).log (before ++ [.call place (.cancelFrame frame)]))).Perm
        ((unsettled place ((start catalog cached gated).log before)).filter fun s =>
          s.request.frame ≠ frame) := by
  intro h h'
  have hm := run_matched catalog cached gated hd (few place)
  have hact : h' = h.setDispatcher place (d.cancelFrame frame).2 :=
    congrArg Prod.snd (act_cancelFrame hd frame)
  have hd' := getElem?_call hd (.cancelFrame frame)
  have htasks : h'.tasks = h.tasks := by rw [hact]; rfl
  refine ⟨htasks, fun t ht hother => ?_, ?_⟩
  · by_cases howner : t.owner = place
    · obtain rfl := howner
      have hframe : t.submission.row.2.frame ≠ frame := hother rfl
      rw [isCancelled_eq hd', isCancelled_eq hd]
      simp only [served, cancelFrame_eq]
      rw [hm.isCancelled_strike _ (submission_mem_jobs ht), decide_eq_false hframe, Bool.or_false]
    · simp only [hact, isCancelled, setDispatcher, List.getElem?_set_ne (Ne.symm howner)]
  · have hbefore := (run_course catalog cached gated hd).live_perm (length_answersTo_lt _ (few place))
    have hafter := (run_course catalog cached gated (getElem?_run_call hd (.cancelFrame frame))).live_perm
      (length_answersTo_lt _ (few_cancelFrame few frame place))
    have hjobs : ((start catalog cached gated).run
        (before ++ [.call place (.cancelFrame frame)])).jobs place = h.jobs place := by
      rw [run_concat]
      exact congrArg (fun ts => (ts.filter fun t : Task => t.owner = place).map (·.submission)) htasks
    have hlive : (d.cancelFrame frame).2.live (h.jobs place)
        = (d.live (h.jobs place)).filter fun s => s.request.frame ≠ frame := by
      rw [cancelFrame_eq, hm.live_strike]
      exact List.filter_congr fun s _ => (decide_not ..).symm
    rw [hjobs] at hafter
    exact hafter.symm.trans ((List.Perm.of_eq hlive).trans (hbefore.filter _))

omit few in
/-- **Once is enough.**  As long as no submission of the frame is accepted, to cancel it again ends
nothing. -/
theorem cancelFrame_again {frame : FrameId} {later : List Action} :
    let h := (start catalog cached gated).run before
    let h' := (h.act (.call place (.cancelFrame frame))).2
    (∀ s ∈ opened (answersTo place (h'.log later)), s.request.frame ≠ frame) →
      ((h'.run later).act (.call place (.cancelFrame frame))).1.report = .frameCancelled place 0 := by
  intro h h' hnew
  have hs : h'.Sound := (sound_run catalog cached gated before).act _
  obtain ⟨d', hd', hrows⟩ := run_pending_cases hs (getElem?_call hd (.cancelFrame frame)) later
  have hnone : (d'.pending.filter fun row => row.2.frame = frame) = [] := by
    refine List.filter_eq_nil_iff.mpr fun row hrow => ?_
    rw [decide_eq_true_eq]
    rcases hrows row hrow with hold | ⟨s, hs, rfl⟩
    · exact of_decide_eq_true (List.mem_filter.mp hold).2
    · exact hnew s hs
  rw [act_cancelFrame hd', Dispatcher.cancelFrame, hnone]
  rfl

/-- **Two frames in either order.** -/
theorem cancelFrame_comm {frame other : FrameId} (hne : other ≠ frame) :
    let h := (start catalog cached gated).run before
    let h' := (h.act (.call place (.cancelFrame frame))).2
    let g := (h.act (.call place (.cancelFrame other))).2
    (h'.act (.call place (.cancelFrame other))).1.report
        = (h.act (.call place (.cancelFrame other))).1.report ∧
      (h'.act (.call place (.cancelFrame other))).2.dispatchers[place]?.map (·.pending)
        = (g.act (.call place (.cancelFrame frame))).2.dispatchers[place]?.map (·.pending) ∧
      (h'.act (.call place (.cancelFrame other))).2.outline
        = (g.act (.call place (.cancelFrame frame))).2.outline := by
  intro h h' g
  have hd' := getElem?_call hd (.cancelFrame frame)
  have hg := getElem?_call hd (.cancelFrame other)
  have hrows : ((d.cancelFrame frame).2.cancelFrame other).1 = (d.cancelFrame other).1 := by
    simp only [Dispatcher.cancelFrame, List.filter_filter]
    refine List.filter_congr fun row _ => ?_
    by_cases he : row.2.frame = other <;> simp [he, hne]
  have hpending : ((d.cancelFrame frame).2.cancelFrame other).2.pending
      = ((d.cancelFrame other).2.cancelFrame frame).2.pending := by
    simp only [Dispatcher.cancelFrame, List.filter_filter]
    exact List.filter_congr fun row _ => Bool.and_comm ..
  refine ⟨?_, ?_, ?_⟩
  · have hfirst : (h.act (.call place (.cancelFrame other))).1
        = .frameCancelled place (d.cancelFrame other).1 :=
      congrArg Prod.fst (act_cancelFrame hd other)
    have hthen : (h'.act (.call place (.cancelFrame other))).1
        = .frameCancelled place ((d.cancelFrame frame).2.cancelFrame other).1 :=
      congrArg Prod.fst (act_cancelFrame hd' other)
    rw [hthen, hfirst, hrows]
  · rw [getElem?_call hd', getElem?_call hg]
    exact congrArg some hpending
  · have hfirst := outline_cancelFrame catalog cached gated few hd frame
    have hsecond := outline_cancelFrame catalog cached gated few hd other
    have hthen := outline_cancelFrame catalog cached gated (few_cancelFrame few frame)
      (getElem?_run_call hd _) other
    have hthen' := outline_cancelFrame catalog cached gated (few_cancelFrame few other)
      (getElem?_run_call hd _) frame
    rw [run_concat, hfirst, Outline.close_close] at hthen
    rw [run_concat, hsecond, Outline.close_close] at hthen'
    refine hthen.trans (Eq.trans ?_ hthen'.symm)
    congr 1
    funext j
    exact Bool.or_comm ..

/-- **To cancel a frame is to cancel its submissions one by one.**  Take any point of any run that does
not submit 2^64 times, with tasks at whatever stage, and any frame.

The table holds the submissions that were accepted and have met no fate, and whoever cancels the frame
is told how many of these are of the frame.  Whoever instead cancels them by their tokens, in any
order, is told each time that there was one, has the same table then, and the two are seen alike
however the run goes on.

The submissions of other frames stay in the table, and they alone, and their tasks go on uncancelled
from where they were.  If the sink listens, and all tasks run to their end with the gate open, then the
sink is told of each of them once, as it would have been without the cancellation; and where the
catalog answers all enumerations alike, it is told the same verdicts.

However the run goes on, to cancel the frame again ends nothing as long as no submission for it is
accepted.  And to cancel two frames gives both callers the same number in either order, and the same
table, and the two orders are seen alike however the run goes on. -/
theorem run_cancelFrame_refines (frame : FrameId) :
    let h := (start catalog cached gated).run before
    let log := (start catalog cached gated).log before
    let cancelFrame := fun f => Action.call place (.cancelFrame f)
    let tableOf := fun g : Hub => g.dispatchers[place]?.map (·.pending)
    let after := fun f => (h.act (cancelFrame f)).2
    (d.pending.Perm ((unsettled place log).map Submission.row) ∧
        (h.act (cancelFrame frame)).1.report
          = .frameCancelled place (unsettledOf place frame log).length) ∧
      (∀ order, order.Perm ((unsettledOf place frame log).map (·.token)) →
        (h.log (cancels place order)).map Event.report
            = order.map (fun token => .cancelled place token true) ∧
          tableOf (h.run (cancels place order)) = tableOf (after frame) ∧
          ∀ later, (∀ p, submissionsTo p (before ++ later) < UInt64.size) →
            SeenAlike (after frame) (h.run (cancels place order)) later) ∧
      (tableOf (after frame) = some (d.pending.filter fun row => row.2.frame ≠ frame) ∧
        (unsettled place ((start catalog cached gated).log (before ++ [cancelFrame frame]))).Perm
          ((unsettled place log).filter fun s => s.request.frame ≠ frame) ∧
        (after frame).tasks = h.tasks ∧
        (∀ t ∈ h.tasks, (t.owner = place → t.submission.request.frame ≠ frame) →
          (after frame).isCancelled t = h.isCancelled t) ∧
        (d.sink = .listening → ∀ judge : Judge,
          let open_ := unsettled place log
          let openOthers := open_.filter fun s => s.request.frame ≠ frame
          ∃ all others, (settle judge h.openGate).dispatchers[place]? = some all ∧
            (settle judge (after frame).openGate).dispatchers[place]? = some others ∧
            (all.received.map (·.1)).Perm (d.received.map (·.1) ++ open_.map (·.token)) ∧
            (others.received.map (·.1)).Perm (d.received.map (·.1) ++ openOthers.map (·.token)) ∧
            ∀ answer, catalog.Always answer →
              let verdictOn := fun s : Submission => (s.token, judge s.request answer)
              all.received.Perm (d.received ++ open_.map verdictOn) ∧
                others.received.Perm (d.received ++ openOthers.map verdictOn))) ∧
      (∀ later, (∀ s ∈ opened (answersTo place ((after frame).log later)), s.request.frame ≠ frame) →
        (((after frame).run later).act (cancelFrame frame)).1.report = .frameCancelled place 0) ∧
      ∀ other, other ≠ frame →
        ((after frame).act (cancelFrame other)).1.report = (h.act (cancelFrame other)).1.report ∧
          ((after other).act (cancelFrame frame)).1.report
            = (h.act (cancelFrame frame)).1.report ∧
          tableOf ((after frame).act (cancelFrame other)).2
            = tableOf ((after other).act (cancelFrame frame)).2 ∧
          ∀ later, (∀ p, submissionsTo p (before ++ later) < UInt64.size) →
            SeenAlike ((after frame).act (cancelFrame other)).2
              ((after other).act (cancelFrame frame)).2 later := by
  intro h log cancelFrame tableOf after
  obtain ⟨htasks, huncancelled, hspares⟩ := cancelFrame_spares catalog cached gated few hd frame
  have hrest : tableOf (after frame) = some (d.pending.filter fun row => row.2.frame ≠ frame) :=
    congrArg (Option.map _) (getElem?_call hd (.cancelFrame frame))
  refine ⟨⟨pending_perm catalog cached gated (few place) hd,
      report_cancelFrame catalog cached gated few hd frame⟩, fun order horder => ?_,
    ⟨hrest, hspares, htasks, huncancelled, fun hlistens judge => ?_⟩,
    fun later hnew => cancelFrame_again catalog cached gated hd hnew, fun other hne => ?_⟩
  · obtain ⟨hreports, htable, houtline⟩ :=
      cancels_eq_cancelFrame catalog cached gated few hd horder
    refine ⟨hreports, htable, fun later hlater => ?_⟩
    have hsame := seenAlike_of_outline catalog cached gated later
      (few_insert hlater (submissionsTo_cancelFrame · place frame))
      (few_insert hlater (submissionsTo_cancels · place order))
    rw [run_concat, run_append] at hsame
    exact hsame houtline
  · intro open_ openOthers
    obtain ⟨all, hall, htokens, hverdicts⟩ :=
      run_tells_unsettled cached gated few hd hlistens judge
    have hothers := run_tells_unsettled cached gated (few_cancelFrame few frame)
      (getElem?_run_call hd (.cancelFrame frame)) hlistens judge
    rw [run_concat] at hothers
    obtain ⟨others, hrest', htokens', hverdicts'⟩ := hothers
    refine ⟨all, others, hall, hrest', htokens, htokens'.trans ((hspares.map _).append_left _),
      fun answer halways => ⟨hverdicts answer halways, ?_⟩⟩
    exact (hverdicts' answer halways).trans ((hspares.map _).append_left _)
  · obtain ⟨hreport, htable, houtline⟩ := cancelFrame_comm catalog cached gated few hd hne
    obtain ⟨hreport', -, -⟩ := cancelFrame_comm catalog cached gated few hd (Ne.symm hne)
    refine ⟨hreport, hreport', htable, fun later hlater => ?_⟩
    have htwo : ∀ f g, (start catalog cached gated).run (before ++ [cancelFrame f, cancelFrame g])
        = ((after f).act (cancelFrame g)).2 := fun f g => run_append ..
    have hfew : ∀ f g p, submissionsTo p ((before ++ [cancelFrame f, cancelFrame g]) ++ later)
        < UInt64.size := fun f g => few_insert hlater fun p => by
      simp [cancelFrame, submissionsTo, Action.submitsTo]
    have hsame := seenAlike_of_outline catalog cached gated later (hfew frame other) (hfew other frame)
    rw [htwo, htwo] at hsame
    exact hsame houtline.symm

end Runs

/-- The first task is inside its enumeration, whose answer is held back, and the others were not polled
yet, when frame 7 is cancelled, at once or the last submission first.  Then a token of that frame is
used again for frame 8, and all tasks are polled, those of the cancelled submissions too. -/
theorem run_cancelFrame_refines_reuse :
    let asked : FrameId → Request := fun frame => { (default : Request) with frame, mimeType := "a" }
    let cancelFrame := fun f => Action.call 0 (.cancelFrame f)
    let before : List Action :=
      [.addDispatcher ⟨0⟩ {}, .call 0 (.submit (.ofNat 1) (asked ⟨7⟩)),
        .call 0 (.submit (.ofNat 2) (asked ⟨8⟩)), .call 0 (.submit (.ofNat 3) (asked ⟨7⟩)),
        .poll echo 0]
    let later : List Action :=
      [.call 0 (.submit (.ofNat 1) (asked ⟨8⟩)), .openGate, .poll echo 2, .poll echo 0, .poll echo 1,
        .poll echo 3]
    let h := (start {} true true).run before
    let after := fun f => (h.act (cancelFrame f)).2
    (∀ p, submissionsTo p (before ++ later) < UInt64.size) ∧
      (h.act (cancelFrame ⟨7⟩)).1.report = .frameCancelled 0 2 ∧
      SeenAlike (after ⟨7⟩) (h.run (cancels 0 [.ofNat 3, .ofNat 1])) later ∧
      (∃ all others, (settle echo h.openGate).dispatchers[0]? = some all ∧
        (settle echo (after ⟨7⟩).openGate).dispatchers[0]? = some others ∧
        (all.received.map (·.1)).Perm [.ofNat 1, .ofNat 2, .ofNat 3] ∧
        others.received.Perm [(.ofNat 2, echo (asked ⟨8⟩) (.ok []))]) ∧
      (((after ⟨7⟩).run later).act (cancelFrame ⟨7⟩)).1.report = .frameCancelled 0 0 ∧
      SeenAlike ((after ⟨7⟩).act (cancelFrame ⟨8⟩)).2 ((after ⟨8⟩).act (cancelFrame ⟨7⟩)).2 later := by
  intro asked cancelFrame before later h after
  have fewLater : ∀ p, submissionsTo p (before ++ later) < UInt64.size := fun p =>
    Nat.lt_of_le_of_lt List.countP_le_length (by decide)
  have few : ∀ p, submissionsTo p before < UInt64.size := fun p =>
    Nat.lt_of_le_of_lt List.countP_le_length (by decide)
  have hd : h.dispatchers[0]? = some _ := rfl
  obtain ⟨⟨-, hreport⟩, hcancels, ⟨-, -, -, -, houtcome⟩, hagain, hcomm⟩ :=
    run_cancelFrame_refines {} true true few hd ⟨7⟩
  have hopen : unsettled 0 ((start {} true true).log before)
      = [⟨.ofNat 1, 0, 0, asked ⟨7⟩⟩, ⟨.ofNat 2, 1, 1, asked ⟨8⟩⟩, ⟨.ofNat 3, 2, 2, asked ⟨7⟩⟩] := by
    decide
  have hnew : ∀ s ∈ opened (answersTo 0 ((after ⟨7⟩).log later)), s.request.frame ≠ ⟨7⟩ := by decide
  obtain ⟨-, -, halike⟩ := hcancels [.ofNat 3, .ofNat 1] (by decide)
  obtain ⟨all, others, hall, hothers, htokens, -, hverdicts⟩ := houtcome rfl echo
  obtain ⟨-, -, -, hcommutes⟩ := hcomm ⟨8⟩ (by decide)
  have htwo : (unsettledOf 0 ⟨7⟩ ((start {} true true).log before)).length = 2 := by
    rw [unsettledOf, hopen]
    decide
  refine ⟨fewLater, hreport.trans (congrArg _ htwo), halike later fewLater,
    ⟨all, others, hall, hothers, ?_, ?_⟩, hagain later hnew, hcommutes later fewLater⟩
  · rw [hopen] at htokens
    exact htokens
  · obtain ⟨-, hperm⟩ := hverdicts (.ok []) fun _ => rfl
    rw [hopen] at hperm
    exact hperm

/-- **The verdict on another frame may change** where the catalog does not answer all enumerations
alike.  The catalog fails once.  If frame 7 is not cancelled its request meets the fault, and the one
of frame 8 is allowed; if it is cancelled that one is the first to ask, and there is no plugin. -/
theorem outcome_hangs_on_cancelled_frame :
    let plugin : PluginDescriptor := { id := ⟨"p"⟩, associations := [{ mimeType := "a/b" }] }
    let failing : Catalog :=
      { plugins := [plugin], fault := some (.unavailable "x"), failures := some 1 }
    let trusting : Collaborators :=
      { available := none, unstable := fun _ => .ok false, isolated := fun _ => .ok false }
    let judge : Judge := Policy.judge {} trusting failing.associationsOf
    let asked : FrameId → Request := fun frame => { (default : Request) with frame, mimeType := "a/b" }
    let h := (start failing.source false false).run
      [.addDispatcher ⟨0⟩ {}, .call 0 (.submit (.ofNat 1) (asked ⟨7⟩)),
        .call 0 (.submit (.ofNat 2) (asked ⟨8⟩))]
    let after := (h.act (.call 0 (.cancelFrame ⟨7⟩))).2
    (settle judge h).dispatchers[0]?.map (·.received)
        = some [(.ofNat 1, .without .notFound), (.ofNat 2, .on .allowed plugin "a/b")] ∧
      (settle judge after).dispatchers[0]?.map (·.received)
        = some [(.ofNat 2, .without .notFound)] := by
  constructor <;> decide +kernel

end Hub

end PluginArbiter
