/-
# With the gate open everything settles

To let all tasks run is to poll them round after round until a round brings nothing forward.  This
is a run like any other (`settle_eq_run`), so everything that holds of runs holds of what it leads
to.

The measure is the work that the tasks still have to do.  No poll adds to it, and one that brings
something forward takes from it.  As one of the tasks is free to go, and stays so until it is
polled, a round over all tasks takes from the work while the gate is open; so the rounds only stop
when there are no tasks left.

Main statements:
* `pollTask_work_lt`: what brings something forward lowers the work;
* `Ready.run_work_lt`: so does every round, while the gate is open;
* `run_settles`: then all tasks end, and every table is empty.
-/
import PluginArbiter.Proofs.Dispatch.Rest

namespace PluginArbiter.Hub

variable {h h' : Hub} {t : Task} {judge : Judge}

/-! ## 1. Work -/

/-- Whoever ends has nothing left to do. -/
theorem Ends.work_lt (he : h.Ends t h') (ht : t ∈ h.tasks) : h'.work < h.work := by
  have hfewer : (h.removeTask t.id).tasks.length < h.tasks.length :=
    List.length_filter_lt_length_iff_exists.mpr ⟨t, ht, by simp⟩
  have hcount : (h.removeTask t.id).tasks.countP (fun t => t.stage = .asking)
      ≤ h.tasks.countP fun t => t.stage = .asking :=
    List.filter_sublist.countP_le
  rw [work, work, he.tasks]
  omega

/-- Whoever has started has less to do. -/
theorem setStage_work_lt (ht : t ∈ h.tasks) (hstage : t.stage = .asking) (number : Nat) :
    (h.setStage t.id (.enumerating number)).work < h.work := by
  obtain ⟨before, after, heq⟩ := List.append_of_mem ht
  -- nobody asks again
  have hle : ∀ l : List Task, (l.map fun u =>
      if u.id = t.id then { u with stage := .enumerating number } else u).countP
        (fun u => u.stage = .asking) ≤ l.countP fun u => u.stage = .asking := by
    intro l
    rw [List.countP_map]
    refine List.countP_mono_left fun u _ hu => ?_
    rw [Function.comp_apply] at hu
    split at hu
    · exact absurd hu (by simp)
    · exact hu
  have hbefore := hle before
  have hafter := hle after
  simp only [work, setStage, heq, List.map_append, List.map_cons, List.length_append,
    List.length_cons, List.length_map, List.countP_append, List.countP_cons, hstage, if_true]
  simp only [decide_true, reduceCtorEq, decide_false, if_true, Bool.false_eq_true, if_false]
  omega

/-- **What brings something forward lowers the work.** -/
theorem pollTask_work_lt (ht : t ∈ h.tasks) (hgoes : (h.pollTask judge t).1 ≠ .idle) :
    (h.pollTask judge t).2.work < h.work := by
  have hend : ∀ (supply : Supply) (answer : CatalogAnswer),
      (conclude judge { h with supply } t answer).2.work < h.work := fun supply answer =>
    Ends.work_lt (h := { h with supply }) (conclude_ends judge _ t answer) ht
  have hp := pollTask_polled judge h t
  generalize h.pollTask judge t = outcome at hp hgoes ⊢
  cases hp with
  | withdrawn cancelled => exact (withdraw_ends h t).work_lt ht
  | held live number stage closed => exact absurd rfl hgoes
  | answered live number stage isOpen => exact hend _ _
  | served live stage plugins supply ask => exact hend _ _
  | waiting live stage supply ask => exact absurd rfl hgoes
  | started live stage supply ask closed =>
    exact setStage_work_lt (h := { h with supply := supply.start.2 }) ht stage _
  | enumerated live stage supply ask isOpen => exact hend _ _

/-! ## 2. The gate stays open -/

theorem gateOpen_ask {s s' : Supply} {caller : Nat} {admission : Admission (List PluginDescriptor)}
    (hask : s.ask caller = (admission, s')) : s'.gateOpen = s.gateOpen := by
  obtain ⟨cache, rfl, -⟩ := Supply.ask_frame hask
  rfl

/-- No poll closes the gate, or opens it. -/
theorem gateOpen_pollTask (judge : Judge) (h : Hub) (t : Task) :
    (h.pollTask judge t).2.supply.gateOpen = h.supply.gateOpen := by
  have hp := pollTask_polled judge h t
  generalize h.pollTask judge t = outcome at hp ⊢
  cases hp with
  | withdrawn cancelled =>
    rw [supply_withdraw]
    rfl
  | held live number stage closed => rfl
  | answered live number stage isOpen =>
    rw [Hub.finish, supply_conclude]
    rfl
  | served live stage plugins supply ask =>
    rw [supply_conclude]
    exact gateOpen_ask ask
  | waiting live stage supply ask => exact gateOpen_ask ask
  | started live stage supply ask closed =>
    have hgate := gateOpen_ask ask
    exact hgate
  | enumerated live stage supply ask isOpen =>
    have hgate := gateOpen_ask ask
    rw [Hub.finish, supply_conclude]
    exact hgate

/-- A hub in order, with its gate open. -/
structure Ready (h : Hub) : Prop where
  sound : h.Sound
  inLine : h.InLine
  gateOpen : h.supply.gateOpen = true

/-- To poll a task is a step of a run. -/
theorem act_poll (judge : Judge) (h : Hub) (id : Nat) :
    (h.act (.poll judge id)).2 = (h.poll judge id).2 := by
  simp only [act, poll]
  cases h.tasks.find? (·.id == id) <;> rfl

theorem Ready.act_poll (hr : h.Ready) (judge : Judge) (id : Nat) :
    (h.act (.poll judge id)).2.Ready := by
  refine ⟨hr.sound.act _, hr.inLine.act _, ?_⟩
  simp only [act]
  split
  · exact hr.gateOpen
  · exact (gateOpen_pollTask judge h _).trans hr.gateOpen

/-- No poll adds to the work; one that brings nothing forward leaves all tasks as they are, and
whoever was free to go still is. -/
theorem Ready.act_poll_cases (hr : h.Ready) (judge : Judge) (id : Nat) :
    (h.act (.poll judge id)).2.work < h.work ∨
      ((h.act (.poll judge id)).2.tasks = h.tasks ∧
        ∀ t ∈ h.tasks, h.Free t → t.id ≠ id ∧ (h.act (.poll judge id)).2.Free t) := by
  cases hf : h.tasks.find? (·.id == id) with
  | none =>
    have hsame : (h.act (.poll judge id)).2 = h := by simp only [act, hf]
    rw [hsame]
    refine Or.inr ⟨rfl, fun t ht hfree => ⟨?_, hfree⟩⟩
    simpa using List.find?_eq_none.mp hf t ht
  | some u =>
    have hu : u ∈ h.tasks := List.mem_of_find?_eq_some hf
    have hid : u.id = id := by simpa using List.find?_some hf
    subst hid
    have hpolled : (h.act (.poll judge u.id)).2 = (h.pollTask judge u).2 := by
      simp only [act, hf]
    rw [hpolled]
    by_cases hidle : (h.pollTask judge u).1 = .idle
    · obtain ⟨supply, hwait, heq⟩ := pollTask_idle hr.gateOpen hidle
      rw [heq]
      refine Or.inr ⟨rfl, fun t ht hfree => ⟨?_, ?_⟩⟩
      · intro he
        have hsame : t = u := List.inj_on_of_nodup_map hr.sound.ids ht hu he
        subst hsame
        exact hfree.ask_ne_wait (congrArg Prod.fst hwait)
      · intro c' hc'
        obtain ⟨c, hc, hadmission, rfl⟩ := Supply.cache_of_ask hwait hc'
        rcases hfree c hc with hnone | hholder
        · exact absurd hadmission.symm (Cache.ask_ne_wait (Or.inl hnone))
        · exact Or.inr (Cache.holder_ask hholder u.id)
    · exact Or.inl (pollTask_work_lt hu hidle)

/-! ## 3. Rounds -/

/-- The polls of some tasks, one after the other. -/
def polls (judge : Judge) (ids : List Nat) : List Action := ids.map (.poll judge)

theorem polls_append (judge : Judge) (ids ids' : List Nat) :
    polls judge (ids ++ ids') = polls judge ids ++ polls judge ids' :=
  List.map_append

theorem run_polls (judge : Judge) (h : Hub) (ids : List Nat) :
    h.run (polls judge ids) = ids.foldl (fun h id => (h.poll judge id).2) h := by
  induction ids generalizing h with
  | nil => rfl
  | cons id rest ih =>
    rw [List.foldl_cons, ← Hub.act_poll, ← ih]
    rfl

/-- A round is a run that polls every task once. -/
theorem round_eq_run (judge : Judge) (h : Hub) :
    h.round judge = h.run (polls judge (h.tasks.map (·.id))) :=
  (run_polls judge h _).symm

theorem Ready.run (hr : h.Ready) (judge : Judge) (ids : List Nat) :
    (h.run (polls judge ids)).Ready ∧ (h.run (polls judge ids)).work ≤ h.work := by
  induction ids generalizing h with
  | nil => exact ⟨hr, Nat.le_refl _⟩
  | cons id rest ih =>
    obtain ⟨hready, hle⟩ := ih (hr.act_poll judge id)
    refine ⟨hready, Nat.le_trans hle ?_⟩
    rcases hr.act_poll_cases judge id with hlt | ⟨htasks, -⟩
    · exact Nat.le_of_lt hlt
    · exact Nat.le_of_eq (by rw [work, work, htasks])

/-- **A round that polls somebody who is free to go lowers the work.** -/
theorem Ready.run_work_lt (hr : h.Ready) (judge : Judge) {ids : List Nat} (ht : t ∈ h.tasks)
    (hfree : h.Free t) (hid : t.id ∈ ids) : (h.run (polls judge ids)).work < h.work := by
  induction ids generalizing h with
  | nil => exact absurd hid List.not_mem_nil
  | cons id rest ih =>
    have hready := hr.act_poll judge id
    rcases hr.act_poll_cases judge id with hlt | ⟨htasks, hstill⟩
    · exact Nat.lt_of_le_of_lt (hready.run judge rest).2 hlt
    · obtain ⟨hne, hfree'⟩ := hstill t ht hfree
      have hrest : t.id ∈ rest := (List.mem_cons.mp hid).resolve_left hne
      have hlt := ih hready (htasks ▸ ht) hfree' hrest
      rwa [show ((h.act (.poll judge id)).2).work = h.work by rw [work, work, htasks]] at hlt

/-- While there are tasks every round lowers the work. -/
theorem Ready.round_work_lt (hr : h.Ready) (hne : h.tasks ≠ []) (judge : Judge) :
    (h.round judge).work < h.work := by
  obtain ⟨t, ht, hfree⟩ := hr.inLine.exists_free hne
  rw [round_eq_run]
  exact hr.run_work_lt judge ht hfree (List.mem_map_of_mem ht)

/-! ## 4. Until nothing can go on -/

/-- **To let all tasks run is a run** that does nothing but poll. -/
theorem settle_eq_run (judge : Judge) (h : Hub) :
    ∃ ids, settle judge h = h.run (polls judge ids) := by
  induction h using settle.induct judge with
  | case1 h next hlt ih =>
    obtain ⟨ids, hids⟩ := ih
    refine ⟨h.tasks.map (·.id) ++ ids, ?_⟩
    rw [settle, if_pos hlt, hids, polls_append, run_append, ← round_eq_run]
  | case2 h next hnot =>
    refine ⟨h.tasks.map (·.id), ?_⟩
    rw [settle, if_neg hnot]
    exact round_eq_run judge h

/-- While the gate is open no task is left. -/
theorem Ready.settle_tasks (hr : h.Ready) (judge : Judge) : (settle judge h).tasks = [] := by
  induction h using settle.induct judge with
  | case1 h next hlt ih =>
    rw [settle, if_pos hlt]
    refine ih ?_
    change (h.round judge).Ready
    rw [round_eq_run]
    exact (hr.run judge _).1
  | case2 h next hnot =>
    rw [settle, if_neg hnot]
    have hempty : h.tasks = [] := by
      by_contra hne
      exact hnot (hr.round_work_lt hne judge)
    change (h.round judge).tasks = []
    rw [Hub.round, hempty]
    exact hempty

/-- Polls submit nothing. -/
theorem submissionsTo_polls (place : Nat) (judge : Judge) (ids : List Nat) :
    submissionsTo place (polls judge ids) = 0 := by
  rw [submissionsTo, polls, List.countP_eq_zero]
  intro a ha
  obtain ⟨id, -, rfl⟩ := List.mem_map.mp ha
  simp [Action.submitsTo]

/-- **With the gate open everything settles.**  Wherever a run has led, to let all tasks run from
there ends them all, and leaves no dispatcher with an open submission. -/
theorem run_settles (catalog : PluginSource) (cached gated : Bool) (actions : List Action)
    (few : ∀ place, submissionsTo place actions < UInt64.size) (judge : Judge)
    (hopen : ((start catalog cached gated).run actions).supply.gateOpen = true) :
    let h := settle judge ((start catalog cached gated).run actions)
    h.tasks = [] ∧ ∀ d ∈ h.dispatchers, d.pendingCount = 0 := by
  intro h
  have hr : ((start catalog cached gated).run actions).Ready :=
    ⟨sound_run catalog cached gated actions, inLine_run catalog cached gated actions, hopen⟩
  have hnone : h.tasks = [] := hr.settle_tasks judge
  refine ⟨hnone, fun d hd => ?_⟩
  obtain ⟨ids, hids⟩ := settle_eq_run judge ((start catalog cached gated).run actions)
  obtain ⟨place, hplace, rfl⟩ := List.mem_iff_getElem.mp hd
  have hrun : h = (start catalog cached gated).run (actions ++ polls judge ids) := by
    rw [run_append]
    exact hids
  have hget : ((start catalog cached gated).run (actions ++ polls judge ids)).dispatchers[place]?
      = some h.dispatchers[place] := by
    rw [← hrun]
    exact List.getElem?_eq_getElem hplace
  have hfew : submissionsTo place (actions ++ polls judge ids) < UInt64.size := by
    have hpolls := submissionsTo_polls place judge ids
    have := few place
    simp only [submissionsTo, List.countP_append] at hpolls this ⊢
    omega
  have hm := run_matched catalog cached gated hget hfew
  rw [← hrun] at hm
  rw [Dispatcher.pendingCount, hm.table]
  simp [jobs, hnone, Dispatcher.live]

end PluginArbiter.Hub
