/-
# Nothing stays open at rest

Tasks that share a catalog wait for each other: one of them has the turn to enumerate the plugins,
the others stand in line behind it.  A line in which a task stands that is gone would wait for ever,
and the rows of those who wait would never leave their tables.

This does not happen.  Whoever stands in line is a task that has not ended, and a task that waits
for an enumeration of its own has the turn (`InLine`).  So as long as there are tasks at all, one of
them is free to go (`InLine.exists_free`), and while the gate of the catalog is open its poll brings
something forward; at rest there are no tasks, and then every table is empty.

Main statements:
* `InLine.act`: the line and the tasks agree after every step;
* `InLine.exists_free`, `Free.poll_ne_idle`: with the gate open some task can go on;
* `run_table_matches_tasks`: the table and the tasks of a dispatcher, in every run and at rest.
-/
import PluginArbiter.Proofs.Catalog.Line
import PluginArbiter.Proofs.Dispatch.TokenReuse

namespace PluginArbiter

namespace Supply

variable {s : Supply} {caller : Nat}

/-- Where an answer is kept, asking is asking for it. -/
theorem ask_of_cache {c : Cache (List PluginDescriptor)} (hc : s.cache = some c) (caller : Nat) :
    s.ask caller = ((c.ask caller).1, { s with cache := some (c.ask caller).2 }) := by
  simp [ask, hc]

/-- Where no answer is kept, whoever asks has the turn. -/
theorem ask_of_no_cache (hc : s.cache = none) (caller : Nat) : s.ask caller = (.turn, s) := by
  simp [ask, hc]

/-- Asking moves who stands in line, and nothing else: what is kept stays what it is. -/
theorem ask_frame {admission : Admission (List PluginDescriptor)} {s' : Supply}
    (hask : s.ask caller = (admission, s')) :
    ∃ cache, s' = { s with cache } ∧ cache.bind (·.stored) = s.cache.bind (·.stored) := by
  cases hc : s.cache with
  | none =>
    rw [ask_of_no_cache hc] at hask
    obtain ⟨-, rfl⟩ := Prod.mk.inj hask
    exact ⟨none, by rw [← hc], rfl⟩
  | some c =>
    rw [ask_of_cache hc] at hask
    obtain ⟨-, rfl⟩ := Prod.mk.inj hask
    exact ⟨_, rfl, Cache.stored_ask c caller⟩

/-- Whoever is given an answer is given the one that is kept. -/
theorem kept_of_ask_stored {plugins : List PluginDescriptor} {s' : Supply}
    (hask : s.ask caller = (.stored plugins, s')) : s.cache.bind (·.stored) = some plugins := by
  cases hc : s.cache with
  | none => exact absurd hask (by simp [ask_of_no_cache hc])
  | some c =>
    rw [ask_of_cache hc] at hask
    exact (Cache.ask_of_stored (congrArg Prod.fst hask)).1

/-- What became of the kept answer when somebody asked. -/
theorem cache_of_ask {admission : Admission (List PluginDescriptor)} {s' : Supply}
    (hask : s.ask caller = (admission, s')) {c' : Cache (List PluginDescriptor)}
    (hc' : s'.cache = some c') :
    ∃ c, s.cache = some c ∧ admission = (c.ask caller).1 ∧ c' = (c.ask caller).2 := by
  cases hc : s.cache with
  | none =>
    rw [ask_of_no_cache hc] at hask
    rw [← (Prod.mk.inj hask).2, hc] at hc'
    exact absurd hc' (by simp)
  | some c =>
    rw [ask_of_cache hc] at hask
    obtain ⟨rfl, rfl⟩ := Prod.mk.inj hask
    exact ⟨c, rfl, rfl, (Option.some.inj hc').symm⟩

/-- Whoever is told so has the turn. -/
theorem holder_of_ask {s' : Supply} (hask : s.ask caller = (.turn, s')) :
    ∀ c, s'.cache = some c → c.holder = some caller := by
  intro c' hc'
  obtain ⟨c, -, hturn, rfl⟩ := cache_of_ask hask hc'
  exact (Cache.holder_of_ask_turn hturn.symm).1

end Supply

namespace Hub

open Dispatcher

/-! ## 1. The line and the tasks agree -/

/-- Whoever stands in line is a task, and a task that waits for its enumeration has the turn. -/
structure InLine (h : Hub) : Prop where
  orderly : ∀ c, h.supply.cache = some c → c.Orderly
  known : ∀ c, h.supply.cache = some c → ∀ x ∈ c.callers, ∃ t ∈ h.tasks, t.id = x
  turn : ∀ c, h.supply.cache = some c → ∀ t ∈ h.tasks, ∀ number,
    t.stage = .enumerating number → c.holder = some t.id

variable {h h' : Hub} {t : Task}

/-- Tasks may come that have not asked yet. -/
theorem InLine.grow (hl : h.InLine) (hcache : h'.supply.cache = h.supply.cache)
    (htasks : ∀ t ∈ h.tasks, t ∈ h'.tasks)
    (hnew : ∀ t ∈ h'.tasks, t ∈ h.tasks ∨ t.stage = .asking) : h'.InLine := by
  refine ⟨?_, ?_, ?_⟩ <;> rw [hcache]
  · exact hl.orderly
  · intro c hc x hx
    obtain ⟨t, ht, hid⟩ := hl.known c hc x hx
    exact ⟨t, htasks t ht, hid⟩
  · intro c hc t ht number hstage
    rcases hnew t ht with hold | hasking
    · exact hl.turn c hc t hold number hstage
    · exact absurd (hasking.symm.trans hstage) (by simp)

/-- A task may end when it stands in line no longer and takes the turn from nobody else. -/
theorem InLine.ended (hl : h.InLine) (htasks : h'.tasks = (h.removeTask t.id).tasks)
    (hcache : ∀ c', h'.supply.cache = some c' → ∃ c, h.supply.cache = some c ∧ c'.Orderly ∧
      (∀ x ∈ c'.callers, x ∈ c.callers ∧ x ≠ t.id) ∧
      ∀ x, x ≠ t.id → c.holder = some x → c'.holder = some x) : h'.InLine := by
  have hmem : ∀ u, u ∈ h'.tasks ↔ u ∈ h.tasks ∧ u.id ≠ t.id := by
    intro u
    rw [htasks]
    simp [removeTask]
  refine ⟨?_, ?_, ?_⟩
  · intro c' hc'
    obtain ⟨-, -, horderly, -⟩ := hcache c' hc'
    exact horderly
  · intro c' hc' x hx
    obtain ⟨c, hc, -, hcallers, -⟩ := hcache c' hc'
    obtain ⟨hold, hne⟩ := hcallers x hx
    obtain ⟨u, hu, rfl⟩ := hl.known c hc x hold
    exact ⟨u, (hmem u).mpr ⟨hu, hne⟩, rfl⟩
  · intro c' hc' u hu number hstage
    obtain ⟨c, hc, -, -, hholder⟩ := hcache c' hc'
    obtain ⟨hu, hne⟩ := (hmem u).mp hu
    exact hholder u.id hne (hl.turn c hc u hu number hstage)

theorem supply_conclude (judge : Judge) (h : Hub) (t : Task) (answer : CatalogAnswer) :
    (conclude judge h t answer).2.supply = h.supply := by
  simp only [conclude]
  split <;> rfl

theorem supply_withdraw (h : Hub) (t : Task) :
    (h.withdraw t).supply = h.supply.leave t.id := by
  simp only [withdraw]
  split <;> rfl

/-- Whoever has the turn may end with what the enumeration brought. -/
theorem InLine.finish (hl : h.InLine) (judge : Judge)
    (hturn : ∀ c, h.supply.cache = some c → c.holder = some t.id) (number : Nat) :
    (finish judge h t number).2.InLine := by
  refine hl.ended (conclude_ends judge _ t _).tasks fun c' hc' => ?_
  rw [Hub.finish, supply_conclude] at hc'
  obtain ⟨c, hc, rfl⟩ := Option.map_eq_some_iff.mp hc'
  have hholder := hturn c hc
  refine ⟨c, hc, (hl.orderly c hc).finish hholder _,
    fun x hx => (hl.orderly c hc).mem_callers_finish hholder _ hx, fun x hne hx => ?_⟩
  exact absurd (Option.some.inj (hx.symm.trans hholder)) hne

/-- Whoever was cancelled may end and gives up its place. -/
theorem InLine.withdraw (hl : h.InLine) (t : Task) : (h.withdraw t).InLine := by
  refine hl.ended (withdraw_ends h t).tasks fun c' hc' => ?_
  rw [supply_withdraw] at hc'
  obtain ⟨c, hc, rfl⟩ := Option.map_eq_some_iff.mp hc'
  refine ⟨c, hc, (hl.orderly c hc).leave t.id, fun x hx => ?_, fun x hne hx =>
    Cache.holder_leave hx hne⟩
  rw [(hl.orderly c hc).callers_leave] at hx
  simpa using List.mem_filter.mp hx

/-- A task that is there may ask. -/
theorem InLine.ask (hl : h.InLine) (ht : t ∈ h.tasks) {admission : Admission (List PluginDescriptor)}
    {supply : Supply} (hask : h.supply.ask t.id = (admission, supply)) :
    ({ h with supply } : Hub).InLine := by
  refine ⟨?_, ?_, ?_⟩
  · intro c' hc'
    obtain ⟨c, hc, -, rfl⟩ := Supply.cache_of_ask hask hc'
    exact (hl.orderly c hc).ask t.id
  · intro c' hc' x hx
    obtain ⟨c, hc, -, rfl⟩ := Supply.cache_of_ask hask hc'
    rw [(hl.orderly c hc).callers_ask] at hx
    split at hx
    · exact hl.known c hc x hx
    · rcases List.mem_append.mp hx with hold | hnew
      · exact hl.known c hc x hold
      · exact ⟨t, ht, (List.mem_singleton.mp hnew).symm⟩
  · intro c' hc' u hu number hstage
    obtain ⟨c, hc, -, rfl⟩ := Supply.cache_of_ask hask hc'
    exact Cache.holder_ask (hl.turn c hc u hu number hstage) t.id

/-- A task that finds the plugins may end with them. -/
theorem InLine.served (hl : h.InLine) (judge : Judge) {plugins : List PluginDescriptor}
    {supply : Supply} (hask : h.supply.ask t.id = (.stored plugins, supply)) :
    (conclude judge { h with supply } t (.ok plugins)).2.InLine := by
  refine hl.ended (conclude_ends judge _ t _).tasks fun c' hc' => ?_
  rw [supply_conclude] at hc'
  obtain ⟨c, hc, hstored, rfl⟩ := Supply.cache_of_ask hask hc'
  obtain ⟨hvalue, hsame⟩ := Cache.ask_of_stored hstored.symm
  have hnobody : c.callers = [] := (hl.orderly c hc).served (by simp [hvalue])
  rw [hsame]
  refine ⟨c, hc, hl.orderly c hc, fun x hx => ?_, fun x _ hx => hx⟩
  rw [hnobody] at hx
  exact absurd hx List.not_mem_nil

/-- A task that has the turn may note that it has started. -/
theorem InLine.setStage (hl : h.InLine) {number : Nat}
    (hturn : ∀ c, h.supply.cache = some c → c.holder = some t.id) :
    (h.setStage t.id (.enumerating number)).InLine := by
  refine ⟨hl.orderly, ?_, ?_⟩
  · intro c hc x hx
    obtain ⟨u, hu, rfl⟩ := hl.known c hc x hx
    refine ⟨_, List.mem_map_of_mem hu, ?_⟩
    split <;> rfl
  · intro c hc u' hu' n hstage
    obtain ⟨u, hu, rfl⟩ := List.mem_map.mp hu'
    by_cases he : u.id = t.id
    · rw [if_pos he]
      exact he ▸ hturn c hc
    · rw [if_neg he] at hstage ⊢
      exact hl.turn c hc u hu n hstage

/-- **The line and the tasks agree after a poll.** -/
theorem InLine.pollTask (hl : h.InLine) (ht : t ∈ h.tasks) (judge : Judge) :
    (h.pollTask judge t).2.InLine := by
  have hp := pollTask_polled judge h t
  generalize h.pollTask judge t = outcome at hp ⊢
  cases hp with
  | withdrawn cancelled => exact hl.withdraw t
  | held live number stage closed => exact hl
  | answered live number stage isOpen =>
    exact hl.finish judge (fun c hc => hl.turn c hc t ht number stage) number
  | served live stage plugins supply ask => exact hl.served judge ask
  | waiting live stage supply ask => exact hl.ask ht ask
  | started live stage supply ask closed =>
    have hasked := hl.ask ht ask
    have hturn := Supply.holder_of_ask ask
    exact InLine.setStage (h := { h with supply := supply.start.2 })
      ⟨hasked.orderly, hasked.known, hasked.turn⟩ hturn
  | enumerated live stage supply ask isOpen =>
    have hasked := hl.ask ht ask
    have hturn := Supply.holder_of_ask ask
    exact InLine.finish (h := { h with supply := supply.start.2 })
      ⟨hasked.orderly, hasked.known, hasked.turn⟩ judge hturn _

/-- A call asks the catalog for nothing and takes no task away. -/
theorem InLine.serve (hl : h.InLine) (p : Nat) (d : Dispatcher) (call : Call) :
    (h.serve p d call).2.InLine := by
  rw [serve_eq]
  refine hl.grow rfl (fun t ht => List.mem_append_left _ ht) fun t ht => ?_
  rcases List.mem_append.mp ht with hold | hnew
  · exact Or.inl hold
  · obtain ⟨s, -, rfl⟩ := List.mem_map.mp hnew
    exact Or.inr rfl

/-- **The line and the tasks agree after every step.** -/
theorem InLine.act (hl : h.InLine) (a : Action) : (h.act a).2.InLine := by
  cases a with
  | addDispatcher process handlers => exact hl.grow rfl (fun t ht => ht) fun t ht => Or.inl ht
  | call p call =>
    simp only [Hub.act]
    split
    · exact hl
    · exact hl.serve p _ call
  | openGate => exact hl.grow rfl (fun t ht => ht) fun t ht => Or.inl ht
  | poll judge id =>
    simp only [Hub.act]
    split
    · exact hl
    · rename_i t ht
      exact hl.pollTask (List.mem_of_find?_eq_some ht) judge

/-- The line and the tasks agree at every point of a run. -/
theorem inLine_run (catalog : PluginSource) (cached gated : Bool) (actions : List Action) :
    ((start catalog cached gated).run actions).InLine := by
  induction actions using List.reverseRecOn with
  | nil =>
    have hempty : ∀ c, (start catalog cached gated).supply.cache = some c → c = {} := by
      intro c hc
      cases cached with
      | false => exact absurd hc (by simp [start, Supply.ofSource])
      | true => exact (Option.some.inj hc).symm
    refine ⟨fun c hc => hempty c hc ▸ Cache.orderly_empty, fun c hc x hx => ?_,
      fun c _ t ht => absurd ht List.not_mem_nil⟩
    rw [hempty c hc] at hx
    exact absurd hx List.not_mem_nil
  | append_singleton as a ih =>
    rw [run_concat]
    exact ih.act a

/-! ## 2. Some task can go on -/

/-- No other task has the turn. -/
def Free (h : Hub) (t : Task) : Prop :=
  ∀ c, h.supply.cache = some c → c.holder = none ∨ c.holder = some t.id

/-- A task that is free to go need not wait. -/
theorem Free.ask_ne_wait (hf : h.Free t) : (h.supply.ask t.id).1 ≠ .wait := by
  cases hc : h.supply.cache with
  | none => simp [Supply.ask_of_no_cache hc]
  | some c =>
    rw [Supply.ask_of_cache hc]
    exact Cache.ask_ne_wait (hf c hc)

/-- While the gate is open, a poll that brings nothing forward is one that has to wait. -/
theorem pollTask_idle {judge : Judge} (hopen : h.supply.gateOpen = true)
    (hidle : (h.pollTask judge t).1 = .idle) :
    ∃ supply, h.supply.ask t.id = (.wait, supply) ∧ (h.pollTask judge t).2 = { h with supply } := by
  have hend : ∀ (supply : Supply) (answer : CatalogAnswer),
      (conclude judge { h with supply } t answer).1 ≠ .idle := by
    intro supply answer
    simp only [conclude]
    split <;> simp
  have hp := pollTask_polled judge h t
  generalize h.pollTask judge t = outcome at hp hidle
  cases hp with
  | withdrawn cancelled => exact absurd hidle (by simp)
  | held live number stage closed => exact absurd (hopen.symm.trans closed) (by simp)
  | answered live number stage isOpen => exact absurd hidle (hend _ _)
  | served live stage plugins supply ask => exact absurd hidle (hend _ _)
  | waiting live stage supply ask => exact ⟨supply, ask, rfl⟩
  | started live stage supply ask closed => exact absurd hidle (by simp)
  | enumerated live stage supply ask isOpen => exact absurd hidle (hend _ _)

/-- A poll of a task that is free to go brings something forward. -/
theorem Free.pollTask_ne_idle (hf : h.Free t) (hopen : h.supply.gateOpen = true) (judge : Judge) :
    (h.pollTask judge t).1 ≠ .idle := by
  intro hidle
  obtain ⟨supply, hwait, -⟩ := pollTask_idle hopen hidle
  exact hf.ask_ne_wait (congrArg Prod.fst hwait)

/-- **While there are tasks, one of them is free to go**: the one that has the turn, or any where
nobody has it. -/
theorem InLine.exists_free (hl : h.InLine) (hne : h.tasks ≠ []) : ∃ t ∈ h.tasks, h.Free t := by
  obtain ⟨first, hfirst⟩ := List.exists_mem_of_ne_nil _ hne
  cases hc : h.supply.cache with
  | none => exact ⟨first, hfirst, fun c hc' => absurd (hc.symm.trans hc') (by simp)⟩
  | some c =>
    have hsame : ∀ c', h.supply.cache = some c' → c' = c :=
      fun c' hc' => Option.some.inj (hc'.symm.trans hc)
    cases hholder : c.holder with
    | none => exact ⟨first, hfirst, fun c' hc' => Or.inl (hsame c' hc' ▸ hholder)⟩
    | some x =>
      obtain ⟨t, ht, rfl⟩ := hl.known c hc x (by simp [Cache.callers, hholder])
      exact ⟨t, ht, fun c' hc' => Or.inr (hsame c' hc' ▸ hholder)⟩

theorem Free.poll_ne_idle (hf : h.Free t) (hs : h.Sound) (hopen : h.supply.gateOpen = true)
    (ht : t ∈ h.tasks) (judge : Judge) : (h.poll judge t.id).1 ≠ .idle := by
  simp only [poll, hs.find?_eq ht]
  exact hf.pollTask_ne_idle hopen judge

/-! ## 3. The table and the tasks of a dispatcher -/

/-- Two tasks of a dispatcher are one if they work on the same submission. -/
theorem task_inj {place : Nat} {d : Dispatcher} (hm : Matched d (h.jobs place)) {t u : Task}
    (ht : t ∈ h.tasks) (hto : t.owner = place) (hu : u ∈ h.tasks) (huo : u.owner = place)
    (he : t.submission = u.submission) : t = u := by
  have hn : ((h.tasks.filter fun t => t.owner = place).map (·.submission.cancel)).Nodup := by
    have := hm.distinct
    rwa [jobs, List.map_map] at this
  exact List.inj_on_of_nodup_map hn (List.mem_filter.mpr ⟨ht, by simp [hto]⟩)
    (List.mem_filter.mpr ⟨hu, by simp [huo]⟩) (by rw [he])

/-- Where the table is empty no token is in use. -/
theorem accept_of_pending_eq_nil {d : Dispatcher} (hempty : d.pending = []) (hopen : d.isShut = false)
    {request : Request} (hprocess : request.process = d.process) (token : Token) :
    ∃ s, (d.accept token request).1 = .ok s := by
  simp [accept, hopen, hprocess, hempty]

/-- **The table and the tasks of a dispatcher correspond**, at every point of a run that does not
submit 2^64 times.  Every row has exactly one task with its number; this task has the same token and
shares the row's child of the root, which is not cancelled.  A task that has no row was cancelled.
Rows have numbers of their own, tasks too, and all of them are below the next number.

So where the gate of the catalog is open and no task can go on, no row is left, and every token can
be used again. -/
theorem run_table_matches_tasks (catalog : PluginSource) (cached gated : Bool) {place : Nat}
    {actions : List Action} (few : submissionsTo place actions < UInt64.size) {d : Dispatcher}
    (hd : ((start catalog cached gated).run actions).dispatchers[place]? = some d) :
    let h := (start catalog cached gated).run actions
    (∀ row ∈ d.pending, ∃ t ∈ h.tasks, t.owner = place ∧ t.submission.row = row ∧
        h.isCancelled t = false ∧
        ∀ u ∈ h.tasks, u.owner = place → u.submission.seq = row.2.seq → u = t) ∧
      (∀ t ∈ h.tasks, t.owner = place → t.submission.row ∉ d.pending → h.isCancelled t = true) ∧
      (d.pending.map (·.2.seq)).Nodup ∧
      ((h.tasks.filter fun t => t.owner = place).map (·.submission.seq)).Nodup ∧
      (∀ row ∈ d.pending, row.2.seq < d.nextSeq) ∧
      (∀ t ∈ h.tasks, t.owner = place → t.submission.seq < d.nextSeq) ∧
      (h.supply.gateOpen = true → ∀ judge, (∀ id, (h.poll judge id).1 = .idle) →
        d.pendingCount = 0 ∧ ∀ token request, d.isShut = false → request.process = d.process →
          ∃ s, (d.accept token request).1 = .ok s) := by
  intro h
  have hs : h.Sound := sound_run catalog cached gated actions
  have hl : h.InLine := inLine_run catalog cached gated actions
  have hm : Matched d (h.jobs place) := run_matched catalog cached gated hd few
  have hmade : d.cancels.made < UInt64.size := run_made_lt catalog cached gated hd few
  have hcancelled : ∀ t ∈ h.tasks, t.owner = place →
      h.isCancelled t = d.cancels.isCancelled t.submission.cancel := by
    rintro t - rfl
    exact isCancelled_eq hd
  have hjob : ∀ t ∈ h.tasks, t.owner = place → t.submission ∈ h.jobs place := by
    rintro t ht rfl
    exact submission_mem_jobs ht
  have hrow : ∀ row ∈ d.pending, ∃ s ∈ h.jobs place, s.row = row ∧
      d.cancels.isCancelled s.cancel = false := by
    intro row hr
    obtain ⟨s, hlive, he⟩ := hm.exists_of_mem hr
    exact ⟨s, (mem_live.mp hlive).1, he, (mem_live.mp hlive).2⟩
  have hseqs : ((h.jobs place).map (·.seq)).Nodup := hm.nodup_seq (by omega)
  refine ⟨?_, ?_, ?_, ?_, ?_, ?_, ?_⟩
  · intro row hr
    obtain ⟨s, hs', rfl, hlive⟩ := hrow row hr
    obtain ⟨t, ht, howner, rfl⟩ := exists_of_mem_jobs hs'
    refine ⟨t, ht, howner, rfl, (hcancelled t ht howner).trans hlive, fun u hu huo hseq => ?_⟩
    exact task_inj hm hu huo ht howner (hm.seq_inj (by omega) (hjob u hu huo) hs' hseq)
  · intro t ht howner hnone
    rw [hcancelled t ht howner]
    cases hc : d.cancels.isCancelled t.submission.cancel with
    | true => rfl
    | false => exact absurd (hm.row_mem (mem_live.mpr ⟨hjob t ht howner, hc⟩)) hnone
  · rw [hm.table, List.map_map]
    exact hseqs.sublist (List.filter_sublist.map _)
  · rwa [jobs, List.map_map] at hseqs
  · intro row hr
    obtain ⟨s, hs', rfl, -⟩ := hrow row hr
    exact hm.seq_lt hmade hs'
  · exact fun t ht howner => hm.seq_lt hmade (hjob t ht howner)
  · intro hopen judge hrest
    have hnone : h.tasks = [] := by
      by_contra hne
      obtain ⟨t, ht, hfree⟩ := hl.exists_free hne
      exact hfree.poll_ne_idle hs hopen ht judge (hrest t.id)
    have hempty : d.pending = [] := by
      rw [hm.table]
      simp [jobs, hnone, Dispatcher.live]
    exact ⟨by simp [pendingCount, hempty], fun token request hshut hprocess =>
      accept_of_pending_eq_nil hempty hshut hprocess token⟩

/-- While both tasks are there the one row has its task; when they were polled no row is left. -/
theorem run_table_matches_tasks_reuse :
    let h := (start {} true false).run reuse
    let rested := reuse ++ [.poll echo 0, .poll echo 1]
    submissionsTo 0 reuse < UInt64.size ∧ submissionsTo 0 rested < UInt64.size ∧
      (∃ t ∈ h.tasks, t.owner = 0 ∧ t.submission.row = (.ofNat 7, ⟨1, ⟨0⟩, 1⟩) ∧
        h.isCancelled t = false) ∧
      (∀ id, (((start {} true false).run rested).poll echo id).1 = .idle) ∧
      ∃ d, ((start {} true false).run rested).dispatchers[0]? = some d ∧ d.pendingCount = 0 := by
  intro h rested
  have few : submissionsTo 0 reuse < UInt64.size := by decide
  have few' : submissionsTo 0 rested < UInt64.size := by decide
  have hidle : ∀ id, (((start {} true false).run rested).poll echo id).1 = .idle := fun _ => rfl
  obtain ⟨hrow, -⟩ := run_table_matches_tasks {} true false few rfl
  obtain ⟨t, ht, howner, he, hlive, -⟩ := hrow (.ofNat 7, ⟨1, ⟨0⟩, 1⟩) (by decide)
  obtain ⟨-, -, -, -, -, -, hrest⟩ := run_table_matches_tasks {} true false few' rfl
  obtain ⟨hcount, -⟩ := hrest rfl echo hidle
  exact ⟨few, few', ⟨t, ht, howner, he, hlive⟩, hidle, _, rfl, hcount⟩

end Hub

end PluginArbiter
