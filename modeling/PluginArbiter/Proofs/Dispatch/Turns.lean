/-
# Every task in its turn

To let all tasks run is to poll them in the order in which they were submitted, round after round.
Between two rounds the line at the catalog has this order too: who stands in it is older than
everybody who has not asked yet.  So when a task is polled in its turn there is nobody before it
whom it would have to wait for, unless the gate is closed (`Midway.ask_ne_wait`).  While the gate is
open every task ends at its first poll; while it is closed the cancelled ones end and all the others
stay (`Midway.pollTask`).

It does not matter to whom the tasks belong.  A task that is cancelled while it has the turn hands
it to the next in line, which is polled later in the same round.

Main statements:
* `Queued.leave`, `Queued.stay`, `Queued.join`: what the next in order may do to the line;
* `Midway.ask_ne_wait`: in its turn no task has to wait, while the gate is open;
* `Midway.pollTask`: what becomes of a task that is polled in its turn.
-/
import PluginArbiter.Proofs.Dispatch.Genuine

namespace PluginArbiter

/-! ## 1. Lines in the order of the tasks -/

/-- A line in the order of the tasks: everybody stands in it who was polled and stays, and behind
them perhaps some of those who are still to be polled. -/
structure Queued (kept rest line : List Nat) : Prop where
  polled : kept <+: line
  order : line <+: kept ++ rest

namespace Queued

variable {kept rest line : List Nat} {x : Nat}

/-- The next in order may leave the line. -/
theorem leave (hn : (kept ++ x :: rest).Nodup) (q : Queued kept (x :: rest) line) :
    Queued kept rest (line.filter (· ≠ x)) := by
  have hall : (kept ++ x :: rest).filter (· ≠ x) = kept ++ rest :=
    Hub.filter_ne_middle id (by rwa [List.map_id])
  have hself : kept.filter (· ≠ x) = kept := by
    refine List.filter_eq_self.mpr fun y hy => ?_
    have hne : y ≠ x := (List.nodup_append.mp hn).2.2 y hy x List.mem_cons_self
    simpa using hne
  exact ⟨hself ▸ q.polled.filter _, hall ▸ q.order.filter _⟩

/-- If the next in order does not stand in line, it is the next to join. -/
theorem eq_of_not_mem (q : Queued kept (x :: rest) line) (hx : x ∉ line) : line = kept := by
  obtain ⟨more, rfl⟩ := q.polled
  have hmore : more <+: x :: rest := (List.prefix_append_right_inj kept).mp q.order
  cases more with
  | nil => exact List.append_nil kept
  | cons y more =>
    obtain ⟨rfl, -⟩ := List.cons_prefix_cons.mp hmore
    simp at hx

/-- The next in order may stay where it stands. -/
theorem stay (hn : (kept ++ x :: rest).Nodup) (q : Queued kept (x :: rest) line) (hx : x ∈ line) :
    Queued (kept ++ [x]) rest line := by
  refine ⟨?_, by simpa using q.order⟩
  obtain ⟨more, rfl⟩ := q.polled
  have hmore : more <+: x :: rest := (List.prefix_append_right_inj kept).mp q.order
  have hnot : x ∉ kept := fun hm => (List.nodup_append.mp hn).2.2 x hm x List.mem_cons_self rfl
  cases more with
  | nil => exact absurd hx (by simpa using hnot)
  | cons y more =>
    obtain ⟨rfl, -⟩ := List.cons_prefix_cons.mp hmore
    exact (List.prefix_append_right_inj kept).mpr (List.prefix_append [y] more)

/-- Or it may join. -/
theorem join (q : Queued kept (x :: rest) line) (hx : x ∉ line) :
    Queued (kept ++ [x]) rest (line ++ [x]) := by
  rw [q.eq_of_not_mem hx]
  exact ⟨List.prefix_refl _, List.prefix_append _ _⟩

/-- Whoever was polled is not, again. -/
theorem back (q : Queued (kept ++ [x]) rest line) : Queued kept (x :: rest) line :=
  ⟨(List.prefix_append kept [x]).trans q.polled, by simpa using q.order⟩

/-- If nobody is kept, whoever stands at the head is the next in order. -/
theorem head (q : Queued [] (x :: rest) line) {y : Nat} {more : List Nat} (he : line = y :: more) :
    y = x ∧ Queued [] rest more := by
  subst he
  obtain ⟨hy, hmore⟩ := List.cons_prefix_cons.mp q.order
  exact ⟨hy, List.nil_prefix, hmore⟩

end Queued

namespace Hub

open Dispatcher

variable {catalog : PluginSource} {h : Hub} {kept rest : List Task} {t : Task}

/-! ## 2. The middle of a round -/

/-- What holds at every point of a run. -/
structure Steady (catalog : PluginSource) (h : Hub) : Prop where
  sound : h.Sound
  inLine : h.InLine
  genuine : h.supply.Genuine catalog

theorem Steady.act (hs : h.Steady catalog) (a : Action) : (h.act a).2.Steady catalog :=
  ⟨hs.sound.act a, hs.inLine.act a, genuine_act hs.genuine a⟩

theorem Steady.pollTask (hs : h.Steady catalog) (ht : t ∈ h.tasks) (judge : Judge) :
    (h.pollTask judge t).2.Steady catalog :=
  ⟨hs.sound.pollTask judge t, hs.inLine.pollTask ht judge, genuine_pollTask hs.genuine judge t⟩

/-- A point of a round: who was polled and stays, and who is still to be polled.  The line has their
order.  Before the gate is open no answer is kept; once it is open nobody stays. -/
structure Midway (catalog : PluginSource) (h : Hub) (kept rest : List Task) : Prop
    extends h.Steady catalog where
  tasks : h.tasks = kept ++ rest
  line : ∀ c, h.supply.cache = some c → Queued (kept.map (·.id)) (rest.map (·.id)) c.callers
  cold : h.supply.gateOpen = false → ∀ c, h.supply.cache = some c → c.stored = none
  ended : h.supply.gateOpen = true → kept = []

/-- A point between two rounds. -/
def AtRest (catalog : PluginSource) (h : Hub) : Prop := h.Midway catalog [] h.tasks

namespace Midway

theorem mem (m : h.Midway catalog kept (t :: rest)) : t ∈ h.tasks := by
  rw [m.tasks]
  simp

theorem ids (m : h.Midway catalog kept (t :: rest)) :
    (kept.map (·.id) ++ t.id :: rest.map (·.id)).Nodup := by
  have hids := m.sound.ids
  rwa [m.tasks, List.map_append, List.map_cons] at hids

theorem tasks_removeTask (m : h.Midway catalog kept (t :: rest)) :
    (h.removeTask t.id).tasks = kept ++ rest := by
  have hids := m.sound.ids
  rw [m.tasks] at hids
  change h.tasks.filter (fun u => u.id ≠ t.id) = _
  rw [m.tasks, filter_ne_middle Task.id hids]

theorem tasks_setStage (m : h.Midway catalog kept (t :: rest)) (stage : Stage) :
    (h.setStage t.id stage).tasks = kept ++ { t with stage } :: rest := by
  have hn := List.nodup_append.mp m.ids
  have hkeep : ∀ l : List Task, t.id ∉ l.map (·.id) →
      (l.map fun u => if u.id = t.id then { u with stage } else u) = l := by
    intro l hl
    refine (List.map_congr_left fun u hu => ?_).trans (List.map_id l)
    have hne : u.id ≠ t.id := fun he => hl (he ▸ List.mem_map_of_mem hu)
    exact if_neg hne
  simp only [setStage, m.tasks, List.map_append, List.map_cons, if_true]
  rw [hkeep kept fun hm => hn.2.2 _ hm _ List.mem_cons_self rfl,
    hkeep rest (List.nodup_cons.mp hn.2.1).1]

end Midway

/-! ## 3. Polled in its turn -/

/-- An answer that the catalog gives, by one of its enumerations or from its kept list. -/
def Answers (catalog : PluginSource) (answer : CatalogAnswer) : Prop :=
  ∃ number, answer = catalog.answerAt number

/-- What becomes of a task that is polled in its turn, and whether it stays. -/
inductive Turn (catalog : PluginSource) (judge : Judge) (h : Hub) (t : Task) :
    Hub → List Task → Prop
  /-- It was cancelled and ends. -/
  | withdrawn (cancelled : h.isCancelled t = true) : Turn catalog judge h t (h.withdraw t) []
  /-- The gate is open, and it ends with a verdict. -/
  | concluded (live : h.isCancelled t = false) (isOpen : h.supply.gateOpen = true)
    (supply : Supply) (answer : CatalogAnswer) (answers : Answers catalog answer) :
    Turn catalog judge h t (conclude judge { h with supply } t answer).2 []
  /-- The gate is closed, and it stays. -/
  | stays (live : h.isCancelled t = false) (closed : h.supply.gateOpen = false) (h' : Hub)
    (t' : Task) (key : t'.key = t.key) (dispatchers : h'.dispatchers = h.dispatchers) :
    Turn catalog judge h t h' [t']

namespace Midway

/-- **In its turn no task has to wait**, while the gate is open. -/
theorem ask_ne_wait (m : h.Midway catalog kept (t :: rest)) (hopen : h.supply.gateOpen = true)
    {supply : Supply} : h.supply.ask t.id ≠ (.wait, supply) := by
  have hfree : h.Free t := by
    intro c hc
    cases hholder : c.holder with
    | none => exact Or.inl rfl
    | some x =>
      have hline := m.line c hc
      rw [m.ended hopen] at hline
      exact Or.inr (congrArg some (hline.head (Cache.callers_of_holder hholder)).1)
  intro hwait
  exact hfree.ask_ne_wait (congrArg Prod.fst hwait)

/-- While the gate is closed, nothing is kept. -/
theorem ask_ne_stored (m : h.Midway catalog kept rest) (hclosed : h.supply.gateOpen = false)
    {plugins : List PluginDescriptor} {supply : Supply} {caller : Nat} :
    h.supply.ask caller ≠ (.stored plugins, supply) := by
  intro hask
  obtain ⟨c, hc, hstored⟩ := Option.bind_eq_some_iff.mp (Supply.kept_of_ask_stored hask)
  exact absurd ((m.cold hclosed c hc).symm.trans hstored) (by simp)

/-- A task that has asked stands in line, if it did not find an answer. -/
theorem line_ask (m : h.Midway catalog kept (t :: rest))
    (hcold : ∀ c, h.supply.cache = some c → c.stored = none)
    {admission : Admission (List PluginDescriptor)} {supply : Supply}
    (hask : h.supply.ask t.id = (admission, supply)) :
    ∀ c, supply.cache = some c →
      Queued ((kept ++ [t]).map (·.id)) (rest.map (·.id)) c.callers ∧ c.stored = none := by
  intro c' hc'
  obtain ⟨c, hc, -, rfl⟩ := Supply.cache_of_ask hask hc'
  refine ⟨?_, (Cache.stored_ask c t.id).trans (hcold c hc)⟩
  rw [(m.inLine.orderly c hc).callers_ask, List.map_append]
  by_cases hmem : t.id ∈ c.callers
  · rw [if_pos (Or.inr hmem)]
    exact (m.line c hc).stay m.ids hmem
  · rw [if_neg (by simp [hcold c hc, hmem])]
    exact (m.line c hc).join hmem

/-- Whoever has the turn has not found an answer. -/
theorem cold_of_turn (m : h.Midway catalog kept rest) {caller : Nat} {supply : Supply}
    (hask : h.supply.ask caller = (.turn, supply)) :
    ∀ c, h.supply.cache = some c → c.stored = none := by
  intro c hc
  have horderly := (m.inLine.orderly c hc).ask caller
  rw [Supply.ask_of_cache hc] at hask
  have hholder := (Cache.holder_of_ask_turn (congrArg Prod.fst hask)).1
  exact (Cache.stored_ask c caller).symm.trans (horderly.stored_eq_none hholder)

/-- Whoever had the turn and ended with an answer has left the line. -/
theorem line_finish {c : Cache (List PluginDescriptor)}
    (q : Queued [] (t.id :: rest.map (·.id)) c.callers) (hholder : c.holder = some t.id)
    (answer : CatalogAnswer) : Queued [] (rest.map (·.id)) (c.finish answer).callers := by
  cases answer with
  | ok plugins =>
    rw [Cache.callers_finish_ok]
    exact ⟨List.nil_prefix, List.nil_prefix⟩
  | error fault =>
    rw [Cache.callers_finish_error]
    exact (q.head (Cache.callers_of_holder hholder)).2

/-- A cancelled task ends. -/
theorem withdraw (m : h.Midway catalog kept (t :: rest)) (hs : (h.withdraw t).Steady catalog) :
    (h.withdraw t).Midway catalog kept rest where
  toSteady := hs
  tasks := (withdraw_ends h t).tasks.trans m.tasks_removeTask
  line c' hc' := by
    rw [supply_withdraw] at hc'
    obtain ⟨c, hc, rfl⟩ := Option.map_eq_some_iff.mp hc'
    rw [(m.inLine.orderly c hc).callers_leave]
    exact (m.line c hc).leave m.ids
  cold hclosed c' hc' := by
    rw [supply_withdraw] at hc' hclosed
    obtain ⟨c, hc, rfl⟩ := Option.map_eq_some_iff.mp hc'
    exact (Cache.stored_leave c t.id).trans (m.cold hclosed c hc)
  ended hopen := by
    rw [supply_withdraw] at hopen
    exact m.ended hopen

/-- While the gate is open a task may end with a verdict. -/
theorem conclude (m : h.Midway catalog kept (t :: rest)) (hopen : h.supply.gateOpen = true)
    {judge : Judge} {supply : Supply} {answer : CatalogAnswer}
    (hgate : supply.gateOpen = true)
    (line : ∀ c, supply.cache = some c → Queued [] (rest.map (·.id)) c.callers)
    (hs : (Hub.conclude judge { h with supply } t answer).2.Steady catalog) :
    (Hub.conclude judge { h with supply } t answer).2.Midway catalog kept rest where
  toSteady := hs
  tasks := (conclude_ends judge { h with supply } t answer).tasks.trans m.tasks_removeTask
  line c hc := by
    rw [supply_conclude] at hc
    rw [m.ended hopen]
    exact line c hc
  cold hclosed := by
    rw [supply_conclude] at hclosed
    exact absurd (hclosed.symm.trans hgate) (by simp)
  ended _ := m.ended hopen

/-- While the gate is closed a task may stay. -/
theorem stay (hclosed : h.supply.gateOpen = false) {t' : Task} (hs : h.Steady catalog)
    (tasks : h.tasks = kept ++ t' :: rest)
    (line : ∀ c, h.supply.cache = some c →
      Queued ((kept ++ [t']).map (·.id)) (rest.map (·.id)) c.callers ∧ c.stored = none) :
    h.Midway catalog (kept ++ [t']) rest where
  toSteady := hs
  tasks := tasks.trans (List.append_cons kept t' rest)
  line c hc := (line c hc).1
  cold _ c hc := (line c hc).2
  ended hopen := absurd (hclosed.symm.trans hopen) (by simp)

/-- **What becomes of a task that is polled in its turn**: it was cancelled and ends, or the gate is
open and it ends with a verdict, or the gate is closed and it stays. -/
theorem pollTask (m : h.Midway catalog kept (t :: rest)) (judge : Judge) :
    ∃ left, Turn catalog judge h t (h.pollTask judge t).2 left ∧
      (h.pollTask judge t).2.Midway catalog (kept ++ left) rest := by
  have hp := pollTask_polled judge h t
  have hs := m.toSteady.pollTask m.mem judge
  generalize h.pollTask judge t = outcome at hp hs ⊢
  cases hp with
  | withdrawn cancelled =>
    refine ⟨[], .withdrawn cancelled, ?_⟩
    rw [List.append_nil]
    exact m.withdraw hs
  | held live number stage closed =>
    refine ⟨[t], .stays live closed h t rfl rfl, stay closed hs m.tasks fun c hc => ?_⟩
    have hmem : t.id ∈ c.callers := by
      rw [Cache.callers_of_holder (m.inLine.turn c hc t m.mem number stage)]
      exact List.mem_cons_self
    rw [List.map_append]
    exact ⟨(m.line c hc).stay m.ids hmem, m.cold closed c hc⟩
  | answered live number stage isOpen =>
    refine ⟨[], .concluded live isOpen _ _ ⟨number, by rw [m.genuine.source]⟩, ?_⟩
    rw [List.append_nil]
    refine m.conclude isOpen isOpen (fun c' hc' => ?_) hs
    obtain ⟨c, hc, rfl⟩ := Option.map_eq_some_iff.mp hc'
    have hline := m.line c hc
    rw [m.ended isOpen] at hline
    exact line_finish hline (m.inLine.turn c hc t m.mem number stage) _
  | served live stage plugins supply ask =>
    have isOpen : h.supply.gateOpen = true := by
      cases hgate : h.supply.gateOpen with
      | true => rfl
      | false => exact absurd ask (m.ask_ne_stored hgate)
    obtain ⟨number, hnumber⟩ := m.genuine.stored ask
    refine ⟨[], .concluded live isOpen supply _ ⟨number, hnumber.symm⟩, ?_⟩
    rw [List.append_nil]
    refine m.conclude isOpen ((gateOpen_ask ask).trans isOpen) (fun c' hc' => ?_) hs
    obtain ⟨c, hc, hstored, rfl⟩ := Supply.cache_of_ask ask hc'
    obtain ⟨hvalue, hsame⟩ := Cache.ask_of_stored hstored.symm
    rw [hsame, (m.inLine.orderly c hc).served (by simp [hvalue])]
    exact ⟨List.nil_prefix, List.nil_prefix⟩
  | waiting live stage supply ask =>
    have closed : h.supply.gateOpen = false := by
      cases hgate : h.supply.gateOpen with
      | true => exact absurd ask (m.ask_ne_wait hgate)
      | false => rfl
    exact ⟨[t], .stays live closed _ t rfl rfl, stay ((gateOpen_ask ask).trans closed) hs m.tasks
      (m.line_ask (m.cold closed) ask)⟩
  | started live stage supply ask closed =>
    have hclosed : h.supply.gateOpen = false := (gateOpen_ask ask).symm.trans closed
    refine ⟨[{ t with stage := .enumerating supply.start.1 }], .stays live hclosed _ _ rfl rfl,
      stay closed hs (m.tasks_setStage _) ?_⟩
    have hline := m.line_ask (m.cold hclosed) ask
    rw [List.map_append] at hline ⊢
    exact hline
  | enumerated live stage supply ask isOpen =>
    have hopen : h.supply.gateOpen = true := (gateOpen_ask ask).symm.trans isOpen
    have hsource := (m.genuine.ask ask).start.source
    refine ⟨[], .concluded live hopen _ _ ⟨supply.started, by rw [← hsource]; rfl⟩, ?_⟩
    rw [List.append_nil]
    refine m.conclude hopen isOpen (fun c' hc' => ?_) hs
    obtain ⟨c, hc, rfl⟩ := Option.map_eq_some_iff.mp hc'
    have hline := (m.line_ask (m.cold_of_turn ask) ask c hc).1
    rw [m.ended hopen] at hline
    exact line_finish hline.back (Supply.holder_of_ask ask c hc) _

end Midway

end Hub

end PluginArbiter
