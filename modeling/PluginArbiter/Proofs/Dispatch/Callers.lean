/-
# Tasks are callers of the kept catalog

The tasks of dispatchers that share a catalog ask it for its plugins, each under its own number.  Seen
from the catalog they are calls like any others: a submission makes a call, a poll of its task polls
it, and a task that was cancelled abandons it.  So every run of the dispatchers is a run of calls
(`run_keptBy`), with the answers that the catalog behind gives while its gate is open, and what holds
of all runs of calls holds of tasks.

Main statements:
* `act_keptBy`: each step is an action of the calls, or none;
* `run_keptBy`: a run of dispatchers over a kept catalog is a run of calls, and counts the same
  enumerations.
-/
import PluginArbiter.Proofs.Catalog.Kept
import PluginArbiter.Proofs.Dispatch.Rest

namespace PluginArbiter

/-- The call that a task stands for. -/
def Task.call (t : Task) : KeptCatalog.Call := { id := t.id, isInside := decide (t.stage ≠ .asking) }

namespace Hub

variable {h h' : Hub} {t : Task} {cache : Cache (List PluginDescriptor)}

/-- The calls that the tasks stand for, on what is kept. -/
def keptBy (h : Hub) (cache : Cache (List PluginDescriptor)) : KeptCatalog :=
  { cache, calls := h.tasks.map Task.call, made := h.nextTask }

/-- A step of the dispatchers is a sequence of actions of the calls, and starts as many
enumerations. -/
def Keeps (h : Hub) (cache : Cache (List PluginDescriptor)) (h' : Hub) : Prop :=
  ∃ actions cache', h'.supply.cache = some cache' ∧ (h.keptBy cache).run actions = h'.keptBy cache' ∧
    h'.supply.started = h.supply.started + ((h.keptBy cache).log actions).countP (·.isStart)

theorem Keeps.still (hcache : h'.supply.cache = some cache) (htasks : h'.tasks = h.tasks)
    (hnext : h'.nextTask = h.nextTask) (hstarted : h'.supply.started = h.supply.started) :
    h.Keeps cache h' :=
  ⟨[], cache, hcache, by simp [keptBy, htasks, hnext], by simp [hstarted]⟩

theorem Keeps.one {a : KeptCatalog.Action} {es : List KeptCatalog.Event}
    {cache' : Cache (List PluginDescriptor)} (hcache : h'.supply.cache = some cache')
    (hact : (h.keptBy cache).act a = (es, h'.keptBy cache'))
    (hstarted : h'.supply.started = h.supply.started + es.countP (·.isStart)) :
    h.Keeps cache h' := by
  refine ⟨[a], cache', hcache, congrArg Prod.snd hact, ?_⟩
  rw [KeptCatalog.log, hact, KeptCatalog.log_nil, List.append_nil, hstarted]

theorem Keeps.trans {h'' : Hub} (h₁ : h.Keeps cache h')
    (h₂ : ∀ cache', h'.supply.cache = some cache' → h'.Keeps cache' h'') : h.Keeps cache h'' := by
  obtain ⟨actions, cache', hcache', hrun, hstarted⟩ := h₁
  obtain ⟨actions', cache'', hcache'', hrun', hstarted'⟩ := h₂ cache' hcache'
  refine ⟨actions ++ actions', cache'', hcache'', ?_, ?_⟩
  · rw [KeptCatalog.run_append, hrun, hrun']
  · rw [KeptCatalog.log_append, hrun, List.countP_append, hstarted', hstarted, Nat.add_assoc]

/-- To take a task out is to take its call out. -/
theorem keptBy_of_tasks_eq (htasks : h'.tasks = (h.removeTask t.id).tasks)
    (hnext : h'.nextTask = h.nextTask) (cache cache' : Cache (List PluginDescriptor)) :
    h'.keptBy cache' = { (h.keptBy cache).without t.id with cache := cache' } := by
  simp only [keptBy, KeptCatalog.without, htasks, hnext, removeTask, List.filter_map]
  rfl

theorem keptBy_setStage (h : Hub) (id number : Nat) (cache : Cache (List PluginDescriptor)) :
    (h.setStage id (.enumerating number)).keptBy cache = (h.keptBy cache).goInside id := by
  simp only [keptBy, setStage, KeptCatalog.goInside, List.map_map, KeptCatalog.mk.injEq, true_and,
    and_true]
  refine List.map_congr_left fun u _ => ?_
  by_cases he : u.id = id <;> simp [Task.call, he]

/-- The call of a task is found by the number of the task. -/
theorem find?_keptBy {id : Nat} (hf : h.tasks.find? (·.id == id) = some t)
    (cache : Cache (List PluginDescriptor)) :
    (h.keptBy cache).calls.find? (·.id == id) = some t.call := by
  rw [keptBy, List.find?_map]
  exact congrArg (Option.map Task.call) hf

/-- To poll the call of a task is to poll it as it stands. -/
theorem keptBy_poll {id : Nat} (hf : h.tasks.find? (·.id == id) = some t)
    (cache : Cache (List PluginDescriptor)) (inner : Option CatalogAnswer) :
    (h.keptBy cache).act (.poll id inner) = (h.keptBy cache).pollCall t.call inner := by
  simp only [KeptCatalog.act, find?_keptBy hf]

theorem keptBy_abandon {id : Nat} (hf : h.tasks.find? (·.id == id) = some t)
    (cache : Cache (List PluginDescriptor)) :
    (h.keptBy cache).act (.abandon id) = ([.abandoned id t.call.isInside],
      { (h.keptBy cache).without id with cache := cache.leave id }) := by
  simp only [KeptCatalog.act, find?_keptBy hf]
  rfl

theorem isInside_call_of_asking (hstage : t.stage = .asking) : t.call.isInside = false := by
  simp [Task.call, hstage]

theorem isInside_call_of_enumerating {number : Nat} (hstage : t.stage = .enumerating number) :
    t.call.isInside = true := by
  simp [Task.call, hstage]

/-- What asking the supply does to what is kept. -/
theorem ask_cache (hcache : h.supply.cache = some cache) {caller : Nat}
    {admission : Admission (List PluginDescriptor)} {supply : Supply}
    (hask : h.supply.ask caller = (admission, supply)) :
    ∃ cache', cache.ask caller = (admission, cache') ∧ supply.cache = some cache' ∧
      supply.started = h.supply.started := by
  rw [Supply.ask_of_cache hcache] at hask
  obtain ⟨rfl, rfl⟩ := Prod.mk.inj hask
  exact ⟨_, rfl, rfl, rfl⟩

/-- A task that ends with the answer of its own enumeration is a call that concludes. -/
theorem finish_keptBy (hcache : h.supply.cache = some cache) (judge : Judge) (t : Task)
    (number : Nat) :
    ∃ cache', (finish judge h t number).2.supply.cache = some cache' ∧
      (finish judge h t number).2.supply.started = h.supply.started ∧
      (h.keptBy cache).conclude t.id (h.supply.catalog.answerAt number) =
        ([.ended t.id (h.supply.catalog.answerAt number),
          .returned t.id (h.supply.catalog.answerAt number)],
          (finish judge h t number).2.keptBy cache') := by
  have hends := conclude_ends judge
    { h with supply := h.supply.finish (h.supply.catalog.answerAt number) } t
    (h.supply.catalog.answerAt number)
  refine ⟨cache.finish (h.supply.catalog.answerAt number), ?_, ?_, ?_⟩
  · rw [finish, supply_conclude, Supply.finish, hcache]
    rfl
  · rw [finish, supply_conclude]
    rfl
  · rw [finish, keptBy_of_tasks_eq (h := h) hends.tasks hends.nextTask cache]
    rfl

/-- A task that asks is a call that asks. -/
theorem asking_keptBy (hf : h.tasks.find? (·.id == t.id) = some t) (stage : t.stage = .asking)
    {admission : Admission (List PluginDescriptor)} {cache' : Cache (List PluginDescriptor)}
    (hask : cache.ask t.id = (admission, cache')) (inner : Option CatalogAnswer) :
    (h.keptBy cache).act (.poll t.id inner) =
      match admission, inner with
      | .stored plugins, _ => ([.returned t.id (.ok plugins)], (h.keptBy cache).without t.id)
      | .wait, _ => ([], h.keptBy cache')
      | .turn, none => ([.started t.id], (h.keptBy cache').goInside t.id)
      | .turn, some answer => (.started t.id :: ((h.keptBy cache').conclude t.id answer).1,
          ((h.keptBy cache').conclude t.id answer).2) := by
  have hask' : (h.keptBy cache).cache.ask t.call.id = (admission, cache') := hask
  rw [keptBy_poll hf]
  unfold KeptCatalog.pollCall
  rw [if_neg (by simp [isInside_call_of_asking stage]), hask']
  cases admission with
  | stored plugins => rfl
  | wait => rfl
  | turn => cases inner <;> rfl

/-- **A poll of a task** polls its call, or abandons it. -/
theorem pollTask_keptBy (hcache : h.supply.cache = some cache) {id : Nat}
    (hf : h.tasks.find? (·.id == id) = some t) (judge : Judge) :
    h.Keeps cache (h.pollTask judge t).2 := by
  obtain rfl : t.id = id := by simpa using List.find?_some hf
  have hp := pollTask_polled judge h t
  generalize h.pollTask judge t = outcome at hp ⊢
  cases hp with
  | withdrawn cancelled =>
    have hends := withdraw_ends h t
    have hsupply := supply_withdraw h t
    have hact := keptBy_abandon hf cache
    rw [← keptBy_of_tasks_eq hends.tasks hends.nextTask] at hact
    have hstarted : (h.withdraw t).supply.started = h.supply.started := by
      rw [hsupply]
      rfl
    refine .one ?_ hact hstarted
    rw [hsupply, Supply.leave, hcache]
    rfl
  | held live number stage closed => exact .still hcache rfl rfl rfl
  | answered live number stage isOpen =>
    obtain ⟨cache', hcache', hstarted, hconclude⟩ := finish_keptBy hcache judge t number
    have hact := keptBy_poll hf cache (some (h.supply.catalog.answerAt number))
    rw [KeptCatalog.pollCall, if_pos (isInside_call_of_enumerating stage)] at hact
    exact .one hcache' (hact.trans hconclude) hstarted
  | served live stage plugins supply ask =>
    obtain ⟨cache', hask, hcache', hstarted⟩ := ask_cache hcache ask
    have hends := conclude_ends judge { h with supply } t (.ok plugins)
    have hsame : cache' = cache := by
      rw [← (Cache.ask_of_stored (congrArg Prod.fst hask)).2, hask]
    subst hsame
    have hact := asking_keptBy hf stage hask none
    have htarget := keptBy_of_tasks_eq (h := h) hends.tasks hends.nextTask cache' cache'
    exact .one ((congrArg Supply.cache (supply_conclude ..)).trans hcache')
      (hact.trans (congrArg (Prod.mk _) htarget.symm))
      ((congrArg Supply.started (supply_conclude ..)).trans hstarted)
  | waiting live stage supply ask =>
    obtain ⟨cache', hask, hcache', hstarted⟩ := ask_cache hcache ask
    exact .one hcache' (asking_keptBy hf stage hask none) hstarted
  | started live stage supply ask closed =>
    obtain ⟨cache', hask, hcache', hstarted⟩ := ask_cache hcache ask
    have hact := asking_keptBy hf stage hask none
    have htarget := keptBy_setStage { h with supply := supply.start.2 } t.id supply.start.1 cache'
    exact .one hcache' (hact.trans (congrArg (Prod.mk _) htarget.symm))
      (congrArg (· + 1) hstarted)
  | enumerated live stage supply ask isOpen =>
    obtain ⟨cache', hask, hcache', hstarted⟩ := ask_cache hcache ask
    obtain ⟨cache'', hcache'', hstarted', hconclude⟩ :=
      finish_keptBy (h := { h with supply := supply.start.2 }) hcache' judge t supply.start.1
    have hact := asking_keptBy hf stage hask
      (some (supply.start.2.catalog.answerAt supply.start.1))
    exact .one hcache''
      (hact.trans (congrArg (fun r => (KeptCatalog.Event.started t.id :: r.1, r.2)) hconclude))
      (hstarted'.trans (congrArg (· + 1) hstarted))

/-- **A step of the dispatchers is an action of the calls**, or none. -/
theorem act_keptBy (hcache : h.supply.cache = some cache) (a : Action) :
    h.Keeps cache (h.act a).2 := by
  cases a with
  | addDispatcher process handlers => exact .still hcache rfl rfl rfl
  | call p call =>
    simp only [act]
    split
    · exact .still hcache rfl rfl rfl
    · rename_i d hd
      rw [serve_eq]
      rcases brings_cases d call with hnone | ⟨s, hone⟩
      · rw [hnone]
        exact .still hcache (List.append_nil _) rfl rfl
      · rw [hone]
        have hact : (h.keptBy cache).act .call = ([], { h.setDispatcher p (served d call) with
            tasks := h.tasks ++ [{ id := h.nextTask, owner := p, submission := s }]
            nextTask := h.nextTask + 1 : Hub }.keptBy cache) := by
          simp [KeptCatalog.act, keptBy, Task.call]
        exact .one hcache hact rfl
  | openGate => exact .still hcache rfl rfl rfl
  | poll judge id =>
    simp only [act]
    cases hf : h.tasks.find? (·.id == id) with
    | none => exact .still hcache rfl rfl rfl
    | some t => exact pollTask_keptBy hcache hf judge

/-- **A run of dispatchers over a kept catalog is a run of calls**, and starts as many
enumerations. -/
theorem run_keptBy (catalog : PluginSource) (gated : Bool) (actions : List Action) :
    (start catalog true gated).Keeps {} ((start catalog true gated).run actions) := by
  induction actions using List.reverseRecOn with
  | nil => exact .still rfl rfl rfl rfl
  | append_singleton before a ih =>
    rw [run_concat]
    exact ih.trans fun cache hcache => act_keptBy hcache a

end Hub

end PluginArbiter
