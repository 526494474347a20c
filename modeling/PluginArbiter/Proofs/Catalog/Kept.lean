/-
# The catalog is asked by one call at a time, until it has answered once

Many calls ask for a kept answer, and each may be held up, given up, or brought to an end by whatever
the catalog behind comes up with.  This module says once what an action can do (`Did`), and shows
from it that at most one enumeration is under way at any time, that the first success is kept for
good and handed to everybody, that a fault goes to none but the call whose enumeration ended with
it, and that a call that waits is never forgotten.

The invariant is that the line before the kept value is orderly and that whoever is inside has the
turn (`Tidy`).  What has come of a run is put beside it by counting: each enumeration that was
started is under way, or ended with a fault that was returned, or was given up together with its
call, or is the one that succeeded.

Main statements:
* `Tidy.act`: the line stays in order;
* `stored_run`: the first success is what is kept;
* `count_started`: where every enumeration has gone;
* `Tidy.exists_free`: some call can go on;
* `enumerates_until_success`: all of it, for every order of calls, polls and abandonments.
-/
import Mathlib.Data.List.Induction
import Mathlib.Data.List.Nodup
import PluginArbiter.Catalog.Kept
import PluginArbiter.Proofs.Catalog.Line

namespace PluginArbiter

namespace Cache

variable {α : Type} {c : Cache α} {caller : Nat}

/-- Who is given the turn finds no value, and moves nobody who waits. -/
theorem of_ask_turn {c' : Cache α} (h : c.ask caller = (.turn, c')) :
    c.stored = none ∧ c'.stored = none ∧ c'.waiting = c.waiting ∧ c'.holder = some caller := by
  obtain ⟨hholder, -⟩ := holder_of_ask_turn (congrArg Prod.fst h)
  have hstored : c.stored = none ∧ (c.ask caller).2.waiting = c.waiting := by
    revert h
    unfold ask
    split
    · exact fun h => absurd (congrArg Prod.fst h) (by simp)
    · rename_i hnone _
      exact fun _ => ⟨hnone, rfl⟩
    · rename_i hnone _
      split
      · exact fun _ => ⟨hnone, rfl⟩
      · split <;> exact fun h => absurd (congrArg Prod.fst h) (by simp)
  have hkeep := stored_ask c caller
  rw [h] at hstored hholder hkeep
  exact ⟨hstored.1, hkeep.trans hstored.1, hstored.2, hholder⟩

/-- Where nothing is kept and nobody else has the turn, whoever asks is given it. -/
theorem ask_eq_turn (hstored : c.stored = none)
    (hfree : c.holder = none ∨ c.holder = some caller) : (c.ask caller).1 = .turn := by
  cases hask : (c.ask caller).1 with
  | turn => rfl
  | wait => exact absurd hask (ask_ne_wait hfree)
  | stored value => exact absurd ((ask_of_stored hask).1.symm.trans hstored) (by simp)

theorem ask_eq_stored {value : α} (hstored : c.stored = some value) (caller : Nat) :
    c.ask caller = (.stored value, c) := by
  simp [ask, hstored]

end Cache

namespace KeptCatalog

variable {s s' : KeptCatalog} {c : Call} {a : Action} {es : List Event}

/-! ## 1. What an action can do -/

/-- Everything that an action can do, with what makes it do so. -/
inductive Did (s : KeptCatalog) : Action → List Event × KeptCatalog → Prop
  | nothing (a : Action) : Did s a ([], s)
  | called : Did s .call ([], { s with calls := s.calls ++ [{ id := s.made }], made := s.made + 1 })
  | waited (c : Call) (here : c ∈ s.calls) (inner : Option CatalogAnswer)
    (cache : Cache (List PluginDescriptor)) (ask : s.cache.ask c.id = (.wait, cache)) :
    Did s (.poll c.id inner) ([], { s with cache })
  | served (c : Call) (here : c ∈ s.calls) (inner : Option CatalogAnswer)
    (plugins : List PluginDescriptor) (outside : c.isInside = false)
    (kept : s.cache.stored = some plugins) :
    Did s (.poll c.id inner) ([.returned c.id (.ok plugins)], s.without c.id)
  | entered (c : Call) (here : c ∈ s.calls) (cache : Cache (List PluginDescriptor))
    (outside : c.isInside = false) (ask : s.cache.ask c.id = (.turn, cache)) :
    Did s (.poll c.id none) ([.started c.id], ({ s with cache } : KeptCatalog).goInside c.id)
  | fetched (c : Call) (here : c ∈ s.calls) (cache : Cache (List PluginDescriptor))
    (answer : CatalogAnswer) (outside : c.isInside = false)
    (ask : s.cache.ask c.id = (.turn, cache)) :
    Did s (.poll c.id (some answer))
      ([.started c.id, .ended c.id answer, .returned c.id answer],
        { s.without c.id with cache := cache.finish answer })
  | concluded (c : Call) (here : c ∈ s.calls) (answer : CatalogAnswer)
    (inside : c.isInside = true) :
    Did s (.poll c.id (some answer)) ([.ended c.id answer, .returned c.id answer],
      { s.without c.id with cache := s.cache.finish answer })
  | abandoned (c : Call) (here : c ∈ s.calls) :
    Did s (.abandon c.id) ([.abandoned c.id c.isInside],
      { s.without c.id with cache := s.cache.leave c.id })

theorem pollCall_did (here : c ∈ s.calls) (inner : Option CatalogAnswer) :
    Did s (.poll c.id inner) (s.pollCall c inner) := by
  unfold pollCall
  cases hin : c.isInside with
  | true =>
    cases inner with
    | none => exact .nothing _
    | some answer => exact .concluded c here answer hin
  | false =>
    simp only [Bool.false_eq_true, if_false]
    cases hask : s.cache.ask c.id with
    | mk admission cache =>
      cases admission with
      | stored plugins =>
        exact .served c here inner plugins hin (Cache.ask_of_stored (congrArg Prod.fst hask)).1
      | wait => exact .waited c here inner cache hask
      | turn =>
        cases inner with
        | none => exact .entered c here cache hin hask
        | some answer => exact .fetched c here cache answer hin hask

/-- **Everything an action can do.** -/
theorem act_did (s : KeptCatalog) (a : Action) : Did s a (s.act a) := by
  cases a with
  | call => exact .called
  | poll id inner =>
    simp only [act]
    cases hf : s.calls.find? (·.id == id) with
    | none => exact .nothing _
    | some c =>
      obtain rfl : c.id = id := by simpa using List.find?_some hf
      exact pollCall_did (List.mem_of_find?_eq_some hf) inner
  | abandon id =>
    simp only [act]
    cases hf : s.calls.find? (·.id == id) with
    | none => exact .nothing _
    | some c =>
      obtain rfl : c.id = id := by simpa using List.find?_some hf
      exact .abandoned c (List.mem_of_find?_eq_some hf)

/-! ## 2. The line stays in order -/

/-- Calls have numbers of their own, whoever stands in line is a call, and whoever is inside has the
turn. -/
structure Tidy (s : KeptCatalog) : Prop where
  ids : (s.calls.map (·.id)).Nodup
  fresh : ∀ c ∈ s.calls, c.id < s.made
  orderly : s.cache.Orderly
  known : ∀ x ∈ s.cache.callers, ∃ c ∈ s.calls, c.id = x
  inside : ∀ c ∈ s.calls, c.isInside = true → s.cache.holder = some c.id

theorem tidy_empty : ({} : KeptCatalog).Tidy :=
  ⟨List.nodup_nil, by simp, Cache.orderly_empty, by simp [Cache.callers], by simp⟩

/-- A call among the others, and what becomes of them when it goes inside or is taken out. -/
theorem Tidy.split (h : s.Tidy) (here : c ∈ s.calls) :
    ∃ before after, s.calls = before ++ c :: after ∧ (s.without c.id).calls = before ++ after ∧
      (s.goInside c.id).calls = before ++ { c with isInside := true } :: after := by
  obtain ⟨before, after, heq⟩ := List.append_of_mem here
  have hids := h.ids
  rw [heq, List.map_append, List.map_cons, List.nodup_middle, List.nodup_cons,
    List.mem_append] at hids
  have hne : ∀ l : List Call, c.id ∉ l.map (·.id) → ∀ u ∈ l, u.id ≠ c.id :=
    fun l hl u hu he => hl (he ▸ List.mem_map_of_mem hu)
  have hbefore := hne before fun hm => hids.1 (Or.inl hm)
  have hafter := hne after fun hm => hids.1 (Or.inr hm)
  have hfilter : ∀ l : List Call, (∀ u ∈ l, u.id ≠ c.id) → l.filter (fun u => u.id ≠ c.id) = l :=
    fun l hl => List.filter_eq_self.mpr fun u hu => by simpa using hl u hu
  have hmap : ∀ l : List Call, (∀ u ∈ l, u.id ≠ c.id) →
      l.map (fun u => if u.id = c.id then { u with isInside := true } else u) = l := by
    intro l hl
    refine (List.map_congr_left fun u hu => if_neg (hl u hu)).trans ?_
    exact List.map_id' l
  refine ⟨before, after, heq, ?_, ?_⟩
  · change s.calls.filter (fun u => u.id ≠ c.id) = _
    rw [heq, List.filter_append, List.filter_cons, if_neg (by simp), hfilter before hbefore,
      hfilter after hafter]
  · change s.calls.map (fun u => if u.id = c.id then { u with isInside := true } else u) = _
    rw [heq, List.map_append, List.map_cons, if_pos rfl, hmap before hbefore, hmap after hafter]

/-- A call may end when it stands in line no longer and takes the turn from nobody else. -/
theorem Tidy.ended (h : s.Tidy) (cache : Cache (List PluginDescriptor)) (orderly : cache.Orderly)
    (known : ∀ x ∈ cache.callers, x ∈ s.cache.callers ∧ x ≠ c.id)
    (turn : ∀ x, x ≠ c.id → s.cache.holder = some x → cache.holder = some x) :
    ({ s.without c.id with cache } : KeptCatalog).Tidy where
  ids := h.ids.sublist (List.filter_sublist.map _)
  fresh u hu := h.fresh u (List.mem_filter.mp hu).1
  orderly := orderly
  known x hx := by
    obtain ⟨hold, hne⟩ := known x hx
    obtain ⟨u, hu, rfl⟩ := h.known x hold
    exact ⟨u, List.mem_filter.mpr ⟨hu, by simpa using hne⟩, rfl⟩
  inside u hu hin := by
    obtain ⟨hmem, hne⟩ := List.mem_filter.mp hu
    exact turn u.id (by simpa using hne) (h.inside u hmem hin)

/-- A call may ask, whatever it is told. -/
theorem Tidy.ask (h : s.Tidy) (here : c ∈ s.calls) :
    ({ s with cache := (s.cache.ask c.id).2 } : KeptCatalog).Tidy where
  ids := h.ids
  fresh := h.fresh
  orderly := h.orderly.ask c.id
  known x hx := by
    rw [h.orderly.callers_ask] at hx
    split at hx
    · exact h.known x hx
    · rcases List.mem_append.mp hx with hold | hnew
      · exact h.known x hold
      · exact ⟨c, here, (List.mem_singleton.mp hnew).symm⟩
  inside u hu hin := Cache.holder_ask (h.inside u hu hin) c.id

/-- Who has the turn may come back with anything. -/
theorem Tidy.finish (h : s.Tidy) (hturn : s.cache.holder = some c.id) (answer : CatalogAnswer) :
    ({ s.without c.id with cache := s.cache.finish answer } : KeptCatalog).Tidy :=
  h.ended _ (h.orderly.finish hturn answer)
    (fun _ hx => h.orderly.mem_callers_finish hturn answer hx)
    fun _ hne hx => absurd (Option.some.inj (hx.symm.trans hturn)) hne

/-- Who has the turn may go inside. -/
theorem Tidy.goInside (h : s.Tidy) (hturn : s.cache.holder = some c.id) :
    (s.goInside c.id).Tidy := by
  have hids : (s.goInside c.id).calls.map (·.id) = s.calls.map (·.id) := by
    rw [KeptCatalog.goInside, List.map_map]
    refine List.map_congr_left fun u _ => ?_
    rw [Function.comp_apply]
    split <;> rfl
  have hmem : ∀ x, (∃ u ∈ (s.goInside c.id).calls, u.id = x) ↔ ∃ u ∈ s.calls, u.id = x := by
    intro x
    rw [← List.mem_map, hids, List.mem_map]
  refine ⟨hids ▸ h.ids, fun u hu => ?_, h.orderly, fun x hx => (hmem x).mpr (h.known x hx),
    fun u hu hin => ?_⟩
  · obtain ⟨v, hv, he⟩ := (hmem u.id).mp ⟨u, hu, rfl⟩
    exact he ▸ h.fresh v hv
  · obtain ⟨v, hv, rfl⟩ := List.mem_map.mp hu
    by_cases he : v.id = c.id
    · rw [if_pos he]
      exact he ▸ hturn
    · rw [if_neg he] at hin ⊢
      exact h.inside v hv hin

/-- **Every action keeps the line in order.** -/
theorem Tidy.act (h : s.Tidy) (a : Action) : (s.act a).2.Tidy := by
  have hdid := s.act_did a
  generalize s.act a = outcome at hdid ⊢
  cases hdid with
  | nothing a => exact h
  | called =>
    have hnew : s.made ∉ s.calls.map (·.id) := by
      intro hm
      obtain ⟨u, hu, he⟩ := List.mem_map.mp hm
      exact absurd (h.fresh u hu) (by omega)
    refine ⟨?_, fun u hu => ?_, h.orderly, fun x hx => ?_, fun u hu hin => ?_⟩
    · rw [List.map_append]
      exact List.Nodup.append h.ids (List.nodup_singleton _) (List.disjoint_singleton.mpr hnew)
    · rcases List.mem_append.mp hu with hold | hlast
      · exact Nat.lt_succ_of_lt (h.fresh u hold)
      · rw [List.mem_singleton.mp hlast]
        exact Nat.lt_succ_self _
    · obtain ⟨u, hu, he⟩ := h.known x hx
      exact ⟨u, List.mem_append_left _ hu, he⟩
    · rcases List.mem_append.mp hu with hold | hlast
      · exact h.inside u hold hin
      · rw [List.mem_singleton.mp hlast] at hin
        exact absurd hin (by simp)
  | waited c here inner cache ask =>
    have hasked := h.ask here
    rwa [ask] at hasked
  | served c here inner plugins outside kept =>
    have hnobody : s.cache.callers = [] := h.orderly.served (by simp [kept])
    exact h.ended s.cache h.orderly (fun x hx => absurd hx (by simp [hnobody])) fun _ _ hx => hx
  | entered c here cache outside ask =>
    have hasked := h.ask here
    obtain ⟨-, -, -, hturn⟩ := Cache.of_ask_turn ask
    rw [ask] at hasked
    exact hasked.goInside hturn
  | fetched c here cache answer outside ask =>
    have hasked := h.ask here
    obtain ⟨-, -, -, hturn⟩ := Cache.of_ask_turn ask
    rw [ask] at hasked
    exact hasked.finish hturn answer
  | concluded c here answer inside => exact h.finish (h.inside c here inside) answer
  | abandoned c here =>
    refine h.ended _ (h.orderly.leave c.id) (fun x hx => ?_) fun x hne hx => Cache.holder_leave hx hne
    rw [h.orderly.callers_leave] at hx
    simpa using List.mem_filter.mp hx

theorem tidy_run (actions : List Action) : (({} : KeptCatalog).run actions).Tidy := by
  induction actions using List.reverseRecOn with
  | nil => exact tidy_empty
  | append_singleton before a ih =>
    rw [run_concat]
    exact ih.act a

/-! ## 3. What is kept -/

/-- The list that an enumeration has succeeded with. -/
def Event.success? : Event → Option (List PluginDescriptor)
  | ended _ (.ok plugins) => some plugins
  | _ => none

theorem Event.success?_eq_some_iff {e : Event} {plugins : List PluginDescriptor} :
    e.success? = some plugins ↔ ∃ id, e = .ended id (.ok plugins) := by
  constructor
  · intro h
    unfold success? at h
    split at h
    · rename_i id plugins'
      exact ⟨id, by rw [Option.some.inj h]⟩
    · exact absurd h (by simp)
  · rintro ⟨id, rfl⟩
    rfl

/-- **What is kept stays; where nothing is kept, a success is.** -/
theorem Tidy.stored_act (h : s.Tidy) (a : Action) :
    (s.act a).2.cache.stored = s.cache.stored.or ((s.act a).1.findSome? Event.success?) := by
  have hdid := s.act_did a
  generalize s.act a = outcome at hdid ⊢
  cases hdid with
  | nothing a => simp
  | called => simp
  | waited c here inner cache ask =>
    have hkeep : cache.stored = s.cache.stored := by
      rw [← Cache.stored_ask s.cache c.id, ask]
    simp [hkeep]
  | served c here inner plugins outside kept => simp [without, kept]
  | entered c here cache outside ask =>
    obtain ⟨hnone, hnone', -, -⟩ := Cache.of_ask_turn ask
    rw [hnone]
    exact hnone'
  | fetched c here cache answer outside ask =>
    obtain ⟨hnone, hnone', -, -⟩ := Cache.of_ask_turn ask
    rw [hnone]
    cases answer with
    | ok plugins => rfl
    | error fault => exact hnone'
  | concluded c here answer inside =>
    have hnone := h.orderly.stored_eq_none (h.inside c here inside)
    rw [hnone]
    cases answer with
    | ok plugins => rfl
    | error fault => exact hnone
  | abandoned c here => simp [Cache.stored_leave, Event.success?]

/-- **What is kept after a run is the first success.** -/
theorem stored_run (actions : List Action) :
    (({} : KeptCatalog).run actions).cache.stored
      = (({} : KeptCatalog).log actions).findSome? Event.success? := by
  induction actions using List.reverseRecOn with
  | nil => rfl
  | append_singleton before a ih =>
    rw [run_concat, log_concat, (tidy_run before).stored_act, ih, List.findSome?_append]

/-- Nothing is started where an answer is kept. -/
theorem stored_of_started {id : Nat} (hin : .started id ∈ (s.act a).1) : s.cache.stored = none := by
  have hdid := s.act_did a
  generalize s.act a = outcome at hdid hin
  cases hdid with
  | entered c here cache outside ask => exact (Cache.of_ask_turn ask).1
  | fetched c here cache answer outside ask => exact (Cache.of_ask_turn ask).1
  | _ => exact absurd hin (by simp)

/-- A list that is returned is the one that is kept. -/
theorem stored_of_returned {id : Nat} {plugins : List PluginDescriptor}
    (hin : .returned id (.ok plugins) ∈ (s.act a).1) :
    (s.act a).2.cache.stored = some plugins := by
  have hdid := s.act_did a
  generalize s.act a = outcome at hdid hin ⊢
  cases hdid with
  | served c here inner plugins' outside kept =>
    have he : id = c.id ∧ plugins = plugins' := by simpa using hin
    exact he.2 ▸ kept
  | fetched c here cache answer outside ask =>
    have he : id = c.id ∧ .ok plugins = answer := by simpa using hin
    rw [← he.2]
    rfl
  | concluded c here answer inside =>
    have he : id = c.id ∧ .ok plugins = answer := by simpa using hin
    rw [← he.2]
    rfl
  | _ => exact absurd hin (by simp)

theorem stored_of_returned_run {actions : List Action} {id : Nat} {plugins : List PluginDescriptor}
    (hin : .returned id (.ok plugins) ∈ ({} : KeptCatalog).log actions) :
    (({} : KeptCatalog).run actions).cache.stored = some plugins := by
  induction actions using List.reverseRecOn with
  | nil => exact absurd hin List.not_mem_nil
  | append_singleton before a ih =>
    rw [log_concat] at hin
    rw [run_concat]
    rcases List.mem_append.mp hin with hold | hnew
    · rw [(tidy_run before).stored_act, ih hold, Option.some_or]
    · exact stored_of_returned hnew

/-! ## 4. Whom faults go to -/

/-- Who is inside has gone there in this action or was there before. -/
theorem started_of_inside (hin : c ∈ (s.act a).2.calls) (inside : c.isInside = true) :
    c ∈ s.calls ∨ .started c.id ∈ (s.act a).1 := by
  have hdid := s.act_did a
  generalize s.act a = outcome at hdid hin ⊢
  cases hdid with
  | nothing a => exact Or.inl hin
  | called =>
    rcases List.mem_append.mp hin with hold | hlast
    · exact Or.inl hold
    · rw [List.mem_singleton.mp hlast] at inside
      exact absurd inside (by simp)
  | waited c' here inner cache ask => exact Or.inl hin
  | entered c' here cache outside ask =>
    obtain ⟨u, hu, rfl⟩ := List.mem_map.mp hin
    by_cases he : u.id = c'.id
    · rw [if_pos he]
      exact Or.inr (by simp [he])
    · rw [if_neg he]
      exact Or.inl hu
  | served c' => exact Or.inl (List.mem_filter.mp hin).1
  | fetched c' => exact Or.inl (List.mem_filter.mp hin).1
  | concluded c' => exact Or.inl (List.mem_filter.mp hin).1
  | abandoned c' => exact Or.inl (List.mem_filter.mp hin).1

theorem started_of_inside_run {actions : List Action}
    (hin : c ∈ (({} : KeptCatalog).run actions).calls) (inside : c.isInside = true) :
    .started c.id ∈ ({} : KeptCatalog).log actions := by
  induction actions using List.reverseRecOn with
  | nil => exact absurd hin List.not_mem_nil
  | append_singleton before a ih =>
    rw [log_concat]
    rw [run_concat] at hin
    rcases started_of_inside hin inside with hold | hnew
    · exact List.mem_append_left _ (ih hold)
    · exact List.mem_append_right _ hnew

/-- **A fault goes to the call whose enumeration ended with it.** -/
theorem started_of_fault {actions : List Action} {id : Nat} {fault : CollaboratorFault}
    (hin : .returned id (.error fault) ∈ ({} : KeptCatalog).log actions) :
    [.started id, .ended id (.error fault), .returned id (.error fault)].Sublist
      (({} : KeptCatalog).log actions) := by
  induction actions using List.reverseRecOn with
  | nil => exact absurd hin List.not_mem_nil
  | append_singleton before a ih =>
    rw [log_concat] at hin ⊢
    rcases List.mem_append.mp hin with hold | hnew
    · exact (ih hold).trans (List.sublist_append_left _ _)
    · have hdid := (({} : KeptCatalog).run before).act_did a
      generalize (({} : KeptCatalog).run before).act a = outcome at hdid hnew ⊢
      cases hdid with
      | fetched c here cache answer outside ask =>
        obtain ⟨rfl, rfl⟩ : id = c.id ∧ .error fault = answer := by simpa using hnew
        exact List.sublist_append_right _ _
      | concluded c here answer inside =>
        obtain ⟨rfl, rfl⟩ : id = c.id ∧ .error fault = answer := by simpa using hnew
        have hstarted := started_of_inside_run here inside
        exact (List.singleton_sublist.mpr hstarted).append (.refl _)
      | _ => exact absurd hnew (by simp)

/-! ## 5. Where enumerations have gone -/

/-- Whether an event starts an enumeration. -/
def Event.isStart : Event → Bool
  | started _ => true
  | _ => false

/-- Whether an event returns a fault. -/
def Event.isFault : Event → Bool
  | returned _ (.error _) => true
  | _ => false

/-- Whether an event is the end of a call inside its enumeration. -/
def Event.isLoss : Event → Bool
  | abandoned _ true => true
  | _ => false

/-- How many calls are inside. -/
def insideCount (s : KeptCatalog) : Nat := s.calls.countP (·.isInside)

theorem Tidy.insideCount_without (h : s.Tidy) (here : c ∈ s.calls) :
    s.insideCount = (s.without c.id).insideCount + c.isInside.toNat := by
  obtain ⟨before, after, heq, hwithout, -⟩ := h.split here
  rw [insideCount, insideCount, heq, hwithout, List.countP_append, List.countP_append,
    List.countP_cons]
  cases c.isInside <;> simp [Nat.add_assoc]

theorem Tidy.insideCount_goInside (h : s.Tidy) (here : c ∈ s.calls) (outside : c.isInside = false) :
    (s.goInside c.id).insideCount = s.insideCount + 1 := by
  obtain ⟨before, after, heq, -, hgo⟩ := h.split here
  rw [insideCount, insideCount, heq, hgo, List.countP_append, List.countP_append, List.countP_cons,
    List.countP_cons]
  simp [outside, Nat.add_assoc]

theorem isWarm_of_stored_eq_none {cache : Cache (List PluginDescriptor)} (h : cache.stored = none) :
    cache.isWarm = false := by
  simp [Cache.isWarm, h]

/-- An enumeration that ends leaves either an answer that is kept or a fault that is returned. -/
theorem isWarm_finish {cache : Cache (List PluginDescriptor)} (h : cache.stored = none) (id : Nat)
    (answer : CatalogAnswer) :
    (cache.finish answer).isWarm.toNat + (Event.returned id answer).isFault.toNat = 1 := by
  cases answer with
  | ok plugins => rfl
  | error fault =>
    have hcold : (cache.finish (.error fault : CatalogAnswer)).isWarm = false :=
      isWarm_of_stored_eq_none h
    rw [hcold]
    rfl

/-- The number of calls inside and of answers kept grows with what is started, and falls with what
ends badly. -/
theorem Tidy.count_act (h : s.Tidy) (a : Action) :
    s.insideCount + s.cache.isWarm.toNat + (s.act a).1.countP (·.isStart)
      = (s.act a).2.insideCount + (s.act a).2.cache.isWarm.toNat + (s.act a).1.countP (·.isFault)
        + (s.act a).1.countP (·.isLoss) := by
  have hdid := s.act_did a
  generalize s.act a = outcome at hdid ⊢
  cases hdid with
  | nothing a => simp
  | called => simp [insideCount]
  | waited c here inner cache ask =>
    have hkeep : cache.isWarm = s.cache.isWarm := by
      rw [Cache.isWarm, Cache.isWarm, ← Cache.stored_ask s.cache c.id, ask]
    simp [insideCount, hkeep]
  | served c here inner plugins outside kept =>
    rw [h.insideCount_without here, outside]
    rfl
  | entered c here cache outside ask =>
    obtain ⟨hnone, hnone', -, -⟩ := Cache.of_ask_turn ask
    have hinside := h.insideCount_goInside here outside
    have hcold : ∀ u : KeptCatalog, u.cache = cache → u.cache.isWarm = false :=
      fun u hu => isWarm_of_stored_eq_none (hu ▸ hnone')
    rw [isWarm_of_stored_eq_none hnone, hcold (({ s with cache } : KeptCatalog).goInside c.id) rfl]
    change _ = (s.goInside c.id).insideCount + _ + _ + _
    rw [hinside]
    simp [Event.isStart, Event.isFault, Event.isLoss]
  | fetched c here cache answer outside ask =>
    obtain ⟨hnone, hnone', -, -⟩ := Cache.of_ask_turn ask
    have hend := isWarm_finish hnone' c.id answer
    rw [h.insideCount_without here, outside, isWarm_of_stored_eq_none hnone]
    have hfaults : [Event.started c.id, .ended c.id answer, .returned c.id answer].countP (·.isFault)
        = (Event.returned c.id answer).isFault.toNat := by
      cases answer <;> rfl
    change (s.without c.id).insideCount + 0 + 0 + 1
      = (s.without c.id).insideCount + (cache.finish answer).isWarm.toNat + _ + 0
    rw [hfaults]
    omega
  | concluded c here answer inside =>
    have hnone := h.orderly.stored_eq_none (h.inside c here inside)
    have hend := isWarm_finish hnone c.id answer
    rw [h.insideCount_without here, inside, isWarm_of_stored_eq_none hnone]
    have hfaults : [Event.ended c.id answer, .returned c.id answer].countP (·.isFault)
        = (Event.returned c.id answer).isFault.toNat := by
      cases answer <;> rfl
    change (s.without c.id).insideCount + 1 + 0 + 0
      = (s.without c.id).insideCount + (s.cache.finish answer).isWarm.toNat + _ + 0
    rw [hfaults]
    omega
  | abandoned c here =>
    have hkeep : (s.cache.leave c.id).isWarm = s.cache.isWarm := by
      rw [Cache.isWarm, Cache.isWarm, Cache.stored_leave]
    rw [h.insideCount_without here]
    change (s.without c.id).insideCount + _ + _ + _
      = (s.without c.id).insideCount + (s.cache.leave c.id).isWarm.toNat + _ + _
    rw [hkeep]
    cases c.isInside <;> simp [Event.isStart, Event.isFault, Event.isLoss]
    omega

/-- **Where every enumeration has gone.** -/
theorem count_started (actions : List Action) :
    (({} : KeptCatalog).log actions).countP (·.isStart)
      = (({} : KeptCatalog).log actions).countP (·.isFault)
        + (({} : KeptCatalog).log actions).countP (·.isLoss)
        + (({} : KeptCatalog).run actions).insideCount
        + (({} : KeptCatalog).run actions).cache.isWarm.toNat := by
  induction actions using List.reverseRecOn with
  | nil => rfl
  | append_singleton before a ih =>
    have hstep := (tidy_run before).count_act a
    rw [log_concat, run_concat, List.countP_append, List.countP_append, List.countP_append]
    omega

/-! ## 6. Nobody is forgotten -/

/-- A call that is there is found by its number. -/
theorem Tidy.act_poll (h : s.Tidy) (here : c ∈ s.calls) (inner : Option CatalogAnswer) :
    s.act (.poll c.id inner) = s.pollCall c inner := by
  simp only [KeptCatalog.act]
  cases hf : s.calls.find? (·.id == c.id) with
  | none => exact absurd (List.find?_eq_none.mp hf c here) (by simp)
  | some u =>
    have hid : u.id = c.id := by simpa using List.find?_some hf
    rw [List.inj_on_of_nodup_map h.ids (List.mem_of_find?_eq_some hf) here hid]

/-- At most one call is inside, for whoever is inside has the turn. -/
theorem Tidy.insideCount_le (h : s.Tidy) : s.insideCount ≤ 1 := by
  have hall : ∀ c ∈ s.calls.filter (·.isInside), some c.id = s.cache.holder := by
    intro c hc
    obtain ⟨hmem, hin⟩ := List.mem_filter.mp hc
    exact (h.inside c hmem hin).symm
  have hids := h.ids.sublist ((List.filter_sublist (p := (·.isInside)) (l := s.calls)).map (·.id))
  rw [insideCount, List.countP_eq_length_filter]
  generalize s.calls.filter (·.isInside) = inside at hall hids ⊢
  match inside with
  | [] => exact Nat.zero_le _
  | [c] => exact Nat.le_refl _
  | c :: c' :: rest =>
    have he : some c.id = some c'.id := (hall c (by simp)).trans (hall c' (by simp)).symm
    exact absurd hids (by simp [Option.some.inj he])

/-- Whoever finds an answer returns with it when he is polled. -/
theorem Tidy.returns (h : s.Tidy) (here : c ∈ s.calls) (outside : c.isInside = false)
    {plugins : List PluginDescriptor} (kept : s.cache.stored = some plugins)
    (inner : Option CatalogAnswer) :
    .returned c.id (.ok plugins) ∈ (s.act (.poll c.id inner)).1 := by
  rw [h.act_poll here]
  unfold pollCall
  rw [if_neg (by simp [outside]), Cache.ask_eq_stored kept]
  exact List.mem_singleton_self _

/-- Whoever may have the turn starts an enumeration when he is polled. -/
theorem Tidy.starts (h : s.Tidy) (here : c ∈ s.calls) (outside : c.isInside = false)
    (cold : s.cache.stored = none) (free : s.cache.holder = none ∨ s.cache.holder = some c.id)
    (inner : Option CatalogAnswer) : .started c.id ∈ (s.act (.poll c.id inner)).1 := by
  have hask := Cache.ask_eq_turn cold free
  rw [h.act_poll here]
  unfold pollCall
  rw [if_neg (by simp [outside])]
  generalize s.cache.ask c.id = asked at hask
  obtain ⟨admission, cache⟩ := asked
  cases hask
  cases inner <;> exact List.mem_cons_self

/-- Whoever has the turn returns when he is polled and the catalog behind answers. -/
theorem Tidy.concludes (h : s.Tidy) (here : c ∈ s.calls) (hturn : s.cache.holder = some c.id)
    (answer : CatalogAnswer) : .returned c.id answer ∈ (s.act (.poll c.id (some answer))).1 := by
  rw [h.act_poll here]
  unfold pollCall
  split
  · exact List.mem_cons_of_mem _ List.mem_cons_self
  · have hask := Cache.ask_eq_turn (h.orderly.stored_eq_none hturn) (Or.inr hturn)
    generalize s.cache.ask c.id = asked at hask
    obtain ⟨admission, cache⟩ := asked
    cases hask
    exact List.mem_cons_of_mem _ (List.mem_cons_of_mem _ List.mem_cons_self)

/-- A call can go on: whatever the catalog behind does, when the call is polled it starts an
enumeration or returns. -/
def CanGoOn (s : KeptCatalog) (c : Call) : Prop :=
  ∀ inner, .started c.id ∈ (s.act (.poll c.id inner)).1 ∨
    ∃ answer, .returned c.id answer ∈ (s.act (.poll c.id inner)).1

theorem outside_of_insideCount_eq_zero (hnone : s.insideCount = 0) (here : c ∈ s.calls) :
    c.isInside = false := by
  have hall := List.countP_eq_zero.mp hnone c here
  simpa using hall

/-- **Where nobody is inside, whoever waits can go on**, or else the one who was handed the turn
can. -/
theorem Tidy.exists_free (h : s.Tidy) (hnone : s.insideCount = 0) (here : c ∈ s.calls) :
    s.CanGoOn c ∨ ∃ c' ∈ s.calls, s.cache.holder = some c'.id ∧ s.CanGoOn c' := by
  have outside : ∀ u ∈ s.calls, u.isInside = false :=
    fun u hu => outside_of_insideCount_eq_zero hnone hu
  cases hstored : s.cache.stored with
  | some plugins =>
    exact Or.inl fun inner => Or.inr ⟨_, h.returns here (outside c here) hstored inner⟩
  | none =>
    cases hholder : s.cache.holder with
    | none =>
      exact Or.inl fun inner => Or.inl (h.starts here (outside c here) hstored (Or.inl hholder) inner)
    | some x =>
      obtain ⟨c', here', rfl⟩ := h.known x (by simp [Cache.callers, hholder])
      exact Or.inr ⟨c', here', rfl, fun inner =>
        Or.inl (h.starts here' (outside c' here') hstored (Or.inr hholder) inner)⟩

/-- Nobody but the one who has the turn can be inside. -/
theorem Tidy.insideCount_without_eq_zero (h : s.Tidy) (hturn : s.cache.holder = some c.id) :
    (s.without c.id).insideCount = 0 := by
  refine List.countP_eq_zero.mpr fun u hu hin => ?_
  obtain ⟨hmem, hne⟩ := List.mem_filter.mp hu
  have he := Option.some.inj ((h.inside u hmem hin).symm.trans hturn)
  simp [he] at hne

/-- An enumeration that ends badly: with a fault, or together with its call. -/
def Event.isSetback : Event → Bool
  | ended _ (.error _) | abandoned _ true => true
  | _ => false

/-- **After a setback nobody is inside**, and the turn goes to whoever has waited longest. -/
theorem Tidy.setback (h : s.Tidy) (hsetback : (s.act a).1.any (·.isSetback) = true) :
    (s.act a).2.insideCount = 0 ∧ (s.act a).2.cache.stored = none ∧
      (s.act a).2.cache.holder = s.cache.waiting.head? := by
  have hdid := s.act_did a
  generalize s.act a = outcome at hdid hsetback ⊢
  cases hdid with
  | fetched c here cache answer outside ask =>
    have hasked := h.ask here
    obtain ⟨-, hnone, hwaiting, hturn⟩ := Cache.of_ask_turn ask
    rw [ask] at hasked
    cases answer with
    | ok plugins => exact absurd hsetback (by simp [Event.isSetback])
    | error fault =>
      exact ⟨hasked.insideCount_without_eq_zero hturn, hnone, congrArg List.head? hwaiting⟩
  | concluded c here answer inside =>
    have hturn := h.inside c here inside
    cases answer with
    | ok plugins => exact absurd hsetback (by simp [Event.isSetback])
    | error fault =>
      exact ⟨h.insideCount_without_eq_zero hturn, h.orderly.stored_eq_none hturn, rfl⟩
  | abandoned c here =>
    cases hin : c.isInside with
    | false => exact absurd hsetback (by simp [hin, Event.isSetback])
    | true =>
      have hturn := h.inside c here hin
      refine ⟨h.insideCount_without_eq_zero hturn, ?_, ?_⟩
      · exact (Cache.stored_leave s.cache c.id).trans (h.orderly.stored_eq_none hturn)
      · rw [Cache.leave, if_pos hturn]
        rfl
  | _ => exact absurd hsetback (by simp [Event.isSetback])

/-! ## 7. Runs -/

/-- **The catalog is asked by one call at a time, until it has answered once.**  Take any sequence of
calls, polls and abandonments, where each enumeration may be held up as long as it pleases and end
with any list or any fault, and any action after it.

At most one enumeration is under way.  What is kept stays kept; an answer comes to be kept exactly
when an enumeration succeeds, and from then on none is started.  Every list that is returned is the
one that the first successful enumeration ended with, and every fault that is returned is that with
which an enumeration ended that the call had started itself.  Every enumeration that was started is
under way, or its fault was returned, or its call was abandoned inside, or it is the one whose answer
is kept.  Whoever has the turn and is polled starts an enumeration unless he is inside already, and
returns as soon as the catalog behind answers.  Where none is under way, every call can go on, or one
that waits and was handed the turn can; and when an enumeration ends with a fault or is abandoned,
none is under way and whoever has waited longest starts one when he is polled. -/
theorem enumerates_until_success (actions : List Action) (a : Action) :
    let s := ({} : KeptCatalog).run actions
    let log := ({} : KeptCatalog).log actions
    s.insideCount ≤ 1 ∧
      (∀ plugins, s.cache.stored = some plugins →
        (s.act a).2.cache.stored = some plugins ∧ ∀ id, .started id ∉ (s.act a).1) ∧
      (s.cache.isWarm = false → ((s.act a).2.cache.isWarm = true ↔
        ∃ id plugins, .ended id (.ok plugins) ∈ (s.act a).1)) ∧
      (∀ id plugins, .returned id (.ok plugins) ∈ log →
        log.findSome? Event.success? = some plugins) ∧
      (∀ id fault, .returned id (.error fault) ∈ log →
        [.started id, .ended id (.error fault), .returned id (.error fault)].Sublist log) ∧
      log.countP (·.isStart) =
        log.countP (·.isFault) + log.countP (·.isLoss) + s.insideCount + s.cache.isWarm.toNat ∧
      (∀ c ∈ s.calls, s.cache.holder = some c.id →
        (c.isInside = false → ∀ inner, .started c.id ∈ (s.act (.poll c.id inner)).1) ∧
          ∀ answer, .returned c.id answer ∈ (s.act (.poll c.id (some answer))).1) ∧
      (s.insideCount = 0 → ∀ c ∈ s.calls,
        s.CanGoOn c ∨ ∃ c' ∈ s.calls, s.cache.holder = some c'.id ∧ s.CanGoOn c') ∧
      ((s.act a).1.any (·.isSetback) = true → (s.act a).2.insideCount = 0 ∧
        ∀ x, s.cache.waiting.head? = some x → ∃ c ∈ (s.act a).2.calls, c.id = x ∧
          ∀ inner, .started x ∈ ((s.act a).2.act (.poll x inner)).1) := by
  intro s log
  have h : s.Tidy := tidy_run actions
  have h' := h.act a
  refine ⟨h.insideCount_le, fun plugins kept => ⟨?_, fun id hin => ?_⟩, fun cold => ?_,
    fun id plugins hin => ?_, fun id fault => started_of_fault, count_started actions,
    fun c here hturn => ⟨fun outside => ?_, h.concludes here hturn⟩,
    fun hnone c here => h.exists_free hnone here, fun hsetback => ?_⟩
  · rw [h.stored_act, kept, Option.some_or]
  · exact absurd (kept.symm.trans (stored_of_started hin)) (by simp)
  · have hstored : s.cache.stored = none := by simpa [Cache.isWarm] using cold
    rw [Cache.isWarm, h.stored_act, hstored, Option.none_or, List.findSome?_isSome_iff]
    simp only [Option.isSome_iff_exists, Event.success?_eq_some_iff]
    exact ⟨fun ⟨e, he, plugins, id, heq⟩ => ⟨id, plugins, heq ▸ he⟩,
      fun ⟨id, plugins, he⟩ => ⟨_, he, plugins, id, rfl⟩⟩
  · rw [← stored_run]
    exact stored_of_returned_run hin
  · exact h.starts here outside (h.orderly.stored_eq_none hturn) (Or.inr hturn)
  · obtain ⟨hnone, hcold, hholder⟩ := h.setback hsetback
    refine ⟨hnone, fun x hx => ?_⟩
    have hturn := hholder.trans hx
    obtain ⟨c, here, rfl⟩ := h'.known x (by simp [Cache.callers, hturn])
    exact ⟨c, here, rfl, h'.starts here (outside_of_insideCount_eq_zero hnone here) hcold
      (Or.inr hturn)⟩

/-- Two calls, polled in turn: the second waits for the first. -/
def twoCalls : List Action := [.call, .call, .poll 0 none, .poll 1 none]

/-- When the enumeration of the first call ends with a fault, only that call returns the fault.  The
second starts its own as soon as it is polled, and returns what this one comes up with. -/
theorem enumerates_until_success_takeover :
    let s := ({} : KeptCatalog).run twoCalls
    let fault := CollaboratorFault.unavailable "x"
    let failed := (s.act (.poll 0 (some (.error fault)))).2
    s.cache.waiting = [1] ∧ s.insideCount = 1 ∧ failed.insideCount = 0 ∧
      (∀ inner, .started 1 ∈ (failed.act (.poll 1 inner)).1) ∧
      ∀ plugins, .returned 1 (.ok plugins) ∈ (failed.act (.poll 1 (some (.ok plugins)))).1 := by
  intro s fault failed
  obtain ⟨-, -, -, -, -, -, -, -, hsetback⟩ :=
    enumerates_until_success twoCalls (.poll 0 (some (.error fault)))
  obtain ⟨hnone, hnext⟩ := hsetback rfl
  obtain ⟨-, -, -, hstarts⟩ := hnext 1 rfl
  obtain ⟨-, -, -, -, -, -, hturn, -⟩ :=
    enumerates_until_success (twoCalls ++ [.poll 0 (some (.error fault))]) .call
  obtain ⟨-, hreturns⟩ := hturn { id := 1 } (by decide) rfl
  exact ⟨rfl, rfl, hnone, hstarts, fun plugins => hreturns (.ok plugins)⟩

end KeptCatalog

end PluginArbiter
