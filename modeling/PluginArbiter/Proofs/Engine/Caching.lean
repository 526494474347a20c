/-
# An engine that keeps its list

Engines ask their catalog as any policy does, and so what was said of questions to a policy holds of
them as well.  Two engines are put together from the same parts over the same catalog, and one of
them keeps the list.  Whatever is asked of them directly, and however rules, history, guests and clock
are changed in between, they answer alike.

Operations on dispatchers are left out here, since there the order of tasks shows who waits for
whom, and so is the question how often the catalog was asked, which is what tells the two apart.

Main statements:
* `Catalog.faultsFirst`: a list of plugins fails for a while, or for ever, and then is given;
* `Engine.Alike.apply`: one direct operation is answered alike by both engines;
* `Engine.serve_kept_eq_bare`: the same for any of them, with the number of enumerations.
-/
import PluginArbiter.Proofs.Catalog.Transparency
import PluginArbiter.Proofs.Engine.Frame

namespace PluginArbiter

/-- How many enumerations of a list end with a fault. -/
def Catalog.faultCount (c : Catalog) : ℕ∞ :=
  match c.fault, c.failures with
  | none, _ => 0
  | some _, none => ⊤
  | some _, some n => n

/-- **A list fails for a while, or for ever**, and then is given. -/
theorem Catalog.faultsFirst (c : Catalog) : c.source.FaultsFirst c.faultCount c.plugins := by
  refine ⟨fun number hlt => ?_, fun number hge => ?_⟩ <;>
    simp only [source, answerAt, faultCount] at *
  · split
    · rename_i hnone
      simp [hnone] at hlt
    · rename_i fault hfault
      split
      · exact ⟨fault, rfl⟩
      · rename_i n hn
        simp only [hfault, hn, Nat.cast_lt] at hlt
        exact ⟨fault, if_pos hlt⟩
  · split
    · rfl
    · rename_i fault hfault
      split
      · rename_i hnone
        simp [hfault, hnone] at hge
      · rename_i n hn
        simp only [hfault, hn, Nat.cast_le] at hge
        exact if_neg (Nat.not_lt.mpr hge)

/-! ## 1. Questions that need not wait -/

/-- Whoever asks is served or has the turn. -/
def Supply.IsFree (s : Supply) : Prop := ∀ caller supply, s.ask caller ≠ (.wait, supply)

theorem Supply.isFree_of_uncached {s : Supply} (h : s.cache = none) : s.IsFree := by
  intro caller supply
  simp [ask, h]

theorem Supply.Alike.isFree {k : ℕ∞} {plugins : List PluginDescriptor} {kept bare : Supply}
    (h : kept.Alike k plugins bare) : kept.IsFree := by
  intro caller supply
  cases h with
  | cold _ _ nothing => simp [ask, nothing, Cache.ask]
  | warm _ _ list => simp [ask, list, Cache.ask]

/-- To ask changes nothing about the catalog itself. -/
theorem Supply.catalog_fetchFrom (s : Supply) (source : PluginSource) :
    (s.fetchFrom source).2.catalog = s.catalog := by
  unfold fetchFrom
  split <;> rfl

/-- Then a direct question is answered at once. -/
theorem Hub.fetch_of_isFree {h : Hub} (free : h.supply.IsFree) (judge : Judge) :
    h.fetch judge = (h.supply.fetch.1, { h with supply := h.supply.fetch.2 }) := by
  unfold fetch
  split
  · rename_i supply hwait
    exact absurd hwait (free _ supply)
  · rfl

namespace Engine

/-! ## 2. Direct operations -/

/-- An operation that asks the catalog for the plugins. -/
def Operation.asks : Operation → Bool
  | .resolve _ | .find _ _ => true
  | _ => false

/-- An operation that has to do neither with dispatchers nor with how the catalog is used. -/
def Operation.isDirect : Operation → Bool
  | .catalog | .openGate | .addDispatcher _ _ | .run | .submit _ _ _ | .cancel _ _ | .cancelFrame _ _
  | .shut _ | .pending _ | .drop _ | .dispatcherHandler _ _ | .dropSink _ | .closeReceiver _ => false
  | _ => true

/-- Operations carried out one after the other: what they answer, and the engine after them. -/
def serve (e : Engine) : List Operation → List Reply × Engine
  | [] => ([], e)
  | op :: rest =>
    let (reply, e) := e.apply op
    let (replies, e) := serve e rest
    (reply :: replies, e)

/-- A direct verdict is what comes of the question for it. -/
theorem outcome_verdict (e : Engine) (request : Request) :
    (Policy.Question.verdict e.collaborators request).outcome e.options
        e.hub.supply.catalog.associationsOf e.fetch.1
      = .verdict (e.resolve request).1 := rfl

/-- What is found directly is what comes of the question for candidates. -/
theorem outcome_candidates (e : Engine) (request : Request) (patterns : Bool) :
    (Policy.Question.candidates request.url request.mimeType patterns).outcome e.options
        e.hub.supply.catalog.associationsOf e.fetch.1
      = .candidates (e.find request patterns).1 := rfl

/-! ## 3. Two engines -/

variable {catalog : Catalog} {kept bare : Engine}

/-- Two engines that differ only in how they use the same catalog, one of them keeping the list. -/
structure Alike (catalog : Catalog) (kept bare : Engine) : Prop where
  same : kept = { bare with hub := kept.hub }
  supply : kept.hub.supply.Alike catalog.faultCount catalog.plugins bare.hub.supply
  catalogOfKept : kept.hub.supply.catalog = catalog.source
  catalogOfBare : bare.hub.supply.catalog = catalog.source

/-- How an engine asks where nobody is in line. -/
theorem fetch_of_isFree {e : Engine} (free : e.hub.supply.IsFree) :
    e.fetch = ((e.hub.supply.fetchFrom e.hub.supply.catalog).1,
      { e with hub :=
        { e.hub with supply := (e.hub.supply.fetchFrom e.hub.supply.catalog).2 } }) := by
  rw [fetch, Hub.fetch_of_isFree free, Supply.fetch_eq_fetchFrom]

/-- **Both are told the same**, and stay alike. -/
theorem Alike.fetch (h : Alike catalog kept bare) :
    kept.fetch.1 = bare.fetch.1 ∧ Alike catalog kept.fetch.2 bare.fetch.2 ∧
      bare.fetch.2.hub.supply.started = bare.hub.supply.started + 1 := by
  obtain ⟨htold, hstill⟩ := h.supply.fetch catalog.faultsFirst
  rw [fetch_of_isFree h.supply.isFree, h.catalogOfKept,
    fetch_of_isFree (Supply.isFree_of_uncached h.supply.uncached), h.catalogOfBare]
  refine ⟨htold, ⟨?_, hstill, ?_, ?_⟩, Supply.started_fetchFrom h.supply.uncached _⟩
  · rw [h.same]
  · exact (Supply.catalog_fetchFrom ..).trans h.catalogOfKept
  · exact (Supply.catalog_fetchFrom ..).trans h.catalogOfBare

/-- Verdicts and candidates are the same for both. -/
theorem Alike.outcome_eq (h : Alike catalog kept bare) (request : Request) (patterns : Bool) :
    (kept.resolve request).1 = (bare.resolve request).1 ∧
      (kept.find request patterns).1 = (bare.find request patterns).1 := by
  have hoptions : kept.options = bare.options := (congrArg options h.same :)
  have hcollaborators : kept.collaborators = bare.collaborators :=
    (congrArg collaborators h.same :)
  have hverdict := kept.outcome_verdict request
  have hfound := kept.outcome_candidates request patterns
  rw [h.fetch.1, h.catalogOfKept, ← h.catalogOfBare, hoptions] at hverdict hfound
  rw [hcollaborators] at hverdict
  exact ⟨Policy.Outcome.verdict.inj (hverdict.symm.trans (bare.outcome_verdict request)),
    Policy.Outcome.candidates.inj (hfound.symm.trans (bare.outcome_candidates request patterns))⟩

/-- How a search is answered. -/
theorem apply_find_reply (e : Engine) (request : Request) (patterns : Bool) :
    (e.apply (.find request patterns)).1 =
      match (e.find request patterns).1 with
      | .ok cs => .candidates cs
      | .error f => .fault f := by
  simp only [apply]
  split <;> rename_i hanswer <;> rw [hanswer]

/-- **One direct operation** is answered alike by both, and leaves them alike. -/
theorem Alike.apply (h : Alike catalog kept bare) {op : Operation} (direct : op.isDirect = true) :
    (kept.apply op).1 = (bare.apply op).1 ∧ Alike catalog (kept.apply op).2 (bare.apply op).2 ∧
      (bare.apply op).2.hub.supply.started = bare.hub.supply.started + op.asks.toNat := by
  obtain ⟨-, hstill, hstarted⟩ := h.fetch
  cases op with
  | resolve request =>
    exact ⟨congrArg Reply.verdict (h.outcome_eq request true).1, hstill, hstarted⟩
  | find request patterns =>
    rw [apply_find, apply_find, apply_find_reply, apply_find_reply, (h.outcome_eq request patterns).2]
    exact ⟨rfl, hstill, hstarted⟩
  | _ =>
    -- no other direct operation looks at the hub, and the rest is the same in both
    first
    | exact absurd direct Bool.false_ne_true
    | obtain ⟨hsame, hsupply, hkept, hbare⟩ := h
      generalize kept.hub = hub at hsame hsupply hkept
      subst hsame
      exact ⟨rfl, ⟨rfl, hsupply, hkept, hbare⟩, rfl⟩

/-- The same for any direct operations. -/
theorem Alike.serve (h : Alike catalog kept bare) {ops : List Operation}
    (direct : ∀ op ∈ ops, op.isDirect = true) :
    (kept.serve ops).1 = (bare.serve ops).1 ∧
      Alike catalog (kept.serve ops).2 (bare.serve ops).2 ∧
      (bare.serve ops).2.hub.supply.started = bare.hub.supply.started + ops.countP (·.asks) := by
  induction ops generalizing kept bare with
  | nil => exact ⟨rfl, h, rfl⟩
  | cons op rest ih =>
    obtain ⟨hfirst, hrest⟩ := List.forall_mem_cons.mp direct
    obtain ⟨hreply, hstill, hstarted⟩ := h.apply hfirst
    obtain ⟨hreplies, hafter, hall⟩ := ih hstill hrest
    refine ⟨congrArg₂ List.cons hreply hreplies, hafter, ?_⟩
    rw [Engine.serve, hall, hstarted, List.countP_cons, Nat.add_assoc, Nat.add_comm op.asks.toNat]
    cases op.asks <;> rfl

/-- **An engine that keeps its list answers like one that does not.**  Take any engine over any
list of plugins, which may fail for a while or for ever, and any direct operations: questions for
verdicts and candidates, and changes of rules, history, guests and clock between them.  All replies
are the same whether the list is kept or not.  The catalog is asked once for each question where it
is not, and where it is, no more than once after the last fault. -/
theorem serve_kept_eq_bare (e : Engine) (catalog : Catalog) {ops : List Operation}
    (direct : ∀ op ∈ ops, op.isDirect = true) :
    let start := fun cached => { e with hub := { supply := .ofCatalog catalog cached false } }
    let kept := (start true).serve ops
    let bare := (start false).serve ops
    kept.1 = bare.1 ∧ bare.2.hub.supply.started = ops.countP (·.asks) ∧
      (kept.2.hub.supply.started : ℕ∞)
        = min (ops.countP (·.asks) : ℕ∞) (catalog.faultCount + 1) := by
  intro start kept bare
  have hstart : Alike catalog (start true) (start false) :=
    ⟨rfl, .cold zero_le rfl rfl rfl, rfl, rfl⟩
  obtain ⟨hreplies, hafter, hall⟩ := hstart.serve direct
  have hasked : bare.2.hub.supply.started = ops.countP (·.asks) := hall.trans (Nat.zero_add _)
  refine ⟨hreplies, hasked, ?_⟩
  rw [hafter.supply.started_eq_min]
  exact congrArg (fun n : ℕ => min (n : ℕ∞) (catalog.faultCount + 1)) hasked

end Engine

end PluginArbiter
