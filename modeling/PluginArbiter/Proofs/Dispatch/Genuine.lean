/-
# The list that is kept is the catalog's

An answer that is kept comes from some enumeration, of one task or of a direct call, and is handed
to all who ask later.  So whatever is kept is a list that the catalog has given (`Genuine`), in
whatever order the catalog was asked, failed, or was given up on.  Every step keeps this up; so does
letting all tasks run, and so does a direct call.

For a catalog that answers all enumerations alike it follows that everybody is given that answer:
those who find it kept, those who enumerate, and those who ask directly.

Main statements:
* `genuine_act`, `genuine_run`, `genuine_settle`: what is kept stays a list of the catalog;
* `genuine_fetch`: so it does when someone asks directly, and he is given what the catalog answers;
* `polled_verdict`: every task is judged by that.
-/
import PluginArbiter.Proofs.Dispatch.Settling

namespace PluginArbiter

/-! ## 1. The supply -/

namespace Supply

variable {catalog : PluginSource} {s : Supply}

/-- A supply of this catalog, in which nothing is kept but a list that the catalog gives. -/
structure Genuine (catalog : PluginSource) (s : Supply) : Prop where
  source : s.catalog = catalog
  kept : ∀ c, s.cache = some c → ∀ plugins, c.stored = some plugins →
    ∃ number, catalog.answerAt number = .ok plugins

theorem genuine_ofSource (catalog : PluginSource) (cached gated : Bool) :
    (ofSource catalog cached gated).Genuine catalog := by
  refine ⟨rfl, fun c hc plugins hp => ?_⟩
  cases cached with
  | false => exact absurd hc (by simp [ofSource])
  | true =>
    obtain rfl := Option.some.inj hc
    exact absurd hp (by simp)

theorem Genuine.start (h : s.Genuine catalog) : s.start.2.Genuine catalog := ⟨h.source, h.kept⟩

theorem Genuine.openGate (h : s.Genuine catalog) : s.openGate.Genuine catalog := ⟨h.source, h.kept⟩

theorem Genuine.ask (h : s.Genuine catalog) {caller : Nat}
    {admission : Admission (List PluginDescriptor)} {s' : Supply}
    (hask : s.ask caller = (admission, s')) : s'.Genuine catalog := by
  obtain ⟨cache, rfl, hkept⟩ := ask_frame hask
  refine ⟨h.source, fun c' hc' plugins hp => ?_⟩
  -- what is kept now was kept before
  rw [show cache = some c' from hc', Option.bind_some, hp] at hkept
  obtain ⟨c, hc, hp⟩ := Option.bind_eq_some_iff.mp hkept.symm
  exact h.kept c hc plugins hp

theorem Genuine.leave (h : s.Genuine catalog) (caller : Nat) : (s.leave caller).Genuine catalog := by
  refine ⟨h.source, fun c' hc' plugins hp => ?_⟩
  obtain ⟨c, hc, rfl⟩ := Option.map_eq_some_iff.mp hc'
  rw [Cache.stored_leave] at hp
  exact h.kept c hc plugins hp

/-- What an enumeration of the catalog ended with may be kept. -/
theorem Genuine.finish (h : s.Genuine catalog) (number : Nat) :
    (s.finish (catalog.answerAt number)).Genuine catalog := by
  refine ⟨h.source, fun c' hc' plugins hp => ?_⟩
  obtain ⟨c, hc, rfl⟩ := Option.map_eq_some_iff.mp hc'
  rcases Cache.stored_finish hp with hold | hnew
  · exact h.kept c hc plugins hold
  · exact ⟨number, hnew⟩

/-- Whoever is given what is kept is given a list of the catalog. -/
theorem Genuine.stored (h : s.Genuine catalog) {caller : Nat} {plugins : List PluginDescriptor}
    {s' : Supply} (hask : s.ask caller = (.stored plugins, s')) :
    ∃ number, catalog.answerAt number = .ok plugins := by
  obtain ⟨c, hc, hp⟩ := Option.bind_eq_some_iff.mp (kept_of_ask_stored hask)
  exact h.kept c hc plugins hp

/-- **Asking and having the answer at once.** -/
theorem Genuine.fetch (h : s.Genuine catalog) :
    s.fetch.2.Genuine catalog ∧ ∃ number, s.fetch.1 = catalog.answerAt number := by
  unfold Supply.fetch
  cases hstored : s.cache.bind (·.stored) with
  | some plugins =>
    obtain ⟨c, hc, hp⟩ := Option.bind_eq_some_iff.mp hstored
    obtain ⟨number, hnumber⟩ := h.kept c hc plugins hp
    exact ⟨h, number, hnumber.symm⟩
  | none =>
    have hfinish := h.start.finish s.started
    simp only [Supply.start, h.source] at hfinish ⊢
    exact ⟨hfinish, s.started, rfl⟩

end Supply

/-! ## 2. Steps and runs -/

namespace Hub

variable {catalog : PluginSource} {h : Hub}

/-- What is kept stays a list of the catalog when a task is polled. -/
theorem genuine_pollTask (hg : h.supply.Genuine catalog) (judge : Judge) (t : Task) :
    (h.pollTask judge t).2.supply.Genuine catalog := by
  have hp := pollTask_polled judge h t
  generalize h.pollTask judge t = outcome at hp ⊢
  cases hp with
  | withdrawn cancelled =>
    rw [supply_withdraw]
    exact hg.leave t.id
  | held live number stage closed => exact hg
  | answered live number stage isOpen =>
    rw [Hub.finish, supply_conclude, hg.source]
    exact hg.finish number
  | served live stage plugins supply ask =>
    rw [supply_conclude]
    exact hg.ask ask
  | waiting live stage supply ask => exact hg.ask ask
  | started live stage supply ask closed => exact (hg.ask ask).start
  | enumerated live stage supply ask isOpen =>
    have hstart := (hg.ask ask).start
    rw [Hub.finish, supply_conclude, hstart.source]
    exact hstart.finish _

theorem supply_serve (h : Hub) (p : Nat) (d : Dispatcher) (call : Call) :
    (h.serve p d call).2.supply = h.supply := by
  rw [serve_eq]
  rfl

/-- **What is kept stays a list of the catalog in every step.** -/
theorem genuine_act (hg : h.supply.Genuine catalog) (a : Action) :
    (h.act a).2.supply.Genuine catalog := by
  cases a with
  | addDispatcher process handlers => exact hg
  | call p call =>
    simp only [act]
    split
    · exact hg
    · rw [supply_serve]
      exact hg
  | openGate => exact hg.openGate
  | poll judge id =>
    simp only [act]
    split
    · exact hg
    · exact genuine_pollTask hg judge _

theorem genuine_run (hg : h.supply.Genuine catalog) (actions : List Action) :
    (h.run actions).supply.Genuine catalog := by
  induction actions generalizing h with
  | nil => exact hg
  | cons a rest ih => exact ih (genuine_act hg a)

theorem genuine_settle (hg : h.supply.Genuine catalog) (judge : Judge) :
    (settle judge h).supply.Genuine catalog := by
  obtain ⟨ids, hids⟩ := settle_eq_run judge h
  rw [hids]
  exact genuine_run hg _

/-- **A direct call** leaves kept what the catalog gave, and is given an answer of the catalog, whoever
has the turn and whatever becomes of those in line. -/
theorem genuine_fetch (hg : h.supply.Genuine catalog) (judge : Judge) :
    (h.fetch judge).2.supply.Genuine catalog ∧
      ∃ number, (h.fetch judge).1 = catalog.answerAt number := by
  unfold Hub.fetch
  cases hask : h.supply.ask h.nextTask with
  | mk admission supply =>
    cases admission with
    | stored plugins => exact hg.fetch
    | turn => exact hg.fetch
    | wait => exact (genuine_settle (h := { h with supply }) (hg.ask hask) judge).fetch

/-! ## 3. The answer that tasks are judged by -/

/-- **Every task is judged by an answer of the catalog.** -/
theorem polled_verdict (hg : h.supply.Genuine catalog) {judge : Judge} {t : Task}
    {how : Dispatcher.Conclusion} {verdict : Verdict}
    (hend : (h.pollTask judge t).1 = .concluded how verdict) :
    ∃ number, verdict = judge t.submission.request (catalog.answerAt number) := by
  have hp := pollTask_polled judge h t
  generalize h.pollTask judge t = outcome at hp hend
  cases hp with
  | withdrawn cancelled => exact absurd hend (by simp)
  | held live number stage closed => exact absurd hend (by simp)
  | answered live number stage isOpen =>
    exact ⟨number, by rw [conclude_verdict hend, hg.source]⟩
  | served live stage plugins supply ask =>
    obtain ⟨number, hnumber⟩ := hg.stored ask
    exact ⟨number, by rw [conclude_verdict hend, hnumber]⟩
  | waiting live stage supply ask => exact absurd hend (by simp)
  | started live stage supply ask closed => exact absurd hend (by simp)
  | enumerated live stage supply ask isOpen =>
    exact ⟨supply.start.1, by rw [conclude_verdict hend, (hg.ask ask).start.source]⟩

end Hub

end PluginArbiter
