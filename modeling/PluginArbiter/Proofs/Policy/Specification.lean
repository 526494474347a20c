/-
# What the policy decides

A verdict is settled by who is chosen among the candidates and by what three collaborators answer,
each of which may also fail.  This module says, without any search, who is chosen (`Choice`) and
which answers lead to which status.

The order in which the answers count is not that in which they are asked for.  A legacy plugin on an
isolated surface is refused even where it is not available.  That a plugin is unstable, or that the
surface is isolated, counts against any other plugin only where it is available; if it is not, it
stays disabled.

Main statements:
* `choice_of_choose`, `Choice.unique`: the search finds the one candidate that is chosen;
* `lowered_eq_allowed_iff`, `lowered_eq_unauthorized_iff`, `lowered_eq_disabled_iff`;
* `judge_meets_specification`: the whole of it, for all catalogs, collaborators and requests.
-/
import PluginArbiter.Policy

namespace PluginArbiter.Policy

variable {c : Collaborators} {request : Request} {cs : List Candidate} {chosen : Candidate}

/-! ## 1. Who is chosen -/

/-- The filter lets a candidate through: it says so plainly, or there is no filter. -/
def Available (c : Collaborators) (request : Request) (candidate : Candidate) : Prop :=
  ∀ filter, c.available = some filter → filter request candidate.plugin = .ok true

/-- Who is chosen: the first available candidate, or where none is available the first of all. -/
inductive Choice (c : Collaborators) (request : Request) : List Candidate → Candidate → Prop
  | available (before after : List Candidate) (chosen : Candidate)
    (isAvailable : Available c request chosen)
    (first : ∀ other ∈ before, ¬ Available c request other) :
    Choice c request (before ++ chosen :: after) chosen
  | fallback (chosen : Candidate) (rest : List Candidate)
    (unavailable : ∀ other ∈ chosen :: rest, ¬ Available c request other) :
    Choice c request (chosen :: rest) chosen

theorem available_of_no_filter (h : c.available = none) (candidate : Candidate) :
    Available c request candidate :=
  fun _ hf => absurd (h.symm.trans hf) (by simp)

theorem available_iff_grants {filter : Request → PluginDescriptor → Answer}
    (h : c.available = some filter) (candidate : Candidate) :
    Available c request candidate ↔ (filter request candidate.plugin).grants = true := by
  rw [Answer.grants_iff]
  constructor
  · exact fun ha => ha filter h
  · intro hok filter' h'
    rwa [← Option.some.inj (h.symm.trans h')]

/-- What the search for an available candidate finds is available, and nothing before it is. -/
theorem split_of_firstAvailable (h : firstAvailable c request cs = some chosen) :
    ∃ before after, cs = before ++ chosen :: after ∧ Available c request chosen ∧
      ∀ other ∈ before, ¬ Available c request other := by
  unfold firstAvailable at h
  split at h
  · rename_i hnone
    obtain ⟨rest, rfl⟩ := List.head?_eq_some_iff.mp h
    exact ⟨[], rest, rfl, available_of_no_filter hnone chosen, by simp⟩
  · rename_i filter hfilter
    obtain ⟨hgrants, before, after, rfl, hbefore⟩ := List.find?_eq_some_iff_append.mp h
    refine ⟨before, after, rfl, (available_iff_grants hfilter chosen).mpr hgrants, fun other ho => ?_⟩
    rw [available_iff_grants hfilter]
    simpa using hbefore other ho

/-- Where the search finds nothing, nothing is available. -/
theorem unavailable_of_firstAvailable (h : firstAvailable c request cs = none) :
    ∀ other ∈ cs, ¬ Available c request other := by
  unfold firstAvailable at h
  split at h
  · rw [List.head?_eq_none_iff.mp h]
    simp
  · rename_i filter hfilter
    intro other ho
    rw [available_iff_grants hfilter]
    simpa using List.find?_eq_none.mp h other ho

/-- **The search finds who is chosen**, and says rightly whether he is available. -/
theorem choice_of_choose {available : Bool} (h : choose c request cs = some (chosen, available)) :
    Choice c request cs chosen ∧ (available = true ↔ Available c request chosen) := by
  unfold choose at h
  split at h
  · rename_i candidate hfirst
    obtain ⟨rfl, rfl⟩ := Prod.mk.inj (Option.some.inj h)
    obtain ⟨before, after, rfl, havailable, hbefore⟩ := split_of_firstAvailable hfirst
    exact ⟨.available before after candidate havailable hbefore, by simp [havailable]⟩
  · rename_i hnone
    have hall := unavailable_of_firstAvailable hnone
    cases cs with
    | nil => exact absurd h (by simp)
    | cons first rest =>
      obtain ⟨rfl, rfl⟩ := Prod.mk.inj (Option.some.inj h)
      exact ⟨.fallback first rest hall, by simp [hall first List.mem_cons_self]⟩

/-- Of two candidates before which nothing is available, neither comes before the other. -/
theorem first_available_unique {before before' after after' : List Candidate}
    {chosen' : Candidate} (he : before ++ chosen :: after = before' ++ chosen' :: after')
    (ha : Available c request chosen) (hb : ∀ other ∈ before, ¬ Available c request other)
    (ha' : Available c request chosen') (hb' : ∀ other ∈ before', ¬ Available c request other) :
    chosen' = chosen := by
  induction before generalizing before' with
  | nil =>
    cases before' with
    | nil => exact (List.cons.inj he).1.symm
    | cons x xs =>
      obtain ⟨rfl, -⟩ := List.cons.inj he
      exact absurd ha (hb' chosen List.mem_cons_self)
  | cons x xs ih =>
    cases before' with
    | nil =>
      obtain ⟨rfl, -⟩ := List.cons.inj he
      exact absurd ha' (hb x List.mem_cons_self)
    | cons y ys =>
      exact ih (List.cons.inj he).2 (fun o ho => hb o (List.mem_cons_of_mem _ ho))
        fun o ho => hb' o (List.mem_cons_of_mem _ ho)

/-- **There is at most one who is chosen.** -/
theorem Choice.unique {chosen' : Candidate} (h : Choice c request cs chosen)
    (h' : Choice c request cs chosen') : chosen' = chosen := by
  generalize hcs : cs = cs' at h'
  cases h with
  | available before after _ ha hb =>
    cases h' with
    | available before' after' _ ha' hb' => exact first_available_unique hcs ha hb ha' hb'
    | fallback _ rest hnone =>
      exact absurd ha (hnone chosen (hcs ▸ by simp))
  | fallback _ rest hnone =>
    cases h' with
    | available before' after' _ ha' hb' => exact absurd ha' (hnone chosen' (hcs ▸ by simp))
    | fallback _ rest' _ => exact (List.cons.inj hcs).1.symm

/-! ## 2. What trust makes of it -/

/-- The status of whoever is chosen, before trust is looked at. -/
def untrusted (available : Bool) : Status := if available then .allowed else .disabled

section Lowered

variable (legacy isolated unstable available : Bool)

theorem lowered_eq_allowed_iff :
    lowered legacy isolated unstable (untrusted available) = .allowed ↔
      available = true ∧ isolated = false ∧ unstable = false := by
  cases legacy <;> cases isolated <;> cases unstable <;> cases available <;> decide

theorem lowered_eq_unauthorized_iff :
    lowered legacy isolated unstable (untrusted available) = .unauthorized ↔
      (isolated = true ∧ (available = true ∨ legacy = true)) ∨
        (available = true ∧ unstable = true) := by
  cases legacy <;> cases isolated <;> cases unstable <;> cases available <;> decide

theorem lowered_eq_disabled_iff :
    lowered legacy isolated unstable (untrusted available) = .disabled ↔
      available = false ∧ ¬ (isolated = true ∧ legacy = true) := by
  cases legacy <;> cases isolated <;> cases unstable <;> cases available <;> decide

end Lowered

/-! ## 3. The verdict -/

/-- The candidates of a request; there are none where the catalog fails. -/
def considered (associationsOf : PluginDescriptor → List MimeAssociation) (request : Request)
    (answer : Except CollaboratorFault (List PluginDescriptor)) : List Candidate :=
  match answer with
  | .ok plugins => candidates associationsOf request.url request.mimeType true plugins
  | .error _ => []

theorem judge_eq_decide (options : PolicyOptions) (c : Collaborators)
    (associationsOf : PluginDescriptor → List MimeAssociation) (request : Request)
    (answer : Except CollaboratorFault (List PluginDescriptor)) :
    judge options c associationsOf request answer
      = Policy.decide options c request (considered associationsOf request answer) := by
  cases answer <;> rfl

/-- **Without candidates** the verdict names nothing. -/
theorem withoutCandidates_spec (options : PolicyOptions) (mime : String) :
    (withoutCandidates options mime).plugin = none ∧
      (withoutCandidates options mime).mimeType = "" ∧
      ((withoutCandidates options mime).status = .npapiNotSupported ↔
        options.legacySupported = false ∧ mime ∈ options.legacyCapableTypes) ∧
      ((withoutCandidates options mime).status = .notFound ↔
        ¬ (options.legacySupported = false ∧ mime ∈ options.legacyCapableTypes)) := by
  have hreports : options.reportsLegacyUnsupported mime = true ↔
      options.legacySupported = false ∧ mime ∈ options.legacyCapableTypes := by
    simp [PolicyOptions.reportsLegacyUnsupported]
  unfold withoutCandidates
  rw [← hreports]
  cases options.reportsLegacyUnsupported mime <;> simp [Verdict.without]

/-- **With candidates** the verdict is on the one that is chosen. -/
theorem decide_spec (options : PolicyOptions) (c : Collaborators) (request : Request)
    (hne : cs ≠ []) :
    ∃ chosen, Choice c request cs chosen ∧
      (Policy.decide options c request cs).plugin = some chosen.plugin ∧
      (Policy.decide options c request cs).mimeType = chosen.mimeType ∧
      ∃ available, (available = true ↔ Available c request chosen) ∧
        (Policy.decide options c request cs).status =
          lowered chosen.plugin.kind.isLegacy (c.isolated request.process).suspects
            (c.unstable chosen.plugin.id).suspects (untrusted available) := by
  cases hchoose : choose c request cs with
  | none => exact absurd (choose_eq_none_iff.mp hchoose) hne
  | some result =>
    obtain ⟨chosen, available⟩ := result
    obtain ⟨hchoice, havailable⟩ := choice_of_choose hchoose
    refine ⟨chosen, hchoice, ?_, ?_, available, havailable, ?_⟩
    · simp [Policy.decide, hchoose, Verdict.on]
    · simp [Policy.decide, hchoose, Verdict.on]
    · simp [Policy.decide, hchoose, Verdict.on, untrusted]

/-- **What the policy decides**, for every catalog and every answer of the collaborators.

Without candidates the verdict names no plugin and no type; it says that legacy plugins are not
supported exactly where they are not and the type asked for is one that only they could have
served, and that nothing was found otherwise.

With candidates there is exactly one who is chosen, and the verdict names his plugin and his type.
He is allowed exactly when he is available and both the surface and the plugin are plainly trusted.
He is refused exactly when the surface is not plainly trusted and he is available or of a legacy
kind, or when he is available and the plugin is not plainly trusted.  Otherwise he is disabled. -/
theorem judge_meets_specification (options : PolicyOptions) (c : Collaborators)
    (associationsOf : PluginDescriptor → List MimeAssociation) (request : Request)
    (answer : Except CollaboratorFault (List PluginDescriptor)) :
    let cs := considered associationsOf request answer
    let verdict := judge options c associationsOf request answer
    (cs = [] →
      verdict.plugin = none ∧ verdict.mimeType = "" ∧
        (verdict.status = .npapiNotSupported ↔
          options.legacySupported = false ∧ request.mimeType ∈ options.legacyCapableTypes) ∧
        (verdict.status = .notFound ↔
          ¬ (options.legacySupported = false ∧ request.mimeType ∈ options.legacyCapableTypes))) ∧
      (cs ≠ [] → ∃ chosen, Choice c request cs chosen ∧
        (∀ other, Choice c request cs other → other = chosen) ∧
        verdict.plugin = some chosen.plugin ∧ verdict.mimeType = chosen.mimeType ∧
        (verdict.status = .allowed ↔ Available c request chosen ∧
          c.isolated request.process = .ok false ∧ c.unstable chosen.plugin.id = .ok false) ∧
        (verdict.status = .unauthorized ↔
          (c.isolated request.process ≠ .ok false ∧
              (Available c request chosen ∨ chosen.plugin.kind.isLegacy = true)) ∨
            (Available c request chosen ∧ c.unstable chosen.plugin.id ≠ .ok false)) ∧
        (verdict.status = .disabled ↔ ¬ Available c request chosen ∧
          ¬ (c.isolated request.process ≠ .ok false ∧ chosen.plugin.kind.isLegacy = true))) := by
  intro cs verdict
  have hverdict : verdict = Policy.decide options c request cs := judge_eq_decide ..
  constructor
  · intro hempty
    have hnone : choose c request cs = none := choose_eq_none_iff.mpr hempty
    have hwithout : verdict = withoutCandidates options request.mimeType := by
      rw [hverdict, Policy.decide, hnone]
    rw [hwithout]
    exact withoutCandidates_spec options request.mimeType
  · intro hne
    obtain ⟨chosen, hchoice, hplugin, hmime, available, havailable, hstatus⟩ :=
      decide_spec options c request hne
    rw [hverdict]
    refine ⟨chosen, hchoice, fun other ho => hchoice.unique ho, hplugin, hmime, ?_, ?_, ?_⟩
    · rw [hstatus, lowered_eq_allowed_iff, havailable, Answer.trusts_iff, Answer.trusts_iff]
    · rw [hstatus, lowered_eq_unauthorized_iff, havailable, Answer.suspects_iff,
        Answer.suspects_iff]
    · rw [hstatus, lowered_eq_disabled_iff, ← Bool.not_eq_true, havailable, Answer.suspects_iff]

/-- A second plugin is chosen where the first is not available, and refused where nobody knows
whether the surface is isolated. -/
theorem judge_meets_specification_unknown_surface :
    let first : PluginDescriptor := { id := ⟨"p"⟩ }
    let second : PluginDescriptor := { id := ⟨"q"⟩ }
    let c : Collaborators :=
      { available := some fun _ plugin => .ok (plugin.id ≠ ⟨"p"⟩)
        unstable := fun _ => .ok false
        isolated := fun _ => .error (.failed "") }
    let request : Request := { (default : Request) with mimeType := "a" }
    let verdict := judge {} c (fun _ => [{ mimeType := "a" }]) request (.ok [first, second])
    verdict.plugin = some second ∧ verdict.status = .unauthorized := by
  intro first second c request verdict
  obtain ⟨-, hsome⟩ := judge_meets_specification {} c (fun _ => [{ mimeType := "a" }]) request
    (.ok [first, second])
  obtain ⟨chosen, -, hunique, hplugin, -, -, hunauthorized, -⟩ := hsome (by decide)
  have havailable : Available c request ⟨second, "a"⟩ := by
    rintro filter ⟨⟩
    rfl
  have hother : ∀ other ∈ [⟨first, "a"⟩], ¬ Available c request other := by
    intro other ho ha
    rw [List.mem_singleton.mp ho] at ha
    exact absurd (ha _ rfl) (by simp [first])
  have hchosen := hunique _ (.available [⟨first, "a"⟩] [] ⟨second, "a"⟩ havailable hother)
  refine ⟨?_, hunauthorized.mpr (Or.inl ⟨by simp [c], Or.inl ?_⟩)⟩
  · rw [hplugin, ← hchosen]
  · rw [← hchosen]
    exact havailable

end PluginArbiter.Policy
