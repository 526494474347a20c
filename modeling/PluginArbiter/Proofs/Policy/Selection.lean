/-
# Trust does not choose

Two of the three collaborators speak of trust: one says which plugins have become unstable, one
which processes belong to an isolated surface.  Neither has a say in who is chosen.  The search for
a candidate asks the filter alone, so whatever crashes are reported, guests are registered, or
faults these two answer with, a request is never redirected to another plugin (`choose_congr`).

What they do have a say in is the status, and there they can only take away.  A fault counts as a
suspicion, so an answer is as strict as it can be when it is a fault or a plain yes, and of two
pairs of collaborators the one that suspects more allows less (`lowered_allowed_mono`).  A plugin
that is not available is out of their reach: they may refuse it but cannot allow it.

The options of the policy are looked at only where there is nobody to choose.

Main statements:
* `choose_congr`: the choice depends on the filter alone;
* `lowered_allowed_mono`, `lowered_disabled`: what trust can make of a status;
* `judge_trust_only_lowers`: two verdicts that differ in trust and options.
-/
import PluginArbiter.Proofs.Policy.Specification

namespace PluginArbiter

/-- The trust collaborators of `c'` are at least as strict as those of `c`: they suspect every
plugin and every process that those suspect. -/
structure Collaborators.SuspectsNoMoreThan (c c' : Collaborators) : Prop where
  unstable : ∀ id, (c.unstable id).suspects = true → (c'.unstable id).suspects = true
  isolated : ∀ process, (c.isolated process).suspects = true → (c'.isolated process).suspects = true

namespace Policy

variable {c c' : Collaborators} {request : Request} {cs : List Candidate}

/-! ## 1. The choice -/

/-- **The choice depends on the filter alone.** -/
theorem choose_congr (same : c'.available = c.available) :
    choose c' request cs = choose c request cs := by
  unfold choose firstAvailable
  rw [same]

/-- Where nobody is chosen the verdict is read off the options. -/
theorem decide_of_choose_none (options : PolicyOptions) (h : choose c request cs = none) :
    Policy.decide options c request cs = withoutCandidates options request.mimeType := by
  rw [Policy.decide, h]

/-- The verdict on one who is chosen. -/
def verdictOn (c : Collaborators) (request : Request) (chosen : Candidate) (available : Bool) :
    Verdict :=
  .on (lowered chosen.plugin.kind.isLegacy (c.isolated request.process).suspects
    (c.unstable chosen.plugin.id).suspects (untrusted available)) chosen.plugin chosen.mimeType

/-- Where somebody is chosen the verdict is on him, and the options play no part. -/
theorem decide_of_choose_some (options : PolicyOptions) {chosen : Candidate} {available : Bool}
    (h : choose c request cs = some (chosen, available)) :
    Policy.decide options c request cs = verdictOn c request chosen available := by
  rw [Policy.decide, h]
  rfl

/-- The options are looked at only where there is no candidate. -/
theorem decide_options (options options' : PolicyOptions) (hne : cs ≠ []) :
    Policy.decide options' c request cs = Policy.decide options c request cs := by
  cases h : choose c request cs with
  | none => exact absurd (choose_eq_none_iff.mp h) hne
  | some result => rw [decide_of_choose_some options' h, decide_of_choose_some options h]

/-! ## 2. The status -/

/-- **Who suspects more allows less.** -/
theorem lowered_allowed_mono {legacy isolated unstable isolated' unstable' available : Bool}
    (hisolated : isolated = true → isolated' = true)
    (hunstable : unstable = true → unstable' = true)
    (h : lowered legacy isolated' unstable' (untrusted available) = .allowed) :
    lowered legacy isolated unstable (untrusted available) = .allowed := by
  rw [lowered_eq_allowed_iff] at h ⊢
  obtain ⟨havailable, hi, hu⟩ := h
  refine ⟨havailable, Bool.eq_false_iff.mpr fun ht => ?_, Bool.eq_false_iff.mpr fun ht => ?_⟩
  · exact Bool.false_ne_true (hi.symm.trans (hisolated ht))
  · exact Bool.false_ne_true (hu.symm.trans (hunstable ht))

/-- **Who is disabled by anybody is not available**, and whatever trust says then, he is disabled or
refused. -/
theorem lowered_disabled {legacy isolated unstable isolated' unstable' available : Bool}
    (h : lowered legacy isolated unstable (untrusted available) = .disabled) :
    lowered legacy isolated' unstable' (untrusted available) = .disabled ∨
      lowered legacy isolated' unstable' (untrusted available) = .unauthorized := by
  have hunavailable : available = false := (lowered_eq_disabled_iff ..).mp h |>.1
  rw [lowered_eq_disabled_iff, lowered_eq_unauthorized_iff, hunavailable]
  cases isolated' <;> cases legacy <;> simp

/-! ## 3. Two verdicts -/

/-- Where nobody comes into question trust is not looked at, and otherwise both verdicts are on the
one that both choose. -/
theorem decide_cases (options options' : PolicyOptions) (request : Request) (cs : List Candidate)
    (same : c'.available = c.available) :
    (Policy.decide options c request cs = withoutCandidates options request.mimeType ∧
      Policy.decide options' c' request cs = withoutCandidates options' request.mimeType) ∨
      ∃ chosen available,
        Policy.decide options c request cs = verdictOn c request chosen available ∧
          Policy.decide options' c' request cs = verdictOn c' request chosen available := by
  have hsame : choose c' request cs = choose c request cs := choose_congr same
  cases h : choose c request cs with
  | none =>
    exact Or.inl ⟨decide_of_choose_none options h, decide_of_choose_none options' (hsame.trans h)⟩
  | some result =>
    exact Or.inr ⟨result.1, result.2, decide_of_choose_some options h,
      decide_of_choose_some options' (hsame.trans h)⟩

/-- A verdict without candidates is on nobody, and neither allows nor disables. -/
theorem withoutCandidates_blank (options : PolicyOptions) (mime : String) :
    (withoutCandidates options mime).plugin = none ∧
      (withoutCandidates options mime).mimeType = "" ∧
      (withoutCandidates options mime).status ≠ .allowed ∧
      (withoutCandidates options mime).status ≠ .disabled := by
  unfold withoutCandidates
  split <;> simp [Verdict.without]

/-- **Trust decides the status, never the choice, and only takes away.**  Take any catalog, any
answer it gives, any filter and any request, and two verdicts that may differ in the options of the
policy and in all that the trust collaborators answer, faults included.

Both name the same plugin and the same type.  Where there are candidates, the options alone make no
difference at all.  If the second collaborators suspect whatever the first ones suspect, the second
verdict allows only what the first allows.  And what one verdict calls disabled the other calls
disabled or refuses. -/
theorem judge_trust_only_lowers (options options' : PolicyOptions) {c c' : Collaborators}
    (same : c'.available = c.available)
    (associationsOf : PluginDescriptor → List MimeAssociation) (request : Request)
    (answer : Except CollaboratorFault (List PluginDescriptor)) :
    let verdict := judge options c associationsOf request answer
    let verdict' := judge options' c' associationsOf request answer
    verdict'.plugin = verdict.plugin ∧ verdict'.mimeType = verdict.mimeType ∧
      (considered associationsOf request answer ≠ [] →
        judge options' c associationsOf request answer = verdict) ∧
      (c.SuspectsNoMoreThan c' → verdict'.status = .allowed → verdict.status = .allowed) ∧
      (verdict.status = .disabled →
        verdict'.status = .disabled ∨ verdict'.status = .unauthorized) := by
  intro verdict verdict'
  have hoptions : considered associationsOf request answer ≠ [] →
      judge options' c associationsOf request answer = verdict := by
    intro hne
    rw [judge_eq_decide, decide_options options options' hne]
    exact (judge_eq_decide ..).symm
  have hverdict : verdict = Policy.decide options c request _ := judge_eq_decide ..
  have hverdict' : verdict' = Policy.decide options' c' request _ := judge_eq_decide ..
  rcases decide_cases options options' request (considered associationsOf request answer) same with
    ⟨hnone, hnone'⟩ | ⟨chosen, available, hon, hon'⟩
  · rw [hnone] at hverdict
    rw [hnone'] at hverdict'
    obtain ⟨hplugin, hmime, -, hdisabled⟩ := withoutCandidates_blank options request.mimeType
    obtain ⟨hplugin', hmime', hallowed', -⟩ := withoutCandidates_blank options' request.mimeType
    rw [← hverdict] at hplugin hmime hdisabled
    rw [← hverdict'] at hplugin' hmime' hallowed'
    exact ⟨hplugin'.trans hplugin.symm, hmime'.trans hmime.symm, hoptions,
      fun _ ha => absurd ha hallowed', fun hd => absurd hd hdisabled⟩
  · rw [hon] at hverdict
    rw [hon'] at hverdict'
    refine ⟨?_, ?_, hoptions, fun hless hallowed => ?_, fun hdisabled => ?_⟩
    · rw [hverdict, hverdict']
      rfl
    · rw [hverdict, hverdict']
      rfl
    · rw [hverdict'] at hallowed
      rw [hverdict]
      exact lowered_allowed_mono (hless.isolated _) (hless.unstable _) hallowed
    · rw [hverdict] at hdisabled
      rw [hverdict']
      exact lowered_disabled hdisabled

/-- The first plugin is not available, and the second is refused as nobody can tell whether the
surface is isolated.  When the tracker fails too, the second is still the one that is named, and it
is still not allowed. -/
theorem judge_trust_only_lowers_two_faults :
    let plugin : PluginDescriptor := { id := ⟨"p"⟩ }
    let c : Collaborators :=
      { available := some fun _ d => .ok (d.id = ⟨"p"⟩)
        unstable := fun _ => .ok false
        isolated := fun _ => .error (.failed "") }
    let c' : Collaborators := { c with unstable := fun _ => .error (.unavailable "") }
    let request : Request := { (default : Request) with mimeType := "a" }
    let verdictBy := fun c => judge {} c (fun _ => [{ mimeType := "a" }]) request
      (.ok [{ id := ⟨"q"⟩ }, plugin])
    c.SuspectsNoMoreThan c' ∧
      (verdictBy c).plugin = some plugin ∧ (verdictBy c).status = .unauthorized ∧
      (verdictBy c').plugin = some plugin ∧ (verdictBy c').status ≠ .allowed := by
  intro plugin c c' request verdictBy
  have hless : c.SuspectsNoMoreThan c' := ⟨fun _ _ => rfl, fun _ h => h⟩
  have hplugin : (verdictBy c).plugin = some plugin := by decide
  have hrefused : (verdictBy c).status = .unauthorized := by decide
  obtain ⟨hsame, -, -, hmono, -⟩ := @judge_trust_only_lowers {} {} c c' rfl
    (fun _ => [{ mimeType := "a" }]) request (.ok [{ id := ⟨"q"⟩ }, plugin])
  refine ⟨hless, hplugin, hrefused, hsame.trans hplugin, fun hallowed => ?_⟩
  exact absurd (hrefused.symm.trans (hmono hless hallowed)) (by decide)

end Policy

end PluginArbiter
