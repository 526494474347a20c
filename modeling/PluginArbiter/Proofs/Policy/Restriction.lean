/-
# Filters that let less through

Of two filters one may let less through than the other, by a plain no or by a fault where the other
says yes.  This module says how far apart the two verdicts can be.

The search goes through the candidates in the order of the catalog, and what the first filter refused
the second one refuses too.  So the choice can only move forward: it stays, or it goes to a candidate
behind the one that was lost (`choose_of_lost`).  Where nobody is left behind it, the choice falls
back to the first candidate of all, who may well stand before the one that was lost; but then he is
not available, and nobody is allowed.

That a filter refuses more does not mean that less is allowed.  If the candidate that is lost had
been refused because he is unstable, the one behind him may be trusted, and a request that was refused
is allowed.  This is the only way (`judge_restriction_moves_forward`, last part).

Main statements:
* `exists_first`, `choose_of_split`, `choose_of_unavailable`: the choice without a search;
* `choose_of_kept`, `choose_of_lost`: where the choice goes when less is let through;
* `judge_restriction_moves_forward`: what becomes of the verdict.
-/
import PluginArbiter.Proofs.Policy.Selection

namespace PluginArbiter.Policy

variable {c c' : Collaborators} {request : Request} {cs before after : List Candidate}
  {chosen : Candidate}

/-- The collaborators of `c'` differ from those of `c` in the filter alone, and it lets no candidate
through that the filter of `c` does not let through. -/
structure Restricts (c c' : Collaborators) (request : Request) (cs : List Candidate) : Prop where
  unstable : c'.unstable = c.unstable
  isolated : c'.isolated = c.isolated
  available : ∀ k ∈ cs, Available c' request k → Available c request k

/-! ## 1. The choice without a search -/

/-- Either nobody is available, or somebody is the first who is. -/
theorem exists_first (c : Collaborators) (request : Request) (cs : List Candidate) :
    (∀ k ∈ cs, ¬ Available c request k) ∨
      ∃ before chosen after, cs = before ++ chosen :: after ∧ Available c request chosen ∧
        ∀ k ∈ before, ¬ Available c request k := by
  cases h : firstAvailable c request cs with
  | none => exact Or.inl (unavailable_of_firstAvailable h)
  | some chosen =>
    obtain ⟨before, after, hsplit⟩ := split_of_firstAvailable h
    exact Or.inr ⟨before, chosen, after, hsplit⟩

/-- Whoever is the first available one is chosen. -/
theorem choose_of_split (havailable : Available c request chosen)
    (hbefore : ∀ k ∈ before, ¬ Available c request k) :
    choose c request (before ++ chosen :: after) = some (chosen, true) := by
  cases h : choose c request (before ++ chosen :: after) with
  | none => exact absurd (choose_eq_none_iff.mp h) (by simp)
  | some result =>
    obtain ⟨found, available⟩ := result
    obtain ⟨hchoice, hiff⟩ := choice_of_choose h
    have hfound : found = chosen :=
      Choice.unique (.available before after chosen havailable hbefore) hchoice
    have htrue : available = true := hiff.mpr (hfound ▸ havailable)
    rw [hfound, htrue]

/-- Where nobody is available the first of all is chosen. -/
theorem choose_of_unavailable (hnone : ∀ k ∈ cs, ¬ Available c request k) :
    choose c request cs = cs.head?.map fun k => (k, false) := by
  cases cs with
  | nil => exact choose_eq_none_iff.mpr rfl
  | cons first rest =>
    cases h : choose c request (first :: rest) with
    | none => exact absurd (choose_eq_none_iff.mp h) (by simp)
    | some result =>
      obtain ⟨found, available⟩ := result
      obtain ⟨hchoice, hiff⟩ := choice_of_choose h
      have hfound : found = first := Choice.unique (.fallback first rest hnone) hchoice
      have hfalse : available = false := by
        rw [← Bool.not_eq_true, hiff, hfound]
        exact hnone first List.mem_cons_self
      rw [hfound, hfalse]
      rfl

/-! ## 2. Where the choice goes -/

/-- Where nobody is available, less cannot be let through. -/
theorem choose_of_none_available (h : Restricts c c' request cs)
    (hnone : ∀ k ∈ cs, ¬ Available c request k) : choose c' request cs = choose c request cs := by
  rw [choose_of_unavailable hnone,
    choose_of_unavailable fun k hk havailable => hnone k hk (h.available k hk havailable)]

section Split

variable (h : Restricts c c' request (before ++ chosen :: after))
  (hbefore : ∀ k ∈ before, ¬ Available c request k)

include h hbefore

theorem Restricts.unavailable_before : ∀ k ∈ before, ¬ Available c' request k :=
  fun k hk havailable => hbefore k hk (h.available k (List.mem_append_left _ hk) havailable)

/-- The first available candidate stays chosen as long as he is available. -/
theorem choose_of_kept (hkept : Available c' request chosen) :
    choose c' request (before ++ chosen :: after) = some (chosen, true) :=
  choose_of_split hkept (h.unavailable_before hbefore)

/-- **Where the choice goes when the first available candidate is lost**: to an available one
behind him, or to the first of all, who is not available, as nobody is. -/
theorem choose_of_lost (hlost : ¬ Available c' request chosen) :
    (∃ middle k rest, after = middle ++ k :: rest ∧ Available c' request k ∧
        choose c' request (before ++ chosen :: after) = some (k, true)) ∨
      ∃ first, (before ++ chosen :: after).head? = some first ∧
        choose c' request (before ++ chosen :: after) = some (first, false) := by
  have hbefore' := h.unavailable_before hbefore
  have hthrough : ∀ middle, (∀ k ∈ middle, ¬ Available c' request k) →
      ∀ k ∈ before ++ chosen :: middle, ¬ Available c' request k := by
    intro middle hmiddle k hk
    rcases List.mem_append.mp hk with hk | hk
    · exact hbefore' k hk
    · rcases List.mem_cons.mp hk with rfl | hk
      · exact hlost
      · exact hmiddle k hk
  rcases exists_first c' request after with hafter | ⟨middle, k, rest, rfl, havailable, hmiddle⟩
  · right
    obtain ⟨first, hfirst⟩ : ∃ first, (before ++ chosen :: after).head? = some first := by
      rw [← Option.isSome_iff_exists]
      simp
    refine ⟨first, hfirst, ?_⟩
    rw [choose_of_unavailable (hthrough after hafter), hfirst]
    rfl
  · left
    have hsplit : before ++ chosen :: (middle ++ k :: rest)
        = (before ++ chosen :: middle) ++ k :: rest := by simp
    refine ⟨middle, k, rest, rfl, havailable, ?_⟩
    rw [hsplit]
    exact choose_of_split havailable (hthrough middle hmiddle)

end Split

/-! ## 3. The verdict -/

/-- The same choice comes to the same verdict, as trust is asked alike. -/
theorem decide_of_choose_eq (options : PolicyOptions) (h : Restricts c c' request cs)
    (hchoose : choose c' request cs = choose c request cs) :
    Policy.decide options c' request cs = Policy.decide options c request cs := by
  unfold Policy.decide
  rw [hchoose, h.unstable, h.isolated]

/-- One who is not available is disabled or refused. -/
theorem verdictOn_unavailable (c : Collaborators) (request : Request) (k : Candidate) :
    (verdictOn c request k false).status = .disabled ∨
      (verdictOn c request k false).status = .unauthorized := by
  rw [verdictOn, Verdict.on, lowered_eq_disabled_iff, lowered_eq_unauthorized_iff]
  cases (c.isolated request.process).suspects <;> cases k.plugin.kind.isLegacy <;> simp

/-- Where one who is available is allowed, another is too, or he is refused as he is suspected of
being unstable. -/
theorem verdictOn_of_allowed (h : Restricts c c' request cs) {k k' : Candidate}
    (hallowed : (verdictOn c' request k' true).status = .allowed) :
    (verdictOn c request k true).status = .allowed ∨
      (verdictOn c request k true).status = .unauthorized ∧ c.unstable k.plugin.id ≠ .ok false := by
  rw [verdictOn, Verdict.on, lowered_eq_allowed_iff, h.isolated] at hallowed
  rw [verdictOn, Verdict.on, lowered_eq_allowed_iff, lowered_eq_unauthorized_iff, hallowed.2.1,
    ← Answer.suspects_iff]
  cases (c.unstable k.plugin.id).suspects <;> simp

/-- **What becomes of the verdict when the first available candidate is lost.** -/
theorem decide_of_lost (options : PolicyOptions)
    (h : Restricts c c' request (before ++ chosen :: after))
    (hbefore : ∀ k ∈ before, ¬ Available c request k) (hlost : ¬ Available c' request chosen) :
    let verdict' := Policy.decide options c' request (before ++ chosen :: after)
    (∃ middle k rest, after = middle ++ k :: rest ∧ Available c' request k ∧
        verdict'.plugin = some k.plugin ∧ verdict'.mimeType = k.mimeType) ∨
      ∃ first, (before ++ chosen :: after).head? = some first ∧
        verdict'.plugin = some first.plugin ∧ verdict'.mimeType = first.mimeType ∧
        (verdict'.status = .disabled ∨ verdict'.status = .unauthorized) := by
  intro verdict'
  rcases choose_of_lost h hbefore hlost with
    ⟨middle, k, rest, hafter, havailable, hchoose⟩ | ⟨first, hfirst, hchoose⟩
  · have hverdict : verdict' = verdictOn c' request k true := decide_of_choose_some options hchoose
    exact Or.inl ⟨middle, k, rest, hafter, havailable, by rw [hverdict]; rfl, by rw [hverdict]; rfl⟩
  · have hverdict : verdict' = verdictOn c' request first false :=
      decide_of_choose_some options hchoose
    refine Or.inr ⟨first, hfirst, by rw [hverdict]; rfl, by rw [hverdict]; rfl, ?_⟩
    rw [hverdict]
    exact verdictOn_unavailable c' request first

/-- **Where the second verdict allows**, the first one allows, or it refuses one who may be unstable
and who stands before the one that is allowed. -/
theorem decide_of_allowed (options : PolicyOptions) (h : Restricts c c' request cs)
    (hallowed : (Policy.decide options c' request cs).status = .allowed) :
    let verdict := Policy.decide options c request cs
    verdict.status = .allowed ∨
      verdict.status = .unauthorized ∧
        ∃ before k middle k' rest, cs = before ++ k :: middle ++ k' :: rest ∧
          Available c request k ∧ c.unstable k.plugin.id ≠ .ok false ∧
          verdict.plugin = some k.plugin ∧
          (Policy.decide options c' request cs).plugin = some k'.plugin := by
  intro verdict
  rcases exists_first c request cs with hnone | ⟨before, k, after, rfl, hk, hbefore⟩
  · have hsame := decide_of_choose_eq options h (choose_of_none_available h hnone)
    exact Or.inl (by rwa [hsame] at hallowed)
  have hchoose : choose c request (before ++ k :: after) = some (k, true) :=
    choose_of_split hk hbefore
  by_cases hkept : Available c' request k
  · have hsame := decide_of_choose_eq options h
      ((choose_of_kept h hbefore hkept).trans hchoose.symm)
    exact Or.inl (by rwa [hsame] at hallowed)
  have hverdict : verdict = verdictOn c request k true := decide_of_choose_some options hchoose
  rcases choose_of_lost h hbefore hkept with
    ⟨middle, k', rest, hafter, -, hchoose'⟩ | ⟨first, -, hchoose'⟩
  · rw [decide_of_choose_some options hchoose'] at hallowed ⊢
    have hstatus := verdictOn_of_allowed h (k := k) hallowed
    rw [← hverdict] at hstatus
    refine hstatus.imp_right fun ⟨hrefused, hsuspected⟩ =>
      ⟨hrefused, before, k, middle, k', rest, ?_, hk, hsuspected, by rw [hverdict]; rfl, rfl⟩
    rw [hafter, List.append_assoc, List.cons_append]
  · -- one who is not available is never allowed
    rw [decide_of_choose_some options hchoose'] at hallowed
    rcases verdictOn_unavailable c' request first with hstatus | hstatus <;>
      exact absurd (hallowed.symm.trans hstatus) (by decide)

/-- A candidate is the plugin it was made of. -/
theorem plugin_of? {associationsOf : PluginDescriptor → List MimeAssociation} {url : Url}
    {mime : String} {patterns : Bool} {d : PluginDescriptor} {k : Candidate}
    (h : Candidate.of? associationsOf url mime patterns d = some k) : k.plugin = d := by
  obtain ⟨type, -, rfl⟩ := Option.map_eq_some_iff.mp h
  rfl

/-- **The candidates stand in the order of the catalog.** -/
theorem plugins_considered_sublist (associationsOf : PluginDescriptor → List MimeAssociation)
    (request : Request) (plugins : List PluginDescriptor) :
    ((considered associationsOf request (.ok plugins)).map (·.plugin)).Sublist plugins := by
  show ((candidates _ _ _ _ plugins).map (·.plugin)).Sublist plugins
  unfold candidates
  induction plugins with
  | nil => exact List.Sublist.refl _
  | cons d rest ih =>
    rw [List.filterMap_cons]
    split
    · exact ih.cons d
    · rename_i k hk
      rw [List.map_cons, plugin_of? hk]
      exact ih.cons_cons d

/-- **A filter that lets less through moves the choice forward.**  Take any catalog, tracker,
registry, options and request, and a second filter that lets no candidate through which the first
does not let through.

If the candidate that was chosen as available still is, or if nobody was available, the verdict is
the same.  Otherwise it is on an available candidate who stands strictly behind the one that was
lost, in the order of the catalog, or it is on the first of all, disabled or refused.

And if the second verdict allows, the first one allows, or it refuses an available candidate who
stands before the one that is allowed now, because he is or may be unstable. -/
theorem judge_restriction_moves_forward (options : PolicyOptions) {c c' : Collaborators}
    (associationsOf : PluginDescriptor → List MimeAssociation) (request : Request)
    (answer : Except CollaboratorFault (List PluginDescriptor))
    (restricts : Restricts c c' request (considered associationsOf request answer)) :
    let cs := considered associationsOf request answer
    let verdict := judge options c associationsOf request answer
    let verdict' := judge options c' associationsOf request answer
    (∀ plugins, answer = .ok plugins → (cs.map (·.plugin)).Sublist plugins) ∧
      ((∀ k ∈ cs, ¬ Available c request k) → verdict' = verdict) ∧
      (∀ before k after, cs = before ++ k :: after → Available c request k →
        (∀ o ∈ before, ¬ Available c request o) →
        (Available c' request k → verdict' = verdict) ∧
          (¬ Available c' request k →
            (∃ middle k' rest, after = middle ++ k' :: rest ∧ Available c' request k' ∧
                verdict'.plugin = some k'.plugin ∧ verdict'.mimeType = k'.mimeType) ∨
              ∃ first, cs.head? = some first ∧ verdict'.plugin = some first.plugin ∧
                verdict'.mimeType = first.mimeType ∧
                (verdict'.status = .disabled ∨ verdict'.status = .unauthorized))) ∧
      (verdict'.status = .allowed →
        verdict.status = .allowed ∨
          verdict.status = .unauthorized ∧
            ∃ before k middle k' rest, cs = before ++ k :: middle ++ k' :: rest ∧
              Available c request k ∧ c.unstable k.plugin.id ≠ .ok false ∧
              verdict.plugin = some k.plugin ∧ verdict'.plugin = some k'.plugin) := by
  intro cs verdict verdict'
  have hverdict : verdict = Policy.decide options c request cs := judge_eq_decide ..
  have hverdict' : verdict' = Policy.decide options c' request cs := judge_eq_decide ..
  have horder : ∀ plugins, answer = .ok plugins → (cs.map (·.plugin)).Sublist plugins := by
    rintro plugins rfl
    exact plugins_considered_sublist associationsOf request plugins
  have hsame : choose c' request cs = choose c request cs → verdict' = verdict := fun hchoose => by
    rw [hverdict, hverdict', decide_of_choose_eq options restricts hchoose]
  rw [hverdict, hverdict'] at hsame ⊢
  change Restricts c c' request cs at restricts
  clear_value cs
  refine ⟨horder, fun hnone => hsame (choose_of_none_available restricts hnone),
    fun before k after hcs hk hbefore => ?_, decide_of_allowed options restricts⟩
  subst hcs
  have hchoose : choose c request (before ++ k :: after) = some (k, true) :=
    choose_of_split hk hbefore
  exact ⟨fun hkept => hsame ((choose_of_kept restricts hbefore hkept).trans hchoose.symm),
    decide_of_lost options restricts hbefore⟩

/-- The first plugin is unstable and refused.  When the filter fails for him, the second one, who is
not suspected of anything, is allowed in his place. -/
theorem judge_restriction_moves_forward_unstable :
    let first : PluginDescriptor := { id := ⟨"p"⟩ }
    let second : PluginDescriptor := { id := ⟨"q"⟩ }
    let c : Collaborators :=
      { available := some fun _ _ => .ok true
        unstable := fun id => .ok (id = ⟨"p"⟩)
        isolated := fun _ => .ok false }
    let c' : Collaborators :=
      { c with available := some fun _ d => if d.id = ⟨"p"⟩ then .error (.failed "") else .ok true }
    let request : Request := { (default : Request) with mimeType := "a" }
    let verdictBy := fun c => judge {} c (fun _ => [{ mimeType := "a" }]) request (.ok [first, second])
    Restricts c c' request [⟨first, "a"⟩, ⟨second, "a"⟩] ∧
      (verdictBy c').status = .allowed ∧ (verdictBy c).status = .unauthorized ∧
      (verdictBy c').plugin = some second := by
  intro first second c c' request verdictBy
  have hrestricts : Restricts c c' request [⟨first, "a"⟩, ⟨second, "a"⟩] :=
    ⟨rfl, rfl, fun k _ _ filter hfilter => by obtain rfl := Option.some.inj hfilter; rfl⟩
  obtain ⟨-, -, hsplit, hallows⟩ := judge_restriction_moves_forward {}
    (fun _ => [{ mimeType := "a" }]) request (.ok [first, second]) hrestricts
  have hallowed : (verdictBy c').status = .allowed := by decide
  have hfirst : Available c request ⟨first, "a"⟩ := by
    rintro filter ⟨⟩
    rfl
  have hlost : ¬ Available c' request ⟨first, "a"⟩ := fun h =>
    absurd (h _ rfl) (by simp [first])
  refine ⟨hrestricts, hallowed, ?_, ?_⟩
  · rcases hallows hallowed with h | ⟨h, -⟩
    · exact absurd h (by decide)
    · exact h
  · rcases (hsplit [] ⟨first, "a"⟩ [⟨second, "a"⟩] rfl hfirst (by simp)).2 hlost with
      ⟨middle, k', rest, hafter, -, hplugin, -⟩ | ⟨_, -, -, -, hstatus⟩
    · cases middle with
      | nil =>
        obtain ⟨rfl, -⟩ := List.cons.inj hafter
        exact hplugin
      | cons m ms => simp at hafter
    · rw [hallowed] at hstatus
      exact absurd hstatus (by decide)

end PluginArbiter.Policy
