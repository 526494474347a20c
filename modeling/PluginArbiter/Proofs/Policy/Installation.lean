/-
# Plugins that make no difference

A catalog is a list, and a verdict goes by places in it: the first candidate who is available is
chosen, or where nobody is, the first candidate of all.  One more plugin moves all that stand behind
it, and by the second rule even a plugin that the filter refuses can decide a verdict, if it comes to
stand in front of all candidates.

This module says which plugins make no difference to a request.  There are three kinds: those that do
not serve it, those that stand behind somebody who is available, and those that the filter refuses and
that stand behind some candidate.  The first kind never becomes a candidate.  The other two do, and
here the two rules meet: behind an available candidate the first rule has its answer already
(`choose_append_of_available`), and a refused plugin is passed over by the first rule and, as it is
not in front, by the second (`choose_insert_unavailable`).

A plugin that is listed twice is always of one of these kinds where it is listed again.

Main statements:
* `considered_of_not_serves`, `considered_of_serves`: what one plugin adds to the candidates;
* `choose_append_of_available`, `choose_insert_unavailable`: what it adds to the choice;
* `judge_ignores_idle_plugins`: all of this for verdicts.
-/
import PluginArbiter.Proofs.Candidates.Reference
import PluginArbiter.Proofs.Policy.Restriction

namespace PluginArbiter.Policy

variable {c : Collaborators} {request : Request} {cs later : List Candidate} {k : Candidate}
  {associationsOf : PluginDescriptor → List MimeAssociation} {p : PluginDescriptor}
  {plugins : List PluginDescriptor}

/-! ## 1. What one plugin adds to the candidates -/

/-- A plugin serves a request under some type. -/
def ServesRequest (associationsOf : PluginDescriptor → List MimeAssociation) (request : Request)
    (p : PluginDescriptor) : Prop :=
  ∃ given, Serves (associationsOf p) request.url request.mimeType true given

/-- The filter lets a plugin through: it says so plainly, or there is no filter. -/
def Admits (c : Collaborators) (request : Request) (p : PluginDescriptor) : Prop :=
  ∀ filter, c.available = some filter → filter request p = .ok true

/-- A candidate is available where the filter lets its plugin through. -/
theorem available_iff_admits : Available c request k ↔ Admits c request k.plugin := Iff.rfl

theorem considered_append (associationsOf : PluginDescriptor → List MimeAssociation)
    (request : Request) (before after : List PluginDescriptor) :
    considered associationsOf request (.ok (before ++ after))
      = considered associationsOf request (.ok before)
        ++ considered associationsOf request (.ok after) :=
  candidates_append ..

/-- A plugin that does not serve the request is no candidate. -/
theorem considered_of_not_serves (h : ¬ ServesRequest associationsOf request p) :
    considered associationsOf request (.ok [p]) = [] := by
  have hpassed : Candidate.of? associationsOf request.url request.mimeType true p = none := by
    rw [Candidate.of?, Option.map_eq_none_iff, Option.eq_none_iff_forall_ne_some]
    exact fun given hgiven => h ⟨given, mimeTypeFor?_eq_some_iff.mp hgiven⟩
  exact List.filterMap_cons_none hpassed

/-- A plugin that serves the request is one candidate. -/
theorem considered_of_serves (h : ServesRequest associationsOf request p) :
    ∃ given, considered associationsOf request (.ok [p]) = [⟨p, given⟩] := by
  obtain ⟨given, hserves⟩ := h
  have htaken : Candidate.of? associationsOf request.url request.mimeType true p
      = some ⟨p, given⟩ := by
    rw [Candidate.of?, mimeTypeFor?_eq_some_iff.mpr hserves]
    rfl
  exact ⟨given, List.filterMap_cons_some htaken⟩

/-- A plugin of the catalog that serves the request is among the candidates. -/
theorem exists_considered (hp : p ∈ plugins) (h : ServesRequest associationsOf request p) :
    ∃ k ∈ considered associationsOf request (.ok plugins), k.plugin = p := by
  obtain ⟨before, after, rfl⟩ := List.append_of_mem hp
  obtain ⟨given, hone⟩ := considered_of_serves h
  refine ⟨⟨p, given⟩, ?_, rfl⟩
  rw [← List.singleton_append, considered_append, considered_append, hone]
  simp

/-! ## 2. What it adds to the choice -/

/-- **Behind an available candidate nobody counts.** -/
theorem choose_append_of_available (havailable : ∃ k ∈ cs, Available c request k)
    (later : List Candidate) : choose c request (cs ++ later) = choose c request cs := by
  rcases exists_first c request cs with hnone | ⟨before, chosen, after, rfl, hchosen, hbefore⟩
  · obtain ⟨k, hk, hadmitted⟩ := havailable
    exact absurd hadmitted (hnone k hk)
  · rw [List.append_assoc, List.cons_append, choose_of_split hchosen hbefore,
      choose_of_split hchosen hbefore]

/-- **Behind some candidate one who is not available does not count.** -/
theorem choose_insert_unavailable (hne : cs ≠ []) (hk : ¬ Available c request k)
    (later : List Candidate) : choose c request (cs ++ k :: later) = choose c request (cs ++ later) := by
  obtain ⟨first, rest, rfl⟩ := List.exists_cons_of_ne_nil hne
  rcases exists_first c request (first :: rest) with hnone | ⟨before, chosen, after, heq, hchosen, -⟩
  · -- the first part has no answer to the first rule, but it holds the first of all
    have hthrough : ∀ middle, (∀ o ∈ middle, ¬ Available c request o) →
        ∀ o ∈ (first :: rest) ++ middle, ¬ Available c request o :=
      fun middle hmiddle => List.forall_mem_append.mpr ⟨hnone, hmiddle⟩
    have hinserted : ∀ middle, (∀ o ∈ middle, ¬ Available c request o) →
        ∀ o ∈ (first :: rest) ++ k :: middle, ¬ Available c request o :=
      fun middle hmiddle => hthrough _ (List.forall_mem_cons.mpr ⟨hk, hmiddle⟩)
    rcases exists_first c request later with hlater | ⟨before, chosen, after, rfl, hchosen, hbefore⟩
    · rw [choose_of_unavailable (hthrough later hlater),
        choose_of_unavailable (hinserted later hlater)]
      rfl
    · rw [← List.cons_append, ← List.append_assoc, ← List.append_assoc,
        choose_of_split hchosen (hthrough before hbefore),
        choose_of_split hchosen (hinserted before hbefore)]
  · have havailable : ∃ o ∈ first :: rest, Available c request o :=
      ⟨chosen, heq ▸ by simp, hchosen⟩
    rw [choose_append_of_available havailable, choose_append_of_available havailable]

/-- The same choice comes to the same verdict, whoever else there is. -/
theorem decide_congr_choose (options : PolicyOptions) {cs' : List Candidate}
    (hchoose : choose c request cs' = choose c request cs) :
    Policy.decide options c request cs' = Policy.decide options c request cs := by
  unfold Policy.decide
  rw [hchoose]

/-- Where somebody is available the verdict is on somebody who is. -/
theorem exists_plugin_of_available (options : PolicyOptions)
    (havailable : ∃ k ∈ cs, Available c request k) :
    ∃ chosen ∈ cs, Available c request chosen ∧
      (Policy.decide options c request cs).plugin = some chosen.plugin := by
  rcases exists_first c request cs with hnone | ⟨before, chosen, after, rfl, hchosen, hbefore⟩
  · obtain ⟨k, hk, hadmitted⟩ := havailable
    exact absurd hadmitted (hnone k hk)
  · refine ⟨chosen, by simp, hchosen, ?_⟩
    rw [decide_of_choose_some options (choose_of_split hchosen hbefore)]
    rfl

/-! ## 3. Verdicts -/

/-- **Plugins that make no difference.**  Take any catalog, cut in two anywhere, any plugin put
between the two parts, and any filter, tracker, registry, options and request, faults included.

If the plugin does not serve the request, the verdict is the one without it.  If the first part holds
somebody who serves the request and is available, the verdict is the one over the first part alone,
whatever stands behind, and it is on somebody of the first part who is available.  If the first part
holds somebody who serves the request, and the plugin is not available, the verdict is the one
without it.  And if the plugin is one of the first part already, the verdict is the one without it. -/
theorem judge_ignores_idle_plugins (options : PolicyOptions) (c : Collaborators)
    (associationsOf : PluginDescriptor → List MimeAssociation) (request : Request)
    (before after : List PluginDescriptor) (p : PluginDescriptor) :
    let verdictOver := fun plugins => judge options c associationsOf request (.ok plugins)
    let serves := ServesRequest associationsOf request
    (¬ serves p → verdictOver (before ++ [p] ++ after) = verdictOver (before ++ after)) ∧
      ((∃ q ∈ before, serves q ∧ Admits c request q) →
        verdictOver (before ++ after) = verdictOver before ∧
          ∃ q ∈ before, Admits c request q ∧ (verdictOver (before ++ after)).plugin = some q) ∧
      ((∃ q ∈ before, serves q) → ¬ Admits c request p →
        verdictOver (before ++ [p] ++ after) = verdictOver (before ++ after)) ∧
      (p ∈ before → verdictOver (before ++ [p] ++ after) = verdictOver (before ++ after)) := by
  intro verdictOver serves
  have hverdict : ∀ plugins, verdictOver plugins
      = Policy.decide options c request (considered associationsOf request (.ok plugins)) :=
    fun plugins => judge_eq_decide ..
  have hidle : ¬ serves p →
      verdictOver (before ++ [p] ++ after) = verdictOver (before ++ after) := by
    intro hnot
    rw [hverdict, hverdict, considered_append, considered_append, considered_of_not_serves hnot,
      List.append_nil, ← considered_append]
  have hbehind : ∀ later, (∃ q ∈ before, serves q ∧ Admits c request q) →
      verdictOver (before ++ later) = verdictOver before := by
    rintro later ⟨q, hq, hserves, hadmits⟩
    obtain ⟨k, hk, rfl⟩ := exists_considered hq hserves
    rw [hverdict, hverdict, considered_append]
    exact decide_congr_choose options (choose_append_of_available ⟨k, hk, hadmits⟩ _)
  have hrefused : (∃ q ∈ before, serves q) → ¬ Admits c request p →
      verdictOver (before ++ [p] ++ after) = verdictOver (before ++ after) := by
    rintro ⟨q, hq, hserves⟩ hnot
    by_cases hp : serves p
    · obtain ⟨k, hk, -⟩ := exists_considered hq hserves
      obtain ⟨given, hone⟩ := considered_of_serves hp
      rw [hverdict, hverdict, considered_append, considered_append, considered_append, hone,
        List.append_assoc, List.singleton_append]
      exact decide_congr_choose options
        (choose_insert_unavailable (List.ne_nil_of_mem hk) (mt available_iff_admits.mp hnot) _)
    · exact hidle hp
  refine ⟨hidle, fun hserved => ⟨hbehind after hserved, ?_⟩, hrefused, fun hp => ?_⟩
  · rw [hbehind after hserved, hverdict]
    obtain ⟨q, hq, hserves, hadmits⟩ := hserved
    obtain ⟨k, hk, rfl⟩ := exists_considered hq hserves
    obtain ⟨chosen, hchosen, havailable, hplugin⟩ :=
      exists_plugin_of_available options ⟨k, hk, hadmits⟩
    have hmem := (plugins_considered_sublist associationsOf request before).subset
      (List.mem_map_of_mem hchosen)
    exact ⟨chosen.plugin, hmem, havailable, hplugin⟩
  · by_cases hserves : serves p
    · by_cases hadmits : Admits c request p
      · have hserved : ∃ q ∈ before, serves q ∧ Admits c request q := ⟨p, hp, hserves, hadmits⟩
        rw [List.append_assoc, hbehind _ hserved, hbehind _ hserved]
      · exact hrefused ⟨p, hp, hserves⟩ hadmits
    · exact hidle hserves

/-- The filter fails for the first plugin and lets the second one through.  Nothing that is installed
behind the two counts, and neither does a second copy of the first one between them. -/
theorem judge_ignores_idle_plugins_copy :
    let first : PluginDescriptor := { id := ⟨"p"⟩ }
    let second : PluginDescriptor := { id := ⟨"q"⟩ }
    let third : PluginDescriptor := { id := ⟨"r"⟩, kind := .legacyInProcess }
    let c : Collaborators :=
      { available := some fun _ d => if d.id = ⟨"p"⟩ then .error (.failed "") else .ok true
        unstable := fun _ => .ok false
        isolated := fun _ => .ok false }
    let request : Request := { (default : Request) with mimeType := "a" }
    let verdictOver := fun plugins => judge {} c (fun _ => [{ mimeType := "a" }]) request (.ok plugins)
    verdictOver ([first, second] ++ [third]) = verdictOver [first, second] ∧
      verdictOver ([first] ++ [first] ++ [second]) = verdictOver ([first] ++ [second]) ∧
      (verdictOver ([first] ++ [second])).status = .allowed := by
  intro first second third c request verdictOver
  have hserves : ServesRequest (fun _ => [{ mimeType := "a" }]) request second :=
    ⟨"a", .declared _ List.mem_cons_self (by decide) rfl⟩
  have hadmits : Admits c request second := by
    rintro filter ⟨⟩
    rfl
  obtain ⟨-, hbehind, -⟩ := judge_ignores_idle_plugins {} c (fun _ => [{ mimeType := "a" }]) request
    [first, second] [third] third
  obtain ⟨-, -, -, hcopy⟩ := judge_ignores_idle_plugins {} c (fun _ => [{ mimeType := "a" }]) request
    [first] [second] first
  exact ⟨(hbehind ⟨second, by simp, hserves, hadmits⟩).1, hcopy List.mem_cons_self, by decide⟩

/-- In front of all candidates a plugin counts, though the filter refuses it. -/
example :
    let c : Collaborators :=
      { available := some fun _ _ => .ok false
        unstable := fun _ => .ok false
        isolated := fun _ => .ok false }
    let verdictOver := fun plugins => judge {} c (fun _ => [{ mimeType := "a" }])
      { (default : Request) with mimeType := "a" } (.ok plugins)
    verdictOver [{ id := ⟨"p"⟩ }, { id := ⟨"q"⟩ }] ≠ verdictOver [{ id := ⟨"q"⟩ }] := by
  decide

end PluginArbiter.Policy
