/-
# Verdicts that can be relied on

Whoever receives a verdict takes it apart: if it carries a plugin he starts it, and hands it the MIME
type.  This module says what he may take for granted.  A verdict carries a plugin exactly when its
status says so and exactly when it has a type; the plugin is one of those that were configured, and
the only one with its identity; the type is the one that was asked for, or where none was asked for,
one that this plugin itself declares for the extension of the path.

The policy by itself does not guarantee any of this.  A catalog may list two plugins with one
identity, and an association may declare the empty type for an extension, so that a verdict carries a
plugin and no type.  It is the check of the configuration that rules both out, and it is used here
for that.

Main statements:
* `mem_candidates`: whose candidates there are, and with which types;
* `decide_well_formed`: what any policy guarantees;
* `resolve_well_formed`: what an engine guarantees that was made from a configuration.
-/
import PluginArbiter.Proofs.Config.Soundness
import PluginArbiter.Proofs.Engine.Journal
import PluginArbiter.Proofs.Policy.Selection

namespace PluginArbiter

/-! ## 1. Candidates -/

/-- The type under which associations serve a request that asks for none: one that is declared for
the extension, and not a pattern. -/
theorem Candidate.mimeTypeFor?_empty {associations : List MimeAssociation} {m : String}
    {extension : Option String} {patterns : Bool}
    (h : mimeTypeFor? associations "" extension patterns = some m) :
    ∃ e a, extension = some e ∧ a ∈ associations ∧ a.isWildcard = false ∧
      a.listsExtension e = true ∧ m = a.mimeType := by
  rw [mimeTypeFor?, if_neg (by simp)] at h
  obtain ⟨e, he, h⟩ := Option.bind_eq_some_iff.mp h
  obtain ⟨a, ha, rfl⟩ := Option.map_eq_some_iff.mp h
  have hserves := List.find?_some ha
  simp only [Bool.and_eq_true, Bool.not_eq_true'] at hserves
  exact ⟨e, a, he, List.mem_of_find?_eq_some ha, hserves.1, hserves.2, rfl⟩

/-- **A candidate is a plugin of the catalog** with a type that its associations give. -/
theorem mem_candidates {associationsOf : PluginDescriptor → List MimeAssociation} {url : Url}
    {mime : String} {patterns : Bool} {plugins : List PluginDescriptor} {k : Candidate}
    (h : k ∈ candidates associationsOf url mime patterns plugins) :
    k.plugin ∈ plugins ∧
      Candidate.mimeTypeFor? (associationsOf k.plugin) mime url.extension? patterns
        = some k.mimeType := by
  obtain ⟨d, hd, hk⟩ := List.mem_filterMap.mp h
  obtain ⟨type, htype, rfl⟩ := Option.map_eq_some_iff.mp hk
  exact ⟨hd, htype⟩

/-! ## 2. Verdicts of a policy -/

namespace Policy

/-- Trust makes no status of one that carries a plugin that carries none. -/
theorem carriesPlugin_lowered (legacy isolated unstable available : Bool) :
    (lowered legacy isolated unstable (untrusted available)).carriesPlugin = true := by
  cases legacy <;> cases isolated <;> cases unstable <;> cases available <;> rfl

/-- The one who is chosen is a candidate. -/
theorem Choice.mem {c : Collaborators} {request : Request} {cs : List Candidate}
    {chosen : Candidate} (h : Choice c request cs chosen) : chosen ∈ cs := by
  cases h with
  | available => simp
  | fallback => simp

/-- **What any policy guarantees**: the verdict is on a candidate, and its status says so; or there
is none, and its status says that. -/
theorem decide_well_formed (options : PolicyOptions) (c : Collaborators) (request : Request)
    (cs : List Candidate) :
    let verdict := Policy.decide options c request cs
    (∃ k ∈ cs, verdict.plugin = some k.plugin ∧ verdict.mimeType = k.mimeType ∧
        verdict.status.carriesPlugin = true) ∨
      verdict.plugin = none ∧ verdict.mimeType = "" ∧ verdict.status.carriesPlugin = false := by
  intro verdict
  by_cases hne : cs = []
  · right
    have hwithout : verdict = withoutCandidates options request.mimeType :=
      decide_of_choose_none options (choose_eq_none_iff.mpr hne)
    rw [hwithout, withoutCandidates]
    split <;> exact ⟨rfl, rfl, rfl⟩
  · left
    obtain ⟨chosen, hchoice, hplugin, hmime, available, -, hstatus⟩ :=
      decide_spec options c request hne
    refine ⟨chosen, hchoice.mem, hplugin, hmime, ?_⟩
    rw [hstatus]
    exact carriesPlugin_lowered ..

end Policy

/-! ## 3. Verdicts of an engine -/

theorem Status.carriesPlugin_iff {s : Status} :
    s.carriesPlugin = true ↔ s = .allowed ∨ s = .disabled ∨ s = .unauthorized := by
  cases s <;> simp [carriesPlugin]

namespace Engine

/-- The type that a sound plugin is given is not empty. -/
theorem mimeTypeFor?_ne_empty {d : PluginDescriptor} (hd : d.IsSound) {mime m : String}
    {extension : Option String} {patterns : Bool}
    (h : Candidate.mimeTypeFor? d.associations mime extension patterns = some m) : m ≠ "" := by
  by_cases hmime : mime = ""
  · subst hmime
    obtain ⟨_, a, -, ha, -, -, rfl⟩ := Candidate.mimeTypeFor?_empty h
    exact Text.ne_empty_of_not_blank (hd.associations a ha).mimeType
  · rw [Candidate.mimeTypeFor?_of_ne_empty hmime h]
    exact hmime

/-- A direct request to the engine of a configuration is decided over the configured plugins. -/
theorem resolve_eq_decide {c : Config} {e : Engine} {log : List Step} (h : Reflects c log e)
    (request : Request) :
    ∃ options collaborators, (e.resolve request).1 = Policy.decide options collaborators request
      (candidates (·.associations) request.url request.mimeType true c.plugins) := by
  have hassociations : e.hub.supply.catalog.associationsOf = (·.associations) := by
    rw [h.catalog.source]
    rfl
  refine ⟨e.options, e.collaborators, ?_⟩
  rw [resolve_eq_judge h.catalog (fun _ => rfl), judge, hassociations]
  rfl

/-- **What an engine guarantees that was made from a configuration**, after any sequence of
operations and polls, for a verdict on any request.

It carries a plugin exactly when it is allowed, disabled or refused, and exactly when it has a type.
The plugin is among those that were configured, and no other of them has its identity.  The type is
the one that was asked for; where none was, the plugin declares it itself for the extension of the
path, and not as a pattern. -/
theorem resolve_well_formed {c : Config} {e : Engine} (made : ofConfig c = .ok e)
    (steps : List Step) (request : Request) :
    let verdict := ((e.after steps).resolve request).1
    (verdict.plugin.isSome = true ↔
        verdict.status = .allowed ∨ verdict.status = .disabled ∨ verdict.status = .unauthorized) ∧
      (verdict.plugin.isSome = true ↔ verdict.mimeType ≠ "") ∧
      ∀ p, verdict.plugin = some p →
        p ∈ c.plugins ∧ (c.plugins.filter fun d => d.id = p.id) = [p] ∧
          (request.mimeType ≠ "" → verdict.mimeType = request.mimeType) ∧
          (request.mimeType = "" → ∃ extension a, request.url.extension? = some extension ∧
            a ∈ p.associations ∧ a.isWildcard = false ∧ a.listsExtension extension = true ∧
            verdict.mimeType = a.mimeType) := by
  intro verdict
  have hvalid : c.validate = .ok () := by
    cases hc : c.validate with
    | ok => rfl
    | error defect => simp [ofConfig, hc, bind, Except.bind] at made
  have hsound := Config.validate_eq_ok_iff_isSound.mp hvalid
  obtain ⟨e', he', hstart⟩ := Reflects.start hvalid
  obtain rfl := Except.ok.inj (made.symm.trans he')
  obtain ⟨options, collaborators, hverdict⟩ := resolve_eq_decide (hstart.after steps) request
  change verdict = _ at hverdict
  rw [← Status.carriesPlugin_iff]
  rcases Policy.decide_well_formed options collaborators request
      (candidates (·.associations) request.url request.mimeType true c.plugins) with
    ⟨k, hk, hplugin, hmime, hstatus⟩ | ⟨hplugin, hmime, hstatus⟩
  · rw [← hverdict] at hplugin hmime hstatus
    obtain ⟨hmem, htype⟩ := mem_candidates hk
    have hne : verdict.mimeType ≠ "" := by
      rw [hmime]
      exact mimeTypeFor?_ne_empty (hsound.plugins _ hmem) htype
    refine ⟨by simp [hplugin, hstatus], by simp [hplugin, hne], fun p hp => ?_⟩
    obtain rfl := Option.some.inj (hplugin.symm.trans hp)
    refine ⟨hmem, Dispatcher.filter_eq_singleton (·.id) hsound.pluginIds hmem, fun hasked => ?_,
      fun hempty => ?_⟩
    · rw [hmime, Candidate.mimeTypeFor?_of_ne_empty hasked htype]
    · rw [hempty] at htype
      rw [hmime]
      exact Candidate.mimeTypeFor?_empty htype
  · rw [← hverdict] at hplugin hmime hstatus
    simp [hplugin, hmime, hstatus]

/-- Without a type the extension decides.  A pattern that stands before does not count, and though the
page is blocked by then, the plugin is named with the type that it declares for the extension. -/
theorem resolve_well_formed_extension :
    let any : PluginDescriptor :=
      { id := ⟨"p"⟩, associations := [{ mimeType := "*", isWildcard := true }] }
    let reader : PluginDescriptor :=
      { id := ⟨"q"⟩, associations := [{ mimeType := "a/b", fileExtensions := ["pdf"] }] }
    let c : Config := { plugins := [any, reader] }
    let url : Url :=
      { scheme := "https", authority := some { host := some (.name "h") }, path := "/x.PDF" }
    let request : Request := { (default : Request) with url, topUrl := url }
    ∃ e, ofConfig c = .ok e ∧
      let verdict := ((e.after [.operation (.block "H")]).resolve request).1
      verdict.status = .disabled ∧ verdict.plugin = some reader ∧ verdict.mimeType = "a/b" := by
  intro any reader c url request
  have hverdict : (ofConfig c).toOption.map (fun e =>
      ((e.after [.operation (.block "H")]).resolve request).1)
        = some (.on .disabled reader "a/b") := by decide
  cases he : ofConfig c with
  | error defect => simp [he, Except.toOption] at hverdict
  | ok e =>
    simp only [he, Except.toOption, Option.map_some, Option.some.injEq] at hverdict
    obtain ⟨-, -, hcarried⟩ := resolve_well_formed he [.operation (.block "H")] request
    rw [hverdict] at hcarried
    obtain ⟨-, -, -, htype⟩ := hcarried reader rfl
    obtain ⟨-, a, -, ha, -, -, hmime⟩ := htype rfl
    rw [List.mem_singleton.mp ha] at hmime
    refine ⟨e, rfl, ?_⟩
    rw [hverdict]
    exact ⟨rfl, rfl, hmime⟩

end Engine

end PluginArbiter
