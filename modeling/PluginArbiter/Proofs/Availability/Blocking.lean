/-
# Blocking a host by its spelling

A host is blocked under the spelling it is given in, and compared with the host that the URL writes;
only ASCII case is made nothing of.  So a spelling works on the page it names if the URL writes the
host just so, and this is known of the spelling alone (`Url.IsWrittenForm`): names in plain ASCII, and
addresses in the form in which they are written.  Any other spelling is kept, but no page ever has it
for its host.

What is blocked stays blocked, for a step can only add to the blocked hosts
(`mem_blockedHosts_after`).  And rules that say the same about a page go on saying the same about it,
whatever steps they share (`alikeOn_after`); this carries the other half, that a spelling which does not
work makes no difference at any later time.

Main statements:
* `mem_blockedHosts_after`: blocked hosts stay blocked;
* `alikeOn_after`: rules that agree on a page keep agreeing;
* `block_works_iff_written_form`: what becomes of a page whose host was blocked as it was spelled.
-/
import PluginArbiter.Proofs.Engine.Journal
import PluginArbiter.Proofs.Url.HostText

namespace PluginArbiter

variable {r r' : AvailabilityRules} {u : Url} {h text : String}

/-! ## 1. One page -/

namespace AvailabilityRules

/-- On a page whose host is blocked no plugin is available. -/
theorem isAvailable_of_mem (hhost : u.hostText? = some text)
    (hblocked : Text.lower text ∈ r.blockedHosts) (id : PluginId) : r.isAvailable u id = false := by
  have hcontains : r.blockedHosts.contains (Text.lower text) = true :=
    List.contains_iff_mem.mpr hblocked
  simp only [isAvailable, isBlocked, hhost, hcontains, Bool.not_true, Bool.and_false]

/-- What one more blocked host means for a page. -/
theorem isBlocked_block (hhost : u.hostText? = some text) (r : AvailabilityRules) (h : String) :
    (r.block h).isBlocked u = (Text.lower text == Text.lower h || r.isBlocked u) := by
  simp only [isBlocked, hhost, block, List.contains_cons]

/-- Two rules that say the same about a page, and switch off the same plugins. -/
structure AlikeOn (u : Url) (r r' : AvailabilityRules) : Prop where
  disabled : r'.disabled = r.disabled
  blocked : r'.isBlocked u = r.isBlocked u

theorem AlikeOn.isAvailable_eq (halike : AlikeOn u r r') (id : PluginId) :
    r'.isAvailable u id = r.isAvailable u id := by
  rw [isAvailable, isAvailable, isDisabled, isDisabled, halike.disabled, halike.blocked]

/-- A host that is not the page's makes no difference to the page. -/
theorem AlikeOn.of_block (hhost : u.hostText? = some text) (hother : Text.lower h ≠ Text.lower text)
    (r : AvailabilityRules) : AlikeOn u r (r.block h) where
  disabled := rfl
  blocked := by
    rw [isBlocked_block hhost, beq_eq_false_iff_ne.mpr hother.symm, Bool.false_or]

/-- Hosts are told apart by the page in the same way, whatever else is blocked. -/
theorem AlikeOn.block (halike : AlikeOn u r r') (host : String) :
    AlikeOn u (r.block host) (r'.block host) where
  disabled := halike.disabled
  blocked := by
    have hblocked := halike.blocked
    cases hhost : u.hostText? with
    | none => simp only [isBlocked, hhost]
    | some text => rw [isBlocked_block hhost, isBlocked_block hhost, hblocked]

end AvailabilityRules

namespace Engine

open AvailabilityRules (AlikeOn)

/-! ## 2. Over time -/

theorem rules_step (e : Engine) (s : Step) : (e.step s).rules = s.rules e.rules := by
  obtain ⟨handlers, hub, hstep⟩ := e.exists_step_eq s
  rw [hstep]
  rfl

theorem mem_blockedHosts_step {e : Engine} (hblocked : h ∈ e.rules.blockedHosts) (s : Step) :
    h ∈ (e.step s).rules.blockedHosts := by
  rw [rules_step, s.blockedHosts_rules]
  exact List.mem_append_right _ hblocked

/-- **Blocked hosts stay blocked.** -/
theorem mem_blockedHosts_after {e : Engine} (hblocked : h ∈ e.rules.blockedHosts)
    (steps : List Step) : h ∈ (e.after steps).rules.blockedHosts := by
  induction steps generalizing e with
  | nil => exact hblocked
  | cons s rest ih => exact ih (mem_blockedHosts_step hblocked s)

/-- A step leaves rules alike that were alike. -/
theorem alikeOn_step {e e' : Engine} (halike : AlikeOn u e.rules e'.rules) (s : Step) :
    AlikeOn u (e.step s).rules (e'.step s).rules := by
  rw [rules_step, rules_step]
  cases s with
  | poll id => exact halike
  | operation op =>
    cases op with
    | disable id =>
      exact { disabled := congrArg (id :: ·) halike.disabled, blocked := halike.blocked }
    | enable id =>
      exact {
        disabled := congrArg (List.filter (· ≠ id)) halike.disabled
        blocked := halike.blocked }
    | block host => exact halike.block host
    | _ => exact halike

/-- **Rules that agree on a page keep agreeing**, whatever steps they share. -/
theorem alikeOn_after {e e' : Engine} (halike : AlikeOn u e.rules e'.rules) (steps : List Step) :
    AlikeOn u (e.after steps).rules (e'.after steps).rules := by
  induction steps generalizing e e' with
  | nil => exact halike
  | cons s rest ih => exact ih (alikeOn_step halike s)

/-! ## 3. Spellings that work, and spellings that do not -/

/-- **A host is blocked as it is spelled.**  If a URL can have written the spelling, no plugin is
available on the page it names from then on, and likewise if the rules were made from a list with that
spelling.  Otherwise nothing is changed on that page, then or at any later time. -/
theorem block_works_iff_written_form (hhost : Url.IsHostText h.toList)
    (hparse : Url.parse ("https://" ++ h ++ "/") = .ok u) :
    (Url.IsWrittenForm h →
      ∀ (e : Engine) (later : List Step) (id : PluginId) (request : Request), request.topUrl = u →
        ((e.after (.operation (.block h) :: later)).apply (.isAvailable id request)).1 = .flag false ∧
          ∀ disabled hosts, h ∈ hosts → e.rules = .ofLists disabled hosts →
            ((e.after later).apply (.isAvailable id request)).1 = .flag false) ∧
      (¬ Url.IsWrittenForm h →
        ∀ (e : Engine) (later : List Step) (id : PluginId) (request : Request), request.topUrl = u →
          ((e.after (.operation (.block h) :: later)).apply (.isAvailable id request)).1
            = ((e.after later).apply (.isAvailable id request)).1) := by
  obtain ⟨text, htext, hform⟩ := Url.hostText_https hhost hparse
  constructor
  · rintro hwritten e later id request rfl
    have hsame : Text.lower h = Text.lower text := hform.mpr hwritten
    have hfalse {e : Engine} (hblocked : Text.lower h ∈ e.rules.blockedHosts) :
        ((e.after later).apply (.isAvailable id request)).1 = .flag false := by
      have hafter := mem_blockedHosts_after (hsame ▸ hblocked) later
      exact congrArg Reply.flag (AvailabilityRules.isAvailable_of_mem htext hafter id)
    refine ⟨hfalse List.mem_cons_self, fun disabled hosts hlisted hrules => hfalse ?_⟩
    rw [hrules]
    exact List.mem_map_of_mem hlisted
  · rintro hunwritten e later id request rfl
    have hother : Text.lower h ≠ Text.lower text := mt hform.mp hunwritten
    have halike : AlikeOn request.topUrl (e.after later).rules
        ((e.step (.operation (.block h))).after later).rules :=
      alikeOn_after (AlikeOn.of_block htext hother e.rules) later
    exact congrArg Reply.flag (halike.isAvailable_eq id)

/-- The URL writes the host in small letters, and switching a plugin on does not help it. -/
theorem block_works_iff_written_form_capitals :
    ∃ u, Url.parse ("https://" ++ "Ads.Example.com" ++ "/") = .ok u ∧
      u.hostText? = some "ads.example.com" ∧
      ((({} : Engine).after [.operation (.block "Ads.Example.com"), .operation (.enable ⟨"p"⟩)]).apply
        (.isAvailable ⟨"p"⟩ { (default : Request) with topUrl := u })).1 = .flag false := by
  have hparse : Url.parse ("https://" ++ "Ads.Example.com" ++ "/")
      = .ok { scheme := "https", authority := some { host := some (.name "ads.example.com") },
              path := "/" } := by decide +kernel
  have hwritten : Url.IsWrittenForm "Ads.Example.com" :=
    ⟨List.all_eq_true.mp (by decide), fun hspells => absurd hspells (by decide +kernel)⟩
  exact ⟨_, hparse, rfl, ((block_works_iff_written_form (by decide) hparse).1 hwritten {}
    [.operation (.enable ⟨"p"⟩)] ⟨"p"⟩ _ rfl).1⟩

/-- **An address in a form of its own is not blocked.**  `127.1` is read as the address of this
machine, and the URL writes all four octets. -/
theorem shortened_address_not_blocked :
    ∃ u, Url.IsHostText "127.1".toList ∧ Url.parse ("https://" ++ "127.1" ++ "/") = .ok u ∧
      u.hostText? = some "127.0.0.1" ∧
      ((({} : Engine).after [.operation (.block "127.1")]).apply
        (.isAvailable ⟨"p"⟩ { (default : Request) with topUrl := u })).1 = .flag true := by
  have hparse : Url.parse ("https://" ++ "127.1" ++ "/")
      = .ok { scheme := "https", authority := some { host := some (.v4 0x7F000001) }, path := "/" } := by
    decide +kernel
  exact ⟨_, by decide, hparse, by decide +kernel, congrArg Reply.flag (by decide +kernel)⟩

end Engine

end PluginArbiter
