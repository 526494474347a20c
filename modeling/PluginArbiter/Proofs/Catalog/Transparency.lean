/-
# Keeping the list is not noticed

Two policies ask the same questions of the same catalog, one after the other.  One of them keeps the
first list that the catalog gives; the other asks again each time.  While the catalog fails nothing is
kept, and both have asked equally often, so both are told of the same fault.  From the first success
on the one policy asks no more, and the other is told what the first has kept.  So they answer alike,
though they have asked the catalog differently often.

What is kept is the list and nothing else: what the catalog reports of a plugin is asked for each time
by both.

Nothing is claimed for a catalog that changes its list after the first success, or fails again.  There
the two policies part, as they are meant to.

Main statements:
* `Supply.Alike.fetch`: both are told the same, and stay alike;
* `Policy.inquire_kept_eq_bare`: the same for any questions, with the number of enumerations.
-/
import Mathlib.Data.ENat.Lattice
import PluginArbiter.Inquiry

namespace PluginArbiter

variable {source : PluginSource} {k : ℕ∞} {plugins : List PluginDescriptor} {kept bare : Supply}

/-- The first `k` enumerations end with faults, possibly another one each time, and all others with
one list.  Without a last fault `k` is infinite. -/
structure PluginSource.FaultsFirst (source : PluginSource) (k : ℕ∞)
    (plugins : List PluginDescriptor) : Prop where
  faults : ∀ number : ℕ, number < k → ∃ fault, source.answerAt number = .error fault
  settles : ∀ number : ℕ, k ≤ number → source.answerAt number = .ok plugins

/-- A catalog in use that keeps its list and one that does not, after the same questions: either no
enumeration has succeeded yet, and both have started equally many, or the list is kept, and no
enumeration has been started since. -/
inductive Supply.Alike (k : ℕ∞) (plugins : List PluginDescriptor) (kept bare : Supply) : Prop
  | cold (early : (bare.started : ℕ∞) ≤ k) (same : kept.started = bare.started)
    (nothing : kept.cache = some {}) (uncached : bare.cache = none)
  | warm (late : k < bare.started) (last : (kept.started : ℕ∞) = k + 1)
    (list : kept.cache = some { stored := some plugins }) (uncached : bare.cache = none)

namespace Supply

theorem Alike.uncached (h : Alike k plugins kept bare) : bare.cache = none := by
  cases h <;> assumption

/-- How often either has asked the catalog. -/
theorem Alike.started_eq_min (h : Alike k plugins kept bare) :
    (kept.started : ℕ∞) = min (bare.started : ℕ∞) (k + 1) := by
  cases h with
  | cold early same => rw [same, min_eq_left (early.trans le_self_add)]
  | warm late last => rw [last, min_eq_right (Order.add_one_le_of_lt late)]

/-- Who keeps nothing starts an enumeration each time. -/
theorem started_fetchFrom (huncached : bare.cache = none) (source : PluginSource) :
    (bare.fetchFrom source).2.started = bare.started + 1 := by
  rw [fetchFrom_of_not_stored (by rw [huncached]; rfl)]

/-- **Both are told the same, and stay alike.** -/
theorem Alike.fetch (h : Alike k plugins kept bare) (hsource : source.FaultsFirst k plugins) :
    (kept.fetchFrom source).1 = (bare.fetchFrom source).1 ∧
      Alike k plugins (kept.fetchFrom source).2 (bare.fetchFrom source).2 := by
  have hbare : bare.cache.bind (·.stored) = none := by rw [h.uncached]; rfl
  rw [fetchFrom_of_not_stored hbare]
  cases h with
  | cold early same nothing uncached =>
    have hkept : kept.cache.bind (·.stored) = none := by rw [nothing]; rfl
    rw [fetchFrom_of_not_stored hkept, same]
    refine ⟨rfl, ?_⟩
    rcases lt_or_ge (bare.started : ℕ∞) k with hlt | hge
    · -- one more fault: nothing is kept
      obtain ⟨fault, hfault⟩ := hsource.faults _ hlt
      rw [hfault]
      refine .cold ?_ rfl (by rw [nothing]; rfl) (by rw [uncached]; rfl)
      exact_mod_cast Order.add_one_le_of_lt hlt
    · -- the first success
      obtain rfl := le_antisymm early hge
      rw [hsource.settles _ hge]
      refine .warm ?_ (by push_cast; rfl) (by rw [nothing]; rfl) (by rw [uncached]; rfl)
      exact_mod_cast Nat.lt_succ_self _
  | warm late last list uncached =>
    have hkept : kept.cache.bind (·.stored) = some plugins := by rw [list]; rfl
    rw [fetchFrom_of_stored hkept, hsource.settles _ late.le]
    refine ⟨rfl, .warm ?_ last list (by rw [uncached]; rfl)⟩
    exact late.trans (by exact_mod_cast Nat.lt_succ_self _)

end Supply

namespace Policy

/-- The same for any questions. -/
theorem inquire_alike (options : PolicyOptions) (hsource : source.FaultsFirst k plugins)
    (h : kept.Alike k plugins bare) (questions : List Question) :
    (inquire options source kept questions).1 = (inquire options source bare questions).1 ∧
      (inquire options source kept questions).2.Alike k plugins
        (inquire options source bare questions).2 ∧
      (inquire options source bare questions).2.started = bare.started + questions.length := by
  induction questions generalizing kept bare with
  | nil => exact ⟨rfl, h, rfl⟩
  | cons q rest ih =>
    obtain ⟨htold, hstill⟩ := h.fetch hsource
    obtain ⟨houtcomes, hafter, hstarted⟩ := ih hstill
    refine ⟨?_, hafter, ?_⟩
    · simp only [inquire, htold, houtcomes]
    · rw [inquire, hstarted, Supply.started_fetchFrom h.uncached, List.length_cons, Nat.add_assoc,
        Nat.add_comm 1]

/-- **Keeping the list is not noticed.**  Take any catalog whose first `k` enumerations end with
faults, possibly another one each time, and whose later ones all end with one list, or one that never
succeeds; let it report of each plugin whatever it likes.  Ask any questions one after the other, the
collaborators being different ones each time, in front of this catalog and in front of one that keeps
its list.  What comes of the questions is the same: the verdicts, the candidates and the faults.  After
`n` questions the catalog has been asked `n` times where nothing is kept, and `min n (k + 1)` times
where the list is. -/
theorem inquire_kept_eq_bare (options : PolicyOptions) (source : PluginSource) (k : ℕ∞)
    (plugins : List PluginDescriptor) (faultsFirst : source.FaultsFirst k plugins)
    (questions : List Question) :
    let bare := inquire options source {} questions
    let kept := inquire options source { cache := some {} } questions
    kept.1 = bare.1 ∧ bare.2.started = questions.length ∧
      (kept.2.started : ℕ∞) = min (questions.length : ℕ∞) (k + 1) := by
  intro bare kept
  have hstart : Supply.Alike k plugins { cache := some {} } {} := .cold zero_le rfl rfl rfl
  obtain ⟨houtcomes, hafter, hstarted⟩ := inquire_alike options faultsFirst hstart questions
  have hlength : bare.2.started = questions.length := hstarted.trans (Nat.zero_add _)
  refine ⟨houtcomes, hlength, ?_⟩
  rw [hafter.started_eq_min]
  exact congrArg (fun n : ℕ => min (n : ℕ∞) (k + 1)) hlength

/-- Two faults of different kinds, then a list.  The last verdict is on what was kept, by which time
the filter has changed its mind, and though the descriptor lists no type, the catalog reports one. -/
theorem inquire_kept_eq_bare_two_faults :
    let plugin : PluginDescriptor := { id := ⟨"p"⟩ }
    let source : PluginSource :=
      { answerAt := fun
          | 0 => .error (.unavailable "a")
          | 1 => .error (.failed "b")
          | _ => .ok [plugin]
        associationsOf := fun _ => [{ mimeType := "a/b" }] }
    let standing := fun available : Bool =>
      { available := some fun _ _ => .ok available
        unstable := fun _ => .ok false
        isolated := fun _ => .ok false : Collaborators }
    let request : Request := { (default : Request) with mimeType := "a/b" }
    let questions : List Question :=
      [.verdict (standing true) request, .candidates request.url "a/b" true,
        .verdict (standing true) request, .verdict (standing false) request]
    let kept := inquire {} source { cache := some {} } questions
    kept.1 = (inquire {} source {} questions).1 ∧ kept.2.started = 3 ∧
      kept.1 = [.verdict (.without .notFound), .candidates (.error (.failed "b")),
        .verdict (.on .allowed plugin "a/b"), .verdict (.on .disabled plugin "a/b")] := by
  intro plugin source standing request questions kept
  have hfaults : source.FaultsFirst 2 [plugin] := by
    refine ⟨fun number hlt => ?_, fun number hge => ?_⟩
    · have hfew : number < 2 := by exact_mod_cast hlt
      match number, hfew with
      | 0, _ => exact ⟨_, rfl⟩
      | 1, _ => exact ⟨_, rfl⟩
    · have hmany : 2 ≤ number := by exact_mod_cast hge
      match number, hmany with
      | _ + 2, _ => rfl
  obtain ⟨hsame, -, hstarted⟩ := inquire_kept_eq_bare {} source 2 [plugin] hfaults questions
  refine ⟨hsame, ?_, rfl⟩
  have hmin : min ((questions.length : ℕ) : ℕ∞) (2 + 1) = ((3 : ℕ) : ℕ∞) := by rfl
  exact Nat.cast_inj.mp (hstarted.trans hmin)

end Policy

end PluginArbiter
