/-
# What a history looks like

Instants may be reported in any order, also backwards, and the loop that drops them from the front
stops at the first one that is neither expired nor too many, whatever stands behind it.  So what is
kept need not be sorted, and some of it may be expired.  This module says what is true of it all the
same (`Represents`): it is the end of what was reported, it is bounded, it begins with an instant
that is not expired and ends with the last report.

Two things follow for the answers.  A plugin is unstable exactly when the history is full and all of
it lies within the window (`isUnstable_after_iff_full`): with what is expired behind the front it
can at most be too few.  And as time goes on instants leave the window and none comes back, so a
plugin that counts as stable does so until its next crash, whatever is cleared or reported of others
(`isUnstable_after_quiet`).

A question may be asked at any instant, also before the crashes; what lies ahead counts as within
the window.

Main statements:
* `Represents.record`: one more report, whenever it was;
* `instants_represent_reports`: the shape of every history, and its answers.
-/
import PluginArbiter.Proofs.CrashHistory.Retention

namespace PluginArbiter

namespace CrashHistory

variable {limit window now : Nat} {kept full : List Nat}

/-! ## 1. What pruning leaves -/

/-- Pruning stops at an instant that is not expired. -/
theorem recent_of_head?_pruned {xs : List Nat} {oldest : Nat}
    (h : (pruned limit window now xs).head? = some oldest) : now - oldest < window := by
  induction xs with
  | nil => simp [pruned] at h
  | cons x rest ih =>
    rw [pruned] at h
    split at h
    · exact ih h
    · rename_i hstays
      obtain rfl : x = oldest := by simpa using h
      simp only [isExpired, Bool.or_eq_true, decide_eq_true_eq, not_or, Nat.not_le] at hstays
      exact hstays.1

/-- With no window nothing is left. -/
theorem pruned_no_window (limit now : Nat) (xs : List Nat) : pruned limit 0 now xs = [] := by
  cases hleft : pruned limit 0 now xs with
  | nil => rfl
  | cons oldest rest =>
    have hyoung := recent_of_head?_pruned (congrArg List.head? hleft)
    exact absurd hyoung (Nat.not_lt_zero _)

/-- **What is reported now is left**, if anything can be. -/
theorem getLast?_pruned (hlimit : 0 < limit) (hwindow : 0 < window) (xs : List Nat) :
    (pruned limit window now (xs ++ [now])).getLast? = some now := by
  induction xs with
  | nil =>
    have hyoung : ¬ (isExpired window now now || decide (limit < 1)) = true := by
      simp [isExpired]
      omega
    rw [List.nil_append, pruned, List.length_nil, if_neg hyoung]
    rfl
  | cons x rest ih =>
    rw [List.cons_append, pruned]
    split
    · exact ih
    · rw [← List.cons_append, List.getLast?_concat]

/-! ## 2. The shape of a history -/

/-- What is kept of the reports: the end of them, no more than the limit.  It ends with the last
report, unless there is no window, and then it is empty.  It begins with one that was not expired
when the last one came in. -/
structure Represents (limit window : Nat) (kept full : List Nat) : Prop where
  suffix : kept <:+ full
  length_le : kept.length ≤ limit
  last : 0 < window → kept.getLast? = full.getLast?
  empty : window = 0 → kept = []
  front : ∀ oldest latest, kept.head? = some oldest → full.getLast? = some latest →
    latest - oldest < window

theorem Represents.nil (limit window : Nat) : Represents limit window [] [] where
  suffix := List.suffix_refl _
  length_le := Nat.zero_le _
  last := fun _ => rfl
  empty := fun _ => rfl
  front := fun _ _ h => absurd h (by simp)

/-- **One more report**, whenever it was. -/
theorem Represents.record (hlimit : 0 < limit) (h : Represents limit window kept full) (at_ : Nat) :
    Represents limit window (pruned limit window at_ (kept ++ [at_])) (full ++ [at_]) where
  suffix := by
    obtain ⟨front, rfl⟩ := h.suffix
    exact (pruned_suffix _ _ _ _).trans ⟨front, (List.append_assoc ..).symm⟩
  length_le := length_pruned_le _ _ _ _
  last := fun hwindow => by rw [getLast?_pruned hlimit hwindow, List.getLast?_concat]
  empty := by
    rintro rfl
    exact pruned_no_window _ _ _
  front := by
    intro oldest latest holdest hlatest
    obtain rfl : at_ = latest := by simpa using hlatest
    exact recent_of_head?_pruned holdest

theorem represents_after (limit window : Nat) (incidents : List Incident) (id : PluginId) :
    Represents (max limit 1) window (((ofLimits limit window).after incidents).instants id)
      (crashesSinceCleared id incidents) :=
  have hlimit : 0 < max limit 1 := Nat.lt_of_lt_of_le Nat.one_pos (Nat.le_max_right _ _)
  instants_after_of limit window (Represents.nil _ _) (fun _ _ at_ h => h.record hlimit at_)
    incidents id

/-! ## 3. Answers -/

/-- Enough of what is kept lies within the window exactly when it is full and all of it does. -/
theorem Represents.enough_iff_full (h : Represents limit window kept full) (now : Nat) :
    limit ≤ recent window now kept ↔ kept.length = limit ∧ ∀ at_ ∈ kept, now - at_ < window := by
  constructor
  · intro henough
    have hle : recent window now kept ≤ kept.length := List.countP_le_length
    have hall := List.countP_eq_length.mp (Nat.le_antisymm hle (h.length_le.trans henough))
    refine ⟨Nat.le_antisymm h.length_le (henough.trans hle), fun at_ ha => ?_⟩
    exact of_decide_eq_true (hall at_ ha)
  · rintro ⟨hfull, hall⟩
    rw [recent_eq_length hall, hfull]

/-- **A plugin is unstable exactly when its history is full and lies within the window.** -/
theorem isUnstable_after_iff_full (limit window : Nat) (incidents : List Incident) (id : PluginId)
    (now : Nat) :
    let history := (ofLimits limit window).after incidents
    history.isUnstable id now = true ↔
      (history.instants id).length = max limit 1 ∧
        ∀ at_ ∈ history.instants id, now - at_ < window := by
  intro history
  obtain ⟨hlimit, hwindow⟩ := (ofLimits limit window).after_limits incidents
  rw [isUnstable_eq_true_iff, hlimit, hwindow]
  exact (represents_after limit window incidents id).enough_iff_full now

/-- Where no crash of a plugin is reported its history stays as it is, or it is cleared. -/
theorem instants_after_quiet (h : CrashHistory) (id : PluginId) {later : List Incident}
    (quiet : ∀ i ∈ later, i.instantOf? id = none) :
    (h.after later).instants id = h.instants id ∨ (h.after later).instants id = [] := by
  induction later using List.reverseRecOn with
  | nil => exact Or.inl rfl
  | append_singleton is i ih =>
    have hbefore := ih fun j hj => quiet j (List.mem_append_left _ hj)
    have hnow := quiet i (List.mem_append_right _ (List.mem_singleton_self i))
    rw [after_concat]
    cases i with
    | crash id' at_ =>
      have hne : id' ≠ id := fun he => absurd hnow (by simp [Incident.instantOf?, he])
      rwa [heed, instants_record_of_ne _ hne]
    | cleared id' =>
      by_cases he : id' = id
      · subst he
        exact Or.inr (instants_clear _ _)
      · rwa [heed, instants_clear_of_ne _ he]

/-- **What counts as stable stays so until the next crash**, at every later instant. -/
theorem isUnstable_after_quiet (limit window : Nat) (incidents : List Incident) (id : PluginId)
    {now now' : Nat} {later : List Incident}
    (stable : ((ofLimits limit window).after incidents).isUnstable id now = false)
    (hle : now ≤ now') (quiet : ∀ i ∈ later, i.instantOf? id = none) :
    (((ofLimits limit window).after incidents).after later).isUnstable id now' = false := by
  refine Bool.eq_false_iff.mpr fun hunstable => ?_
  rw [← after_append] at hunstable
  obtain ⟨hfull, hall⟩ := (isUnstable_after_iff_full limit window _ id now').mp hunstable
  rw [after_append] at hfull hall
  have hkept := ((ofLimits limit window).after incidents).instants_after_quiet id quiet
  rcases hkept with hsame | hcleared
  · rw [hsame] at hfull hall
    have hearlier := (isUnstable_after_iff_full limit window incidents id now).mpr
      ⟨hfull, fun at_ ha => Nat.lt_of_le_of_lt (Nat.sub_le_sub_right hle at_) (hall at_ ha)⟩
    exact absurd hearlier (Bool.eq_false_iff.mp stable)
  · -- a history that was cleared is not full, for one crash is always asked for
    rw [hcleared, List.length_nil] at hfull
    omega

/-- **The shape of every history, and its answers.**  Take any limit, any window and any sequence of
crashes and clearings of any plugins, at instants in any order.  What is kept of a plugin is the end
of its reports since it was cleared, in the order in which they came, no more than the limit but at
least one.  It ends with the last report if there is a window and is empty if there is none, and its
first instant was not expired at the last report.

So at any instant, also before the crashes, the plugin is unstable exactly when as many as that are
kept and all of them lie within the window, where what lies ahead does.  Once it is not, it is not
at any later instant either, until its next crash is reported. -/
theorem instants_represent_reports (limit window : Nat) (incidents : List Incident)
    (id : PluginId) :
    let history := (ofLimits limit window).after incidents
    let reported := crashesSinceCleared id incidents
    let kept := history.instants id
    (kept <:+ reported ∧ kept.length ≤ max 1 limit ∧
      (0 < window → kept.getLast? = reported.getLast?) ∧ (window = 0 → kept = []) ∧
      ∀ oldest latest, kept.head? = some oldest → reported.getLast? = some latest →
        latest - oldest < window) ∧
    (∀ now, history.isUnstable id now = true ↔
      kept.length = max 1 limit ∧ ∀ at_ ∈ kept, now - at_ < window) ∧
    ∀ now now' later, history.isUnstable id now = false → now ≤ now' →
      (∀ i ∈ later, i.instantOf? id = none) → (history.after later).isUnstable id now' = false := by
  intro history reported kept
  have h := represents_after limit window incidents id
  rw [Nat.max_comm 1 limit]
  refine ⟨⟨h.suffix, h.length_le, h.last, h.empty, h.front⟩,
    isUnstable_after_iff_full limit window incidents id, ?_⟩
  intro now now' later stable hle quiet
  exact isUnstable_after_quiet limit window incidents id stable hle quiet

/-- Of four crashes that are reported backwards and forwards two are kept, the older one last.  Both
lie within the window up to the instant 79, and from 80 on the plugin stays stable, whatever becomes
of another. -/
theorem instants_represent_reports_backwards :
    let incidents : List Incident :=
      [.crash ⟨"p"⟩ 100, .crash ⟨"p"⟩ 10, .crash ⟨"q"⟩ 50, .crash ⟨"p"⟩ 90, .crash ⟨"p"⟩ 20]
    let history := (ofLimits 2 60).after incidents
    history.instants ⟨"p"⟩ = [90, 20] ∧
      history.isUnstable ⟨"p"⟩ 5 = true ∧ history.isUnstable ⟨"p"⟩ 79 = true ∧
      history.isUnstable ⟨"p"⟩ 80 = false ∧
      (history.after [.crash ⟨"q"⟩ 80, .cleared ⟨"q"⟩]).isUnstable ⟨"p"⟩ 300 = false := by
  intro incidents history
  obtain ⟨-, hunstable, hstable⟩ := instants_represent_reports 2 60 incidents ⟨"p"⟩
  have hedge : history.isUnstable ⟨"p"⟩ 80 = false :=
    Bool.eq_false_iff.mpr fun h => absurd ((hunstable 80).mp h) (by decide)
  refine ⟨by decide, (hunstable 5).mpr (by decide), (hunstable 79).mpr (by decide), hedge, ?_⟩
  exact hstable 80 300 _ hedge (by decide) (by decide)

end CrashHistory

end PluginArbiter
