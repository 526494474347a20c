/-
# What is forgotten is never needed

A record drops instants for two reasons: they have fallen out of the window, or there are more than
the limit.  The question that is asked later is whether at least as many crashes as the limit lie
within the window.  This module compares the history with a log that never drops anything.

What carries the argument is a fact about the instant that was dropped last (`Retains`): either as
many as the limit have come since, or it is expired as seen from some crash.  It is kept up by every
record, whatever instants are recorded in whatever order, and it gives what the history answers: a
plugin is unstable exactly when the crashes reported last, as many as the limit, all lie within the
window (`LatestRecent`).

Where instants do not decrease these are the crashes that happened last, and so the answer is that of
the full log.  Nothing of the kind is claimed for instants in another order.

Main statements:
* `Retains.record`: one more crash keeps the fact up;
* `Retains.enough_iff`: the pruned history answers by what was reported last;
* `isUnstable_after_iff_latest`: the same for any sequence of crashes and clearings of any plugins;
* `isUnstable_after_iff`, `isUnstable_answers_full_log`: where instants do not decrease the answer is
  that of the full log, whatever happens to other plugins.
-/
import Mathlib.Data.List.DropRight
import Mathlib.Data.List.Induction
import PluginArbiter.CrashHistory

namespace PluginArbiter

namespace CrashHistory

variable {limit window now : Nat} {kept full : List Nat}

/-! ## 1. Instants of one plugin -/

/-- How many of some instants lie within the window that ends now. -/
def recent (window now : Nat) (instants : List Nat) : Nat :=
  instants.countP fun at_ => now - at_ < window

theorem recent_append (window now : Nat) (xs ys : List Nat) :
    recent window now (xs ++ ys) = recent window now xs + recent window now ys :=
  List.countP_append

theorem recent_eq_length (h : ∀ at_ ∈ kept, now - at_ < window) :
    recent window now kept = kept.length :=
  List.countP_eq_length.mpr fun x hx => decide_eq_true (h x hx)

/-- **What pruning drops.**  If it drops anything, then the last instant to go was expired, or as
many as the limit come after it. -/
theorem pruned_cases (limit window now : Nat) (xs : List Nat) :
    pruned limit window now xs = xs ∨
      ∃ before last, xs = before ++ last :: pruned limit window now xs ∧
        (isExpired window now last = true ∨ limit ≤ (pruned limit window now xs).length) := by
  induction xs with
  | nil => exact Or.inl rfl
  | cons oldest rest ih =>
    rw [pruned]
    split
    · rename_i hdrop
      refine Or.inr ?_
      rcases ih with hall | ⟨before, last, heq, hwhy⟩
      · refine ⟨[], oldest, by rw [hall]; rfl, ?_⟩
        rw [hall]
        simp only [Bool.or_eq_true, decide_eq_true_eq] at hdrop
        exact hdrop.imp_right Nat.lt_succ_iff.mp
      · exact ⟨oldest :: before, last, congrArg (oldest :: ·) heq, hwhy⟩
    · exact Or.inl rfl

/-- The kept instants are the last ones of the full log and no more than the limit.  Either nothing
is missing, or there are as many as the limit, or the one right before them is expired as seen from
some crash of the log. -/
structure Retains (limit window : Nat) (kept full : List Nat) : Prop where
  suffix : kept <:+ full
  length_le : kept.length ≤ limit
  cut : kept = full ∨ kept.length = limit ∨
    ∃ before last, full = before ++ last :: kept ∧ ∃ at_ ∈ full, isExpired window at_ last = true

theorem Retains.nil (limit window : Nat) : Retains limit window [] [] :=
  ⟨List.suffix_refl _, Nat.zero_le _, Or.inl rfl⟩

/-- **One more crash**, whenever it happened. -/
theorem Retains.record (h : Retains limit window kept full) (at_ : Nat) :
    Retains limit window (pruned limit window at_ (kept ++ [at_])) (full ++ [at_]) := by
  obtain ⟨front, rfl⟩ := h.suffix
  have hlen := length_pruned_le limit window at_ (kept ++ [at_])
  have hsuffix := pruned_suffix limit window at_ (kept ++ [at_])
  refine ⟨hsuffix.trans ⟨front, (List.append_assoc ..).symm⟩, hlen, ?_⟩
  rcases pruned_cases limit window at_ (kept ++ [at_]) with hall | ⟨before, last, heq, hwhy⟩
  · rw [hall] at hlen ⊢
    rcases h.cut with hfull | hmany | ⟨before, last, heq, a, ha, hexpired⟩
    · exact Or.inl (by rw [← hfull])
    · rw [List.length_append, hmany] at hlen
      exact absurd hlen (Nat.not_succ_le_self limit)
    · refine Or.inr (Or.inr ⟨before, last, ?_, a, List.mem_append_left _ ha, hexpired⟩)
      rw [heq, List.append_assoc]
      rfl
  · generalize pruned limit window at_ (kept ++ [at_]) = kept' at heq hwhy hlen ⊢
    rcases hwhy with hexpired | hmany
    · refine Or.inr (Or.inr ⟨front ++ before, last, ?_, at_, by simp, hexpired⟩)
      rw [List.append_assoc, heq, List.append_assoc]
    · exact Or.inr (Or.inl (Nat.le_antisymm hlen hmany))

/-! ## 2. The last ones of a log -/

/-- There are as many instants as the limit, and that many of the last ones all lie within the window
that ends now. -/
def LatestRecent (limit window now : Nat) (instants : List Nat) : Prop :=
  limit ≤ instants.length ∧ ∀ at_ ∈ instants.rtake limit, now - at_ < window

theorem rdrop_append_rtake (n : Nat) (xs : List Nat) : xs.rdrop n ++ xs.rtake n = xs :=
  List.take_append_drop _ _

theorem length_rtake_of_le {n : Nat} {xs : List Nat} (h : n ≤ xs.length) :
    (xs.rtake n).length = n := by
  rw [List.rtake, List.length_drop]
  omega

theorem rtake_of_suffix (h : kept <:+ full) : full.rtake kept.length = kept := by
  obtain ⟨front, rfl⟩ := h
  simp [List.rtake]

theorem mem_rtake_of_lt {before rest : List Nat} {last : Nat} (h : rest.length < limit) :
    last ∈ (before ++ last :: rest).rtake limit := by
  have hle : (before ++ last :: rest).length - limit ≤ before.length := by
    simp only [List.length_append, List.length_cons]
    omega
  rw [List.rtake, List.drop_append_of_le_length hle]
  simp

/-- **The pruned history answers by what was reported last**, to every question that is not asked
before any crash. -/
theorem Retains.enough_iff (h : Retains limit window kept full) (hnow : ∀ at_ ∈ full, at_ ≤ now) :
    limit ≤ recent window now kept ↔ LatestRecent limit window now full := by
  constructor
  · intro hk
    have hle : recent window now kept ≤ kept.length := List.countP_le_length
    have hlen : kept.length = limit := Nat.le_antisymm h.length_le (hk.trans hle)
    have hall := List.countP_eq_length.mp (Nat.le_antisymm hle (hlen.trans_le hk))
    refine ⟨hlen ▸ h.suffix.length_le, ?_⟩
    rw [← hlen, rtake_of_suffix h.suffix]
    exact fun at_ ha => of_decide_eq_true (hall at_ ha)
  · rintro ⟨hmany, hall⟩
    have hlen : kept.length = limit := by
      rcases h.cut with hfull | hlen | ⟨before, last, heq, a, ha, hexpired⟩
      · exact Nat.le_antisymm h.length_le (hfull ▸ hmany)
      · exact hlen
      · -- with fewer kept, the one right before them would count and yet be expired
        refine Nat.le_antisymm h.length_le (Nat.le_of_not_lt fun hfew => ?_)
        have hyoung := hall last (heq ▸ mem_rtake_of_lt hfew)
        have hpast := hnow a ha
        simp only [isExpired, decide_eq_true_eq] at hexpired
        omega
    rw [← hlen, rtake_of_suffix h.suffix] at hall
    rw [recent_eq_length hall, hlen]

/-- If the last ones lie within the window then enough do, in whatever order they came. -/
theorem LatestRecent.enough (h : LatestRecent limit window now full) :
    limit ≤ recent window now full := by
  obtain ⟨hmany, hall⟩ := h
  calc limit = recent window now (full.rtake limit) := by
        rw [recent_eq_length hall, length_rtake_of_le hmany]
    _ ≤ recent window now (full.rdrop limit) + recent window now (full.rtake limit) :=
        Nat.le_add_left _ _
    _ = recent window now full := by rw [← recent_append, rdrop_append_rtake]

/-- Where instants do not decrease, enough of them lie within the window only if the last ones do. -/
theorem latestRecent_of_sorted (hs : full.Pairwise (· ≤ ·)) (h : limit ≤ recent window now full) :
    LatestRecent limit window now full := by
  have hmany : limit ≤ full.length := h.trans List.countP_le_length
  refine ⟨hmany, fun at_ ha => ?_⟩
  by_contra hold
  -- then none of the earlier ones lies within the window, and not all of the last ones do
  rw [← rdrop_append_rtake limit full] at h hs
  have hearlier : recent window now (full.rdrop limit) = 0 := by
    refine List.countP_eq_zero.mpr fun x hx => ?_
    have hle := (List.pairwise_append.mp hs).2.2 x hx at_ ha
    simp only [decide_eq_true_eq]
    omega
  have hlast : recent window now (full.rtake limit) < (full.rtake limit).length := by
    refine Nat.lt_of_le_of_ne List.countP_le_length fun heq => hold ?_
    exact of_decide_eq_true (List.countP_eq_length.mp heq at_ ha)
  rw [recent_append, hearlier, Nat.zero_add] at h
  rw [length_rtake_of_le hmany] at hlast
  exact absurd h (Nat.not_le_of_lt hlast)

/-! ## 3. Histories of many plugins -/

/-- Something that a history is told. -/
inductive Incident
  | crash (id : PluginId) (at_ : Nat)
  | cleared (id : PluginId)
  deriving DecidableEq

/-- A history that was told of an incident. -/
def heed (h : CrashHistory) : Incident → CrashHistory
  | .crash id at_ => h.record id at_
  | .cleared id => h.clear id

/-- A history that was told of some incidents, one after the other. -/
def after (h : CrashHistory) (incidents : List Incident) : CrashHistory := incidents.foldl heed h

theorem after_append (h : CrashHistory) (earlier later : List Incident) :
    h.after (earlier ++ later) = (h.after earlier).after later :=
  List.foldl_append

theorem after_concat (h : CrashHistory) (incidents : List Incident) (i : Incident) :
    h.after (incidents ++ [i]) = (h.after incidents).heed i :=
  h.after_append incidents [i]

/-- The instant of a crash of a plugin. -/
def Incident.instantOf? (id : PluginId) : Incident → Option Nat
  | .crash id' at_ => if id' = id then some at_ else none
  | .cleared _ => none

/-- The instants of all crashes of a plugin. -/
def crashesOf (id : PluginId) (incidents : List Incident) : List Nat :=
  incidents.filterMap (·.instantOf? id)

/-- The instants of the crashes of a plugin since it was cleared for the last time. -/
def crashesSinceCleared (id : PluginId) (incidents : List Incident) : List Nat :=
  crashesOf id (incidents.reverse.takeWhile (· ≠ .cleared id)).reverse

theorem crashesSinceCleared_concat (id : PluginId) (incidents : List Incident) (i : Incident) :
    crashesSinceCleared id (incidents ++ [i]) =
      if i = .cleared id then []
      else crashesSinceCleared id incidents ++ (i.instantOf? id).toList := by
  by_cases hi : i = .cleared id
  · simp [crashesSinceCleared, crashesOf, hi]
  · cases hat : i.instantOf? id <;> simp [crashesSinceCleared, crashesOf, hi, hat]

/-- They are the last ones of all its crashes. -/
theorem crashesSinceCleared_suffix (id : PluginId) (incidents : List Incident) :
    crashesSinceCleared id incidents <:+ crashesOf id incidents := by
  have hsuffix : (incidents.reverse.takeWhile (· ≠ .cleared id)).reverse <:+ incidents := by
    have hprefix := List.takeWhile_prefix (l := incidents.reverse) (· ≠ Incident.cleared id)
    simpa using List.reverse_suffix.mpr hprefix
  exact hsuffix.filterMap _

/-- To take the instants of one plugin out leaves those of the others. -/
theorem instants_clear_of_ne (h : CrashHistory) {id id' : PluginId} (hne : id' ≠ id) :
    (h.clear id').instants id = h.instants id := by
  have hlookup : ∀ records : List (PluginId × List Nat),
      (records.filter (·.1 ≠ id')).lookup id = records.lookup id := by
    intro records
    induction records with
    | nil => rfl
    | cons r rest ih =>
      by_cases he : r.1 = id'
      · have hother : (id == r.1) = false := by simpa [he] using Ne.symm hne
        rw [List.filter_cons_of_neg (by simp [he]), ih, List.lookup_cons, hother]
      · rw [List.filter_cons_of_pos (by simp [he]), List.lookup_cons, List.lookup_cons, ih]
  simp only [clear, instants, hlookup]

/-- What is kept of a plugin after a record. -/
theorem instants_record (h : CrashHistory) (id : PluginId) (at_ : Nat) :
    (h.record id at_).instants id = pruned h.limit h.window at_ (h.instants id ++ [at_]) := by
  simp [record, instants]

theorem instants_record_of_ne (h : CrashHistory) {id id' : PluginId} (hne : id' ≠ id)
    (at_ : Nat) : (h.record id' at_).instants id = h.instants id := by
  have hother : (id == id') = false := by simpa using Ne.symm hne
  rw [← instants_clear_of_ne h hne]
  simp only [record, clear, instants, List.lookup_cons, hother]

theorem after_limits (h : CrashHistory) (incidents : List Incident) :
    (h.after incidents).limit = h.limit ∧ (h.after incidents).window = h.window := by
  induction incidents using List.reverseRecOn with
  | nil => exact ⟨rfl, rfl⟩
  | append_singleton is i ih =>
    rw [after_concat]
    cases i <;> exact ih

/-- **What every record keeps up is true of each plugin's history**, compared with its crashes since it
was cleared, whatever happens to other plugins. -/
theorem instants_after_of {P : List Nat → List Nat → Prop} (limit window : Nat) (nil : P [] [])
    (record : ∀ kept full at_, P kept full →
      P (pruned (max limit 1) window at_ (kept ++ [at_])) (full ++ [at_]))
    (incidents : List Incident) (id : PluginId) :
    P (((ofLimits limit window).after incidents).instants id)
      (crashesSinceCleared id incidents) := by
  induction incidents using List.reverseRecOn with
  | nil => exact nil
  | append_singleton is i ih =>
    obtain ⟨hlimit, hwindow⟩ := (ofLimits limit window).after_limits is
    rw [crashesSinceCleared_concat, after_concat]
    cases i with
    | crash id' at_ =>
      by_cases he : id' = id
      · subst he
        simp only [reduceCtorEq, if_false, Incident.instantOf?, if_true, Option.toList_some]
        rw [heed, instants_record, hlimit, hwindow]
        exact record _ _ at_ ih
      · simpa only [reduceCtorEq, if_false, Incident.instantOf?, he, Option.toList_none,
          List.append_nil, heed, instants_record_of_ne _ he] using ih
    | cleared id' =>
      by_cases he : id' = id
      · subst he
        simp only [if_true, heed, instants_clear]
        exact nil
      · simpa only [Incident.cleared.injEq, he, if_false, Incident.instantOf?, Option.toList_none,
          List.append_nil, heed, instants_clear_of_ne _ he] using ih

/-- **Each plugin's history retains what is needed**, whatever happens to other plugins. -/
theorem retains_after (limit window : Nat) (incidents : List Incident) (id : PluginId) :
    Retains (max limit 1) window (((ofLimits limit window).after incidents).instants id)
      (crashesSinceCleared id incidents) :=
  instants_after_of limit window (Retains.nil _ _) (fun _ _ at_ h => h.record at_) incidents id

/-- Whether a plugin is unstable is a matter of its instants. -/
theorem isUnstable_eq_true_iff (h : CrashHistory) (id : PluginId) (now : Nat) :
    h.isUnstable id now = true ↔ h.limit ≤ recent h.window now (h.instants id) := by
  have hyoung : ((h.instants id).filter fun at_ => !isExpired h.window now at_).length
      = recent h.window now (h.instants id) := by
    rw [← List.countP_eq_length_filter, recent]
    refine List.countP_congr fun x _ => ?_
    simp [isExpired]
  rw [isUnstable, hyoung]
  exact decide_eq_true_iff

/-- **A plugin is unstable exactly when the crashes reported last since it was cleared all lie within
the window**, to a question that is not asked before any of them. -/
theorem isUnstable_after_iff_latest (limit window : Nat) (incidents : List Incident) (id : PluginId)
    {now : Nat} (hnow : ∀ at_ ∈ crashesSinceCleared id incidents, at_ ≤ now) :
    ((ofLimits limit window).after incidents).isUnstable id now = true ↔
      LatestRecent (max limit 1) window now (crashesSinceCleared id incidents) := by
  obtain ⟨hlimit, hwindow⟩ := (ofLimits limit window).after_limits incidents
  rw [← (retains_after limit window incidents id).enough_iff hnow, isUnstable_eq_true_iff, hlimit,
    hwindow]
  rfl

/-- **Where its crashes were reported in order, a plugin is unstable exactly when enough of all of
them since it was cleared lie within the window**, to a question that is not asked before any of
them. -/
theorem isUnstable_after_iff (limit window : Nat) (incidents : List Incident) (id : PluginId)
    {now : Nat} (hs : (crashesOf id incidents).Pairwise (· ≤ ·))
    (hnow : ∀ at_ ∈ crashesOf id incidents, at_ ≤ now) :
    ((ofLimits limit window).after incidents).isUnstable id now = true ↔
      max limit 1 ≤ recent window now (crashesSinceCleared id incidents) := by
  have hsuffix := crashesSinceCleared_suffix id incidents
  rw [isUnstable_after_iff_latest limit window incidents id fun at_ ha =>
    hnow at_ (hsuffix.subset ha)]
  exact ⟨LatestRecent.enough, latestRecent_of_sorted (hs.sublist hsuffix.sublist)⟩

/-! ## 4. Other plugins -/

/-- The plugin that an incident is about. -/
def Incident.plugin : Incident → PluginId
  | .crash id _ => id
  | .cleared id => id

/-- What an incident makes of the instants of a plugin depends on them alone. -/
theorem instants_heed_congr {h h' : CrashHistory} {id : PluginId} (hlimit : h'.limit = h.limit)
    (hwindow : h'.window = h.window) (same : h'.instants id = h.instants id) (i : Incident) :
    (h'.heed i).instants id = (h.heed i).instants id := by
  cases i with
  | crash id' at_ =>
    by_cases he : id' = id
    · subst he
      rw [heed, heed, instants_record, instants_record, same, hlimit, hwindow]
    · rw [heed, heed, instants_record_of_ne h' he, instants_record_of_ne h he, same]
  | cleared id' =>
    by_cases he : id' = id
    · subst he
      rw [heed, heed, instants_clear, instants_clear]
    · rw [heed, heed, instants_clear_of_ne h' he, instants_clear_of_ne h he, same]

/-- An incident of another plugin leaves them alone. -/
theorem instants_heed_of_ne (h : CrashHistory) {id : PluginId} {i : Incident} (hne : i.plugin ≠ id) :
    (h.heed i).instants id = h.instants id := by
  cases i with
  | crash id' at_ => exact instants_record_of_ne h hne at_
  | cleared id' => exact instants_clear_of_ne h hne

/-- **The instants of a plugin are those of a history that was told of it alone.** -/
theorem instants_after_filter (h : CrashHistory) (incidents : List Incident) (id : PluginId) :
    (h.after incidents).instants id
      = (h.after (incidents.filter (·.plugin = id))).instants id := by
  induction incidents using List.reverseRecOn with
  | nil => rfl
  | append_singleton is i ih =>
    rw [after_concat, List.filter_append]
    by_cases he : i.plugin = id
    · rw [List.filter_cons_of_pos (by simpa using he), List.filter_nil, after_concat]
      have hlimits := h.after_limits is
      have hlimits' := h.after_limits (is.filter (·.plugin = id))
      exact instants_heed_congr (hlimits.1.trans hlimits'.1.symm) (hlimits.2.trans hlimits'.2.symm)
        ih i
    · rw [List.filter_cons_of_neg (by simpa using he), List.filter_nil, List.append_nil,
        instants_heed_of_ne _ he, ih]

/-- What a history says of a plugin depends only on the incidents that are about it. -/
theorem isUnstable_after_congr (h : CrashHistory) {incidents others : List Incident} {id : PluginId}
    (same : others.filter (·.plugin = id) = incidents.filter (·.plugin = id)) (now : Nat) :
    (h.after others).isUnstable id now = (h.after incidents).isUnstable id now := by
  have hlimits := h.after_limits incidents
  have hlimits' := h.after_limits others
  rw [isUnstable, isUnstable, hlimits.1, hlimits.2, hlimits'.1, hlimits'.2, h.instants_after_filter,
    same, ← h.instants_after_filter]

/-- **A history that forgets answers like one that does not.**  Take any limit and window and any
sequence of crashes and clearings of any plugins.  If the instants reported for a plugin do not
decrease, then to every question that is not asked before any of them the answer is yes exactly when
at least as many as the limit of all its crashes since it was cleared, but at least one, lie within
the window.  What is reported of other plugins has no influence on any answer, in whatever order and
between whichever reports it comes. -/
theorem isUnstable_answers_full_log (limit window : Nat) (incidents : List Incident) (id : PluginId)
    {now : Nat} (sorted : (crashesOf id incidents).Pairwise (· ≤ ·))
    (past : ∀ at_ ∈ crashesOf id incidents, at_ ≤ now) :
    (((ofLimits limit window).after incidents).isUnstable id now = true ↔
        max limit 1 ≤ recent window now (crashesSinceCleared id incidents)) ∧
      ∀ others : List Incident,
        others.filter (·.plugin = id) = incidents.filter (·.plugin = id) →
        ∀ at_, ((ofLimits limit window).after others).isUnstable id at_
          = ((ofLimits limit window).after incidents).isUnstable id at_ :=
  ⟨isUnstable_after_iff limit window incidents id sorted past,
    fun _ same at_ => isUnstable_after_congr _ same at_⟩

/-- Of four crashes the first is dropped for its age and the second for the limit.  The other two
happened at one instant; they lie within the window up to the instant 119 and not at 120, and what was
reported of another plugin changes nothing. -/
theorem isUnstable_answers_full_log_edge :
    let incidents : List Incident :=
      [.crash ⟨"p"⟩ 0, .crash ⟨"q"⟩ 90, .crash ⟨"p"⟩ 30, .cleared ⟨"q"⟩, .crash ⟨"p"⟩ 60,
        .crash ⟨"p"⟩ 60]
    let alone : List Incident := incidents.filter (·.plugin = ⟨"p"⟩)
    ((ofLimits 2 60).after incidents).instants ⟨"p"⟩ = [60, 60] ∧
      ((ofLimits 2 60).after incidents).isUnstable ⟨"p"⟩ 119 = true ∧
      ((ofLimits 2 60).after incidents).isUnstable ⟨"p"⟩ 120 = false ∧
      ((ofLimits 2 60).after alone).isUnstable ⟨"p"⟩ 120 = false := by
  intro incidents alone
  have hyoung := @isUnstable_answers_full_log 2 60 incidents ⟨"p"⟩ 119 (by decide) (by decide)
  have hold := @isUnstable_answers_full_log 2 60 incidents ⟨"p"⟩ 120 (by decide) (by decide)
  have hstable : ((ofLimits 2 60).after incidents).isUnstable ⟨"p"⟩ 120 = false :=
    Bool.eq_false_iff.mpr fun h => absurd (hold.1.mp h) (by decide)
  exact ⟨by decide, hyoung.1.mpr (by decide), hstable, (hold.2 alone (by decide) 120).trans hstable⟩

end CrashHistory

end PluginArbiter
