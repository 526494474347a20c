/-
# Crashes that are reported late

A history drops instants from the front, as if the front were the oldest.  Instants are not looked
at when they are recorded, and a crash may be reported after one that happened later.  Then what is
dropped may be younger than what is kept, and the order of the reports shows in the answers: with a
limit of one crash, an old crash that is reported last takes the place of the recent one
(`late_report_hides_crash`).

This module says how far this goes.  An order can only hide crashes, never make them up: a plugin
that counts as unstable has enough crashes within the window, in whatever order they were reported.
And what hides them is a crash outside the window among the last ones reported, as many as the limit,
and nothing else.  So two orders of the same reports answer alike exactly when too few crashes lie
within the window to matter, or both or neither has such a straggler.

Main statements:
* `latestRecent_iff`: the last ones reported lie within the window exactly when enough crashes do and
  there is no straggler;
* `isUnstable_reordered_iff`: what two orders answer.
-/
import PluginArbiter.Proofs.CrashHistory.Retention

namespace PluginArbiter

namespace CrashHistory

variable {limit window now : Nat} {full : List Nat}

/-- None of the crashes reported last, as many as the limit, lies outside the window that ends now. -/
def NoStraggler (limit window now : Nat) (reported : List Nat) : Prop :=
  ∀ at_ ∈ reported.rtake limit, now - at_ < window

instance (limit window now : Nat) (reported : List Nat) :
    Decidable (NoStraggler limit window now reported) :=
  inferInstanceAs (Decidable (∀ at_ ∈ reported.rtake limit, now - at_ < window))

theorem latestRecent_iff :
    LatestRecent limit window now full ↔
      limit ≤ recent window now full ∧ NoStraggler limit window now full :=
  ⟨fun h => ⟨h.enough, h.2⟩, fun h => ⟨h.1.trans List.countP_le_length, h.2⟩⟩

/-- How many crashes lie within the window has nothing to do with their order. -/
theorem recent_perm {xs ys : List Nat} (h : xs.Perm ys) : recent window now xs = recent window now ys :=
  h.countP_eq _

/-- Crashes that are reported one after the other are added to those before. -/
theorem crashesSinceCleared_append_crashes (earlier : List Incident) (id : PluginId)
    (reports : List Nat) :
    crashesSinceCleared id (earlier ++ reports.map (.crash id))
      = crashesSinceCleared id earlier ++ reports := by
  induction reports using List.reverseRecOn with
  | nil => simp
  | append_singleton before at_ ih =>
    rw [List.map_append, ← List.append_assoc, List.map_singleton, crashesSinceCleared_concat, ih]
    simp [Incident.instantOf?]

/-- **What the order of reports can do.**  Take any limit and window, any past, and two orders of the
same further crashes of a plugin, none of which happened after the question.  In either order the
plugin counts as unstable exactly when as many of all its crashes as the limit, but at least one, lie
within the window and there is no straggler among the last ones reported.  So the two orders answer
alike exactly when there are too few crashes within the window, or both orders have a straggler, or
neither has. -/
theorem isUnstable_reordered_iff (limit window : Nat) (earlier : List Incident) (id : PluginId)
    {reports others : List Nat} {now : Nat} (same : others.Perm reports)
    (past : ∀ at_ ∈ crashesSinceCleared id earlier ++ reports, at_ ≤ now) :
    let log := fun rs : List Nat => crashesSinceCleared id earlier ++ rs
    let answer := fun rs : List Nat =>
      ((ofLimits limit window).after (earlier ++ rs.map (.crash id))).isUnstable id now
    let enough := max limit 1 ≤ recent window now (log reports)
    (answer reports = true ↔ enough ∧ NoStraggler (max limit 1) window now (log reports)) ∧
      (answer others = true ↔ enough ∧ NoStraggler (max limit 1) window now (log others)) ∧
      (answer others = answer reports ↔
        (enough → (NoStraggler (max limit 1) window now (log others) ↔
          NoStraggler (max limit 1) window now (log reports)))) := by
  intro log answer enough
  have hperm : (log others).Perm (log reports) := same.append_left _
  have hanswer : ∀ rs, (log rs).Perm (log reports) →
      (answer rs = true ↔ enough ∧ NoStraggler (max limit 1) window now (log rs)) := by
    intro rs hrs
    have hlog : crashesSinceCleared id (earlier ++ rs.map (.crash id)) = log rs :=
      crashesSinceCleared_append_crashes earlier id rs
    have hpast : ∀ at_ ∈ crashesSinceCleared id (earlier ++ rs.map (.crash id)), at_ ≤ now :=
      fun at_ ha => past at_ (hrs.subset (hlog ▸ ha))
    rw [isUnstable_after_iff_latest limit window _ id hpast, hlog, latestRecent_iff, recent_perm hrs]
  have hreports := hanswer reports (List.Perm.refl _)
  have hothers := hanswer others hperm
  refine ⟨hreports, hothers, ?_⟩
  rw [Bool.eq_iff_iff, hreports, hothers]
  exact and_congr_right_iff

/-- Two of three crashes lie within the window, and the limit is two.  The third makes no difference if
it is reported first, and hides them if it is reported second or last. -/
theorem isUnstable_reordered_iff_three :
    let history := fun rs : List Nat => (ofLimits 2 60).after (rs.map (.crash ⟨"p"⟩))
    (history [10, 90, 100]).isUnstable ⟨"p"⟩ 100 = true ∧
      (history [90, 100, 10]).isUnstable ⟨"p"⟩ 100 = false ∧
      (history [100, 90, 10]).isUnstable ⟨"p"⟩ 100 = (history [90, 10, 100]).isUnstable ⟨"p"⟩ 100 := by
  intro history
  have hlate := @isUnstable_reordered_iff 2 60 [] ⟨"p"⟩ [10, 90, 100] [90, 100, 10] 100 (by decide)
    (by decide)
  have hboth := @isUnstable_reordered_iff 2 60 [] ⟨"p"⟩ [90, 10, 100] [100, 90, 10] 100 (by decide)
    (by decide)
  simp only [List.nil_append] at hlate hboth
  refine ⟨hlate.1.mpr (by decide), ?_, hboth.2.2.mpr (by decide)⟩
  exact Bool.eq_false_iff.mpr fun h => absurd (hlate.2.1.mp h) (by decide)

/-- **A late report hides a crash.**  With a limit of one and a window of sixty, a crash at the instant
100 makes a plugin unstable then; that it had crashed at 10 as well makes no difference if this was
reported before, and makes it stable if it is reported after. -/
theorem late_report_hides_crash :
    [100, 10].Perm [10, 100] ∧ (∀ at_ ∈ [10, 100], at_ ≤ 100) ∧
      ((ofLimits 1 60).after ([10, 100].map (.crash ⟨"p"⟩))).isUnstable ⟨"p"⟩ 100 = true ∧
      ((ofLimits 1 60).after ([100, 10].map (.crash ⟨"p"⟩))).isUnstable ⟨"p"⟩ 100 = false := by
  decide

end CrashHistory

end PluginArbiter
