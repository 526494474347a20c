/-
# Crash history

For each plugin the instants of its latest crashes, the oldest first.  A record drops what has
fallen out of the window and what exceeds the limit; a plugin is unstable while enough of what is
left lies within the window.

Main statements:
* `length_pruned_le`: pruning leaves no more than the limit;
* `instants_clear`: a plugin that was cleared has no crashes.
-/
import PluginArbiter.Plugin.Identity

namespace PluginArbiter

/-- The latest crashes of each plugin.  Instants and the window count in the same unit, by default
milliseconds. -/
structure CrashHistory where
  limit : Nat := 3
  window : Nat := 120000
  records : List (PluginId × List Nat) := []
  deriving DecidableEq, Inhabited

namespace CrashHistory

/-- An empty history; a limit of nothing counts as one. -/
def ofLimits (limit window : Nat) : CrashHistory := { limit := max limit 1, window }

/-- The recorded instants of a plugin, the oldest first. -/
def instants (h : CrashHistory) (id : PluginId) : List Nat := (h.records.lookup id).getD []

/-- Whether an instant lies outside the window that ends now. -/
def isExpired (window now at_ : Nat) : Bool := window ≤ now - at_

/-- Drops instants from the front while they are expired or too many. -/
def pruned (limit window now : Nat) : List Nat → List Nat
  | [] => []
  | oldest :: rest =>
    if isExpired window now oldest || limit < rest.length + 1 then pruned limit window now rest
    else oldest :: rest

/-- Records a crash. -/
def record (h : CrashHistory) (id : PluginId) (at_ : Nat) : CrashHistory :=
  let kept := pruned h.limit h.window at_ (h.instants id ++ [at_])
  { h with records := (id, kept) :: h.records.filter (·.1 ≠ id) }

/-- Forgets the crashes of a plugin. -/
def clear (h : CrashHistory) (id : PluginId) : CrashHistory :=
  { h with records := h.records.filter (·.1 ≠ id) }

/-- Whether a plugin has crashed too often lately. -/
def isUnstable (h : CrashHistory) (id : PluginId) (now : Nat) : Bool :=
  h.limit ≤ ((h.instants id).filter fun at_ => !isExpired h.window now at_).length

/-! ## 1. Laws -/

/-- Pruning leaves a suffix. -/
theorem pruned_suffix (limit window now : Nat) (xs : List Nat) :
    pruned limit window now xs <:+ xs := by
  induction xs with
  | nil => simp [pruned]
  | cons x rest ih =>
    rw [pruned]
    split
    · exact ih.trans (List.suffix_cons x rest)
    · exact List.suffix_refl _

/-- Pruning leaves no more than the limit. -/
theorem length_pruned_le (limit window now : Nat) (xs : List Nat) :
    (pruned limit window now xs).length ≤ limit := by
  induction xs with
  | nil => simp [pruned]
  | cons x rest ih =>
    rw [pruned]
    split
    · exact ih
    · rename_i h
      simp only [Bool.or_eq_true, decide_eq_true_eq, not_or, Nat.not_lt] at h
      simpa using h.2

/-- A plugin that was cleared has no crashes. -/
theorem instants_clear (h : CrashHistory) (id : PluginId) : (h.clear id).instants id = [] := by
  have hn : (h.records.filter (·.1 ≠ id)).lookup id = none := by
    rw [List.lookup_eq_none_iff]
    intro p hp
    simp only [ne_eq, List.mem_filter, decide_eq_true_eq] at hp
    exact bne_iff_ne.mpr (Ne.symm hp.2)
  simp only [clear, instants, hn, Option.getD_none]

end CrashHistory

end PluginArbiter
