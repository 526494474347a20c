/-
# Collaborators

A decision rests on three collaborators: one says whether a plugin is available to a request, one
whether it has become unstable, one whether a process belongs to an isolated surface.  Each may
answer or fail; a failure is read to the plugin's disadvantage.

Main statements:
* `Answer.grants_iff`: only a plain yes grants;
* `Answer.suspects_iff`: everything but a plain no raises suspicion.
-/
import PluginArbiter.Plugin.Descriptor
import PluginArbiter.Request

namespace PluginArbiter

/-! ## 1. Faults -/

/-- Why a collaborator gave no answer. -/
inductive CollaboratorFault
  | unavailable (detail : String)
  | failed (detail : String)
  deriving DecidableEq, Inhabited

/-- The wording of a fault. -/
def CollaboratorFault.message : CollaboratorFault → String
  | unavailable detail => "协作方不可用: " ++ detail
  | failed detail => "协作方调用失败: " ++ detail

/-! ## 2. Answers -/

/-- What a collaborator answers to a question. -/
abbrev Answer := Except CollaboratorFault Bool

/-- The answer counts as a permission. -/
def Answer.grants : Answer → Bool
  | .ok b => b
  | .error _ => false

/-- The answer counts as a suspicion. -/
def Answer.suspects : Answer → Bool
  | .ok b => b
  | .error _ => true

/-- Only a plain yes grants. -/
theorem Answer.grants_iff {a : Answer} : a.grants = true ↔ a = .ok true := by
  cases a <;> simp [Answer.grants]

/-- Everything but a plain no raises suspicion. -/
theorem Answer.suspects_iff {a : Answer} : a.suspects = true ↔ a ≠ .ok false := by
  cases a <;> simp [Answer.suspects]

/-- Only a plain no raises none. -/
theorem Answer.trusts_iff {a : Answer} : a.suspects = false ↔ a = .ok false := by
  cases a <;> simp [Answer.suspects]

/-! ## 3. Collaborators -/

/-- The three collaborators.  Without a filter every plugin is available. -/
structure Collaborators where
  available : Option (Request → PluginDescriptor → Answer)
  unstable : PluginId → Answer
  isolated : ProcessId → Answer

end PluginArbiter
