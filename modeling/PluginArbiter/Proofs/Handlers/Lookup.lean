/-
# Who answers for a type

Handlers are asked one after the other, and each looks through its own associations.  Seen from
outside there is only one list, all associations in the order of registration, and the first one
that declares the type letter by letter answers (`answerFor_eq`).  A pattern is a text like any
other here.

From this it follows what registration can do: what is registered later stands behind everything
else, so it answers only where nobody answered before (`answerFor_registerAll`).

Main statements:
* `answerFor_eq`: the search through the handlers is one through their associations;
* `answerFor_of_split`, `answerFor_eq_empty_iff`: who answers, and when nobody does;
* `answerFor_registerAll`: what is registered later.
-/
import Mathlib.Data.List.Induction
import PluginArbiter.Handlers

namespace PluginArbiter

/-! ## 1. One list of associations -/

namespace Handlers

variable {h : Handlers} {mime : String} {a : MimeAssociation} {before after : List MimeAssociation}

/-- All associations, in the order of registration. -/
def associations (h : Handlers) : List MimeAssociation := h.descriptors.flatMap (·.associations)

/-- Registers some handlers, one after the other. -/
def registerAll (h : Handlers) (ds : List PluginDescriptor) : Handlers := ds.foldl register h

/-- The answer that hands over the parameters of an association. -/
def handOver (a : MimeAssociation) : HandlerAnswer :=
  { available := true, paramNames := a.paramNames, paramValues := a.paramValues }

/-- **The search through the handlers is a search through all their associations.** -/
theorem answerFor_eq (h : Handlers) (mime : String) :
    h.answerFor mime = (h.associations.find? (·.matchesExactly mime)).elim {} handOver := by
  rw [answerFor, associations, List.find?_flatMap]
  change _ = (h.descriptors.findSome? fun d => d.findExact? mime).elim {} handOver
  cases h.descriptors.findSome? fun d => d.findExact? mime <;> rfl

theorem find?_eq_none_iff : h.associations.find? (·.matchesExactly mime) = none ↔
    ∀ a ∈ h.associations, a.mimeType ≠ mime := by
  simp [MimeAssociation.matchesExactly]

/-- The first association that declares the type answers. -/
theorem answerFor_of_split (hsplit : h.associations = before ++ a :: after) (ha : a.mimeType = mime)
    (hbefore : ∀ b ∈ before, b.mimeType ≠ mime) : h.answerFor mime = handOver a := by
  have hfind : h.associations.find? (·.matchesExactly mime) = some a := by
    refine List.find?_eq_some_iff_append.mpr ⟨by simpa [MimeAssociation.matchesExactly] using ha,
      before, after, hsplit, fun b hb => ?_⟩
    simpa [MimeAssociation.matchesExactly] using hbefore b hb
  rw [answerFor_eq, hfind]
  rfl

/-- Where the type is declared nowhere there is no answer, and only there. -/
theorem answerFor_eq_empty_iff :
    h.answerFor mime = {} ↔ ∀ a ∈ h.associations, a.mimeType ≠ mime := by
  rw [answerFor_eq, ← find?_eq_none_iff]
  cases h.associations.find? (·.matchesExactly mime) <;> simp [handOver]

theorem available_eq_false_iff :
    (h.answerFor mime).available = false ↔ ∀ a ∈ h.associations, a.mimeType ≠ mime := by
  rw [answerFor_eq, ← find?_eq_none_iff]
  cases h.associations.find? (·.matchesExactly mime) <;> simp [handOver]

theorem available_iff :
    (h.answerFor mime).available = true ↔ ∃ a ∈ h.associations, a.mimeType = mime := by
  rw [← Bool.not_eq_false, available_eq_false_iff]
  simp

/-- Whoever is available has an association that says so. -/
theorem exists_of_available (h : Handlers) (havailable : (h.answerFor mime).available = true) :
    ∃ a ∈ h.associations, a.mimeType = mime ∧ h.answerFor mime = handOver a := by
  rw [answerFor_eq] at havailable ⊢
  cases hfind : h.associations.find? (·.matchesExactly mime) with
  | none => simp [hfind] at havailable
  | some a =>
    have hmatches := List.find?_some hfind
    exact ⟨a, List.mem_of_find?_eq_some hfind, beq_iff_eq.mp hmatches, rfl⟩

/-! ## 2. Registration -/

theorem registerAll_concat (h : Handlers) (ds : List PluginDescriptor) (d : PluginDescriptor) :
    h.registerAll (ds ++ [d]) = (h.registerAll ds).register d :=
  List.foldl_append

theorem descriptors_registerAll (h : Handlers) (ds : List PluginDescriptor) :
    (h.registerAll ds).descriptors = h.descriptors ++ ds := by
  induction ds using List.reverseRecOn with
  | nil => exact (List.append_nil _).symm
  | append_singleton ds d ih => rw [registerAll_concat, register, ih, List.append_assoc]

theorem associations_registerAll (h : Handlers) (ds : List PluginDescriptor) :
    (h.registerAll ds).associations = h.associations ++ ds.flatMap (·.associations) := by
  rw [associations, descriptors_registerAll, List.flatMap_append]
  rfl

/-- **What is registered later** answers where nobody answered before. -/
theorem answerFor_registerAll (h : Handlers) (ds : List PluginDescriptor) (mime : String) :
    (h.registerAll ds).answerFor mime =
      if (h.answerFor mime).available then h.answerFor mime
      else (registerAll {} ds).answerFor mime := by
  have hlater : (registerAll {} ds).associations = ds.flatMap (·.associations) :=
    associations_registerAll {} ds
  rw [answerFor_eq, answerFor_eq, answerFor_eq, associations_registerAll, hlater, List.find?_append]
  cases h.associations.find? (·.matchesExactly mime) <;> rfl

/-- Somebody answers afterwards exactly if somebody did before, or a new association declares the
type. -/
theorem available_registerAll (h : Handlers) (later : List PluginDescriptor) (mime : String) :
    ((h.registerAll later).answerFor mime).available = true ↔
      (h.answerFor mime).available = true ∨
        ∃ d ∈ later, ∃ a ∈ d.associations, a.mimeType = mime := by
  rw [available_iff, available_iff, associations_registerAll]
  constructor
  · rintro ⟨a, ha, hmime⟩
    rcases List.mem_append.mp ha with hold | hnew
    · exact Or.inl ⟨a, hold, hmime⟩
    · obtain ⟨d, hd, had⟩ := List.mem_flatMap.mp hnew
      exact Or.inr ⟨d, hd, a, had, hmime⟩
  · rintro (⟨a, hold, hmime⟩ | ⟨d, hd, a, had, hmime⟩)
    · exact ⟨a, List.mem_append_left _ hold, hmime⟩
    · exact ⟨a, List.mem_append_right _ (List.mem_flatMap.mpr ⟨d, hd, had⟩), hmime⟩

end Handlers

end PluginArbiter
