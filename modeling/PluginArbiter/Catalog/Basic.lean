/-
# The catalog of plugins

The installed plugins, what is reported of each of them, and what enumerating them may end with.  Of
a catalog nothing else is known here than this: every enumeration may give another list, or fail in
its own way (`PluginSource`).  One such catalog has a list that does not change, and may fail at first
(`Catalog`).
-/
import PluginArbiter.Trust

namespace PluginArbiter

/-- What an enumeration ends with. -/
abbrev CatalogAnswer := Except CollaboratorFault (List PluginDescriptor)

/-! ## 1. Any catalog -/

/-- A catalog as those know it who ask it: what each enumeration ends with, counted from nought, and
what is reported of a plugin.  `size` is the number of plugins that it owns up to without being
asked for them. -/
structure PluginSource where
  answerAt : Nat → CatalogAnswer := fun _ => .ok []
  associationsOf : PluginDescriptor → List MimeAssociation := (·.associations)
  size : Nat := 0
  deriving Inhabited

namespace PluginSource

/-- No enumeration fails, whatever it lists. -/
def NeverFails (c : PluginSource) : Prop := ∀ number, ∃ plugins, c.answerAt number = .ok plugins

/-- All enumerations end alike. -/
def Always (c : PluginSource) (answer : CatalogAnswer) : Prop := ∀ number, c.answerAt number = answer

end PluginSource

/-! ## 2. A list of plugins -/

/-- A catalog with one list.  With a fault the first `failures` enumerations end with it, or all
where no number is given.  `overrides` replaces what a plugin declares. -/
structure Catalog where
  plugins : List PluginDescriptor := []
  overrides : List (PluginId × List MimeAssociation) := []
  fault : Option CollaboratorFault := none
  failures : Option Nat := none
  deriving Inhabited

namespace Catalog

/-- What a plugin declares. -/
def associationsOf (c : Catalog) (d : PluginDescriptor) : List MimeAssociation :=
  (c.overrides.lookup d.id).getD d.associations

/-- What the enumeration with a given number ends with, counted from nought. -/
def answerAt (c : Catalog) (number : Nat) : CatalogAnswer :=
  match c.fault with
  | none => .ok c.plugins
  | some fault =>
    match c.failures with
    | none => .error fault
    | some n => if number < n then .error fault else .ok c.plugins

/-- What those know of it who ask it. -/
def source (c : Catalog) : PluginSource :=
  { answerAt := c.answerAt, associationsOf := c.associationsOf, size := c.plugins.length }

end Catalog

end PluginArbiter
