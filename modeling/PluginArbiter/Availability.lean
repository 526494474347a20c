/-
# Availability rules

Plugins that are switched off one by one, and pages on which all are switched off by their host.
Hosts are compared ignoring ASCII case.

Main statements:
* `isDisabled_disable`, `isDisabled_enable`: the last word on a plugin counts.
-/
import PluginArbiter.Plugin.Descriptor
import PluginArbiter.Request
import PluginArbiter.Text.AsciiCase

namespace PluginArbiter

/-- Which plugins are switched off and on which hosts all are; hosts are kept in lower case. -/
structure AvailabilityRules where
  disabled : List PluginId := []
  blockedHosts : List String := []
  deriving DecidableEq, Inhabited

namespace AvailabilityRules

/-- Rules from lists of plugins and hosts as they were written. -/
def ofLists (disabled : List PluginId) (hosts : List String) : AvailabilityRules :=
  { disabled, blockedHosts := hosts.map Text.lower }

/-- Switches a plugin off. -/
def disable (r : AvailabilityRules) (id : PluginId) : AvailabilityRules :=
  { r with disabled := id :: r.disabled }

/-- Switches a plugin on again. -/
def enable (r : AvailabilityRules) (id : PluginId) : AvailabilityRules :=
  { r with disabled := r.disabled.filter (· ≠ id) }

/-- Whether a plugin is switched off. -/
def isDisabled (r : AvailabilityRules) (id : PluginId) : Bool := r.disabled.contains id

/-- Switches all plugins off on a host. -/
def block (r : AvailabilityRules) (host : String) : AvailabilityRules :=
  { r with blockedHosts := Text.lower host :: r.blockedHosts }

/-- Whether all plugins are switched off on a page; a page without a host is never blocked. -/
def isBlocked (r : AvailabilityRules) (topUrl : Url) : Bool :=
  match topUrl.hostText? with
  | none => false
  | some host => r.blockedHosts.contains (Text.lower host)

/-- Whether a plugin is available on a page. -/
def isAvailable (r : AvailabilityRules) (topUrl : Url) (id : PluginId) : Bool :=
  !r.isDisabled id && !r.isBlocked topUrl

/-- A plugin that was switched off is off, and nothing changes for the others. -/
theorem isDisabled_disable (r : AvailabilityRules) (id other : PluginId) :
    (r.disable id).isDisabled other = if id = other then true else r.isDisabled other := by
  split <;> simp_all [disable, isDisabled, eq_comm]

/-- A plugin that was switched on is not off, and nothing changes for the others. -/
theorem isDisabled_enable (r : AvailabilityRules) (id other : PluginId) :
    (r.enable id).isDisabled other = if id = other then false else r.isDisabled other := by
  split <;> simp_all [enable, isDisabled, eq_comm]

end AvailabilityRules

end PluginArbiter
