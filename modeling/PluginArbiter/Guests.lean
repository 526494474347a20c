/-
# Guest processes

The processes that belong to an isolated surface.

Main statements:
* `contains_register`, `contains_unregister`: the last word on a process counts.
-/
import PluginArbiter.Plugin.Identity

namespace PluginArbiter

/-- The registered guest processes. -/
structure Guests where
  processes : List ProcessId := []
  deriving DecidableEq, Inhabited

namespace Guests

/-- Registers a process. -/
def register (g : Guests) (p : ProcessId) : Guests := { processes := p :: g.processes }

/-- Takes a process out. -/
def unregister (g : Guests) (p : ProcessId) : Guests :=
  { processes := g.processes.filter (· ≠ p) }

/-- Whether a process is registered. -/
def contains (g : Guests) (p : ProcessId) : Bool := g.processes.contains p

/-- A process that was registered is a guest, and nothing changes for the others. -/
theorem contains_register (g : Guests) (p other : ProcessId) :
    (g.register p).contains other = if p = other then true else g.contains other := by
  split <;> simp_all [register, contains, eq_comm]

/-- A process that was taken out is none, and nothing changes for the others. -/
theorem contains_unregister (g : Guests) (p other : ProcessId) :
    (g.unregister p).contains other = if p = other then false else g.contains other := by
  split <;> simp_all [unregister, contains, eq_comm]

end Guests

end PluginArbiter
