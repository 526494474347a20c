/-
# Enumerating the catalog

A catalog in use: how many enumerations have been started, whether the gate that holds their answers
back is open, and the kept answer where one is kept.
-/
import PluginArbiter.Catalog.Basic
import PluginArbiter.Catalog.Cache

namespace PluginArbiter

/-- A catalog in use. -/
structure Supply where
  catalog : PluginSource := {}
  cache : Option (Cache (List PluginDescriptor)) := none
  gateOpen : Bool := true
  started : Nat := 0
  deriving Inhabited

namespace Supply

/-- A catalog in use, from the start. -/
def ofSource (catalog : PluginSource) (cached gated : Bool) : Supply :=
  { catalog, cache := if cached then some {} else none, gateOpen := !gated }

/-- The same for a list of plugins. -/
def ofCatalog (catalog : Catalog) (cached gated : Bool) : Supply :=
  ofSource catalog.source cached gated

/-- Whether the answer is kept already; nothing where none is ever kept. -/
def isWarm? (s : Supply) : Option Bool := s.cache.map Cache.isWarm

/-- Starts an enumeration and gives its number. -/
def start (s : Supply) : Nat × Supply := (s.started, { s with started := s.started + 1 })

/-- A caller asks for the plugins. -/
def ask (s : Supply) (caller : Nat) : Admission (List PluginDescriptor) × Supply :=
  match s.cache with
  | none => (.turn, s)
  | some c =>
    let (admission, c) := c.ask caller
    (admission, { s with cache := some c })

/-- The enumeration of the caller who has the turn has ended. -/
def finish (s : Supply) (answer : CatalogAnswer) : Supply :=
  { s with cache := s.cache.map fun c => c.finish answer }

/-- A caller gives up. -/
def leave (s : Supply) (caller : Nat) : Supply :=
  { s with cache := s.cache.map fun c => c.leave caller }

/-- Opens the gate for good. -/
def openGate (s : Supply) : Supply := { s with gateOpen := true }

/-- Whether callers are held back: the gate is closed and no answer is kept. -/
def isHeldBack (s : Supply) : Bool := !s.gateOpen && (s.cache.bind (·.stored)).isNone

/-- Asks for the plugins and has the answer at once.  A caller who is held back, or who finds that
another has the turn, has to wait instead; this is for callers who need not. -/
def fetch (s : Supply) : CatalogAnswer × Supply :=
  match s.cache.bind (·.stored) with
  | some plugins => (.ok plugins, s)
  | none =>
    let (number, s) := s.start
    let answer := s.catalog.answerAt number
    (answer, s.finish answer)

end Supply

end PluginArbiter
