/-
# The engine

A policy with its collaborators, the built-in handlers and the dispatchers that share them, and the
operations on all of this.  An engine is made from a configuration, or put together part by part;
in the second case collaborators may fail.

Main statements:
* `validate_of_ofConfig`: only what is accepted becomes an engine;
* `resolve_hub_of_answer`: a direct request is judged by the same rule as a submitted one.
-/
import PluginArbiter.Availability
import PluginArbiter.Config.Validation
import PluginArbiter.CrashHistory
import PluginArbiter.Dispatch.Hub
import PluginArbiter.Guests
import PluginArbiter.Policy

namespace PluginArbiter

/-! ## 1. State -/

/-- A fault of the availability filter: for some plugins, or for all. -/
structure FilterFault where
  fault : CollaboratorFault
  ids : Option (List PluginId) := none
  deriving DecidableEq, Inhabited

/-- The engine.  `asksRules` says whether the policy asks the availability rules at all. -/
structure Engine where
  config : Option Config := none
  options : PolicyOptions := {}
  rules : AvailabilityRules := {}
  asksRules : Bool := true
  rulesFault : Option FilterFault := none
  history : CrashHistory := {}
  historyFault : Option CollaboratorFault := none
  guests : Guests := {}
  guestsFault : Option CollaboratorFault := none
  handlers : Handlers := {}
  hub : Hub := {}
  clock : Nat := 0
  deriving Inhabited

namespace Engine

/-- The engine that a sound configuration describes.  The answer of its catalog is kept.  Instants are
assumed to be whole milliseconds, so a window given in seconds is a thousand times as long; the crash
history itself knows no unit. -/
def ofConfig (c : Config) : Except ConfigDefect Engine := do
  c.validate
  return {
    config := some c
    options := c.policy
    rules := .ofLists c.availability.disabledPlugins c.availability.blockedHosts
    history := .ofLimits c.stability.maxCrashes.toNat (c.stability.windowSeconds.toNat * 1000)
    handlers := { descriptors := c.builtinHandlers }
    hub := { supply := .ofCatalog { plugins := c.plugins } true false } }

/-- Only what is accepted becomes an engine. -/
theorem validate_of_ofConfig {c : Config} {e : Engine} (made : ofConfig c = .ok e) :
    c.validate = .ok () := by
  cases hc : c.validate with
  | ok => rfl
  | error defect => simp [ofConfig, hc, bind, Except.bind] at made

/-! ## 2. Deciding -/

/-- What the filter answers about a plugin. -/
def filterAnswer (e : Engine) (request : Request) (d : PluginDescriptor) : Answer :=
  match e.rulesFault with
  | some f =>
    if (f.ids.map fun ids => ids.contains d.id).getD true then .error f.fault
    else .ok (e.rules.isAvailable request.topUrl d.id)
  | none => .ok (e.rules.isAvailable request.topUrl d.id)

/-- The collaborators as they stand. -/
def collaborators (e : Engine) : Collaborators where
  available := if e.asksRules then some e.filterAnswer else none
  unstable id :=
    match e.historyFault with
    | some fault => .error fault
    | none => .ok (e.history.isUnstable id e.clock)
  isolated p :=
    match e.guestsFault with
    | some fault => .error fault
    | none => .ok (e.guests.contains p)

/-- The verdict on a request, given what the catalog answered. -/
def judge (e : Engine) : Judge :=
  Policy.judge e.options e.collaborators e.hub.supply.catalog.associationsOf

/-- Asks for the plugins. -/
def fetch (e : Engine) : CatalogAnswer × Engine :=
  let (answer, hub) := e.hub.fetch e.judge
  (answer, { e with hub })

/-- The verdict on a request that is made directly, while nobody is held back at the catalog. -/
def resolve (e : Engine) (request : Request) : Verdict × Engine :=
  let (answer, next) := e.fetch
  (e.judge request answer, next)

/-- The candidates for a request, or the fault of the catalog; again while nobody is held back. -/
def find (e : Engine) (request : Request) (patterns : Bool) :
    Except CollaboratorFault (List Candidate) × Engine :=
  let (answer, next) := e.fetch
  (findCandidates e.hub.supply.catalog.associationsOf request.url request.mimeType patterns answer,
    next)

/-! ## 3. Operations -/

/-- What can be asked of an engine.  Operations on a dispatcher name its place. -/
inductive Operation
  | resolve (request : Request)
  | find (request : Request) (patterns : Bool)
  | options
  | config
  | disable (id : PluginId)
  | enable (id : PluginId)
  | block (host : String)
  | isAvailable (id : PluginId) (request : Request)
  | crash (id : PluginId) (at_ : Option Nat)
  | isUnstable (id : PluginId) (at_ : Option Nat)
  | clear (id : PluginId)
  | setClock (now : Nat)
  | addGuest (process : ProcessId)
  | removeGuest (process : ProcessId)
  | isGuest (process : ProcessId)
  | handler (mime : String)
  | register (handler : PluginDescriptor)
  | catalog
  | openGate
  | addDispatcher (process : ProcessId) (hasRuntime : Bool)
  | run
  | submit (place : Nat) (token : Token) (request : Request)
  | cancel (place : Nat) (token : Token)
  | cancelFrame (place : Nat) (frame : FrameId)
  | shut (place : Nat)
  | pending (place : Nat)
  | drop (place : Nat)
  | dispatcherHandler (place : Nat) (mime : String)
  | dropSink (place : Nat)
  | closeReceiver (place : Nat)

/-- What one dispatcher delivered, and how much it has still open unless it was dropped. -/
structure Delivery where
  delivered : List (Token × Verdict)
  pending : Option Nat

/-- What is known of the catalog in use. -/
structure CatalogReport where
  size : Nat
  started : Nat
  isWarm : Option Bool

/-- What an operation answers. -/
inductive Reply
  | done
  | verdict (v : Verdict)
  | candidates (cs : List Candidate)
  | fault (f : CollaboratorFault)
  | options (o : PolicyOptions)
  | config (c : Option Config)
  | flag (b : Bool)
  | count (n : Nat)
  | handler (a : HandlerAnswer)
  | catalog (r : CatalogReport)
  | dispatcher (place : Nat) (process : ProcessId)
  | refused (e : DispatchError)
  | submitted (result : Except DispatchError Unit) (pending : Nat)
  | cancelled (wasOpen : Bool) (pending : Nat)
  | frameCancelled (number : Nat) (pending : Nat)
  | pending (number : Nat)
  | deliveries (ds : List Delivery)
  | dropped
  | unknownDispatcher

/-- The delivered verdicts in the order of the texts of their tokens. -/
def inTokenOrder (received : List (Token × Verdict)) : List (Token × Verdict) :=
  received.mergeSort fun a b => decide (a.1.text ≤ b.1.text)

/-- Lets all tasks run and collects what was delivered. -/
def run (e : Engine) : List Delivery × Engine :=
  let (received, hub) := (e.hub.settle e.judge).collect
  let deliveries := (received.zip hub.dispatchers).map fun (r, d) =>
    { delivered := inTokenOrder r, pending := if d.isDropped then none else some d.pendingCount }
  (deliveries, { e with hub })

/-- Carries out an operation on a dispatcher that is known and was not dropped. -/
def withDispatcher (e : Engine) (place : Nat) (act : Dispatcher → Reply × Hub) : Reply × Engine :=
  match e.hub.dispatchers[place]? with
  | none => (.unknownDispatcher, e)
  | some d =>
    if d.isDropped then (.dropped, e)
    else
      let (reply, hub) := act d
      (reply, { e with hub })

/-- Changes a dispatcher that is known, whether it was dropped or not. -/
def changeDispatcher (e : Engine) (place : Nat) (change : Dispatcher → Hub) : Reply × Engine :=
  match e.hub.dispatchers[place]? with
  | none => (.unknownDispatcher, e)
  | some d => (.done, { e with hub := change d })

/-- The number of open submissions of the dispatcher at a place. -/
def pendingAt (h : Hub) (place : Nat) : Nat :=
  (h.dispatchers[place]?.map (·.pendingCount)).getD 0

/-- Carries out an operation. -/
def apply (e : Engine) : Operation → Reply × Engine
  | .resolve request =>
    let (v, e) := e.resolve request
    (.verdict v, e)
  | .find request patterns =>
    match e.find request patterns with
    | (.ok cs, e) => (.candidates cs, e)
    | (.error f, e) => (.fault f, e)
  | .options => (.options e.options, e)
  | .config => (.config e.config, e)
  | .disable id => (.done, { e with rules := e.rules.disable id })
  | .enable id => (.flag (e.rules.isDisabled id), { e with rules := e.rules.enable id })
  | .block host => (.done, { e with rules := e.rules.block host })
  | .isAvailable id request => (.flag (e.rules.isAvailable request.topUrl id), e)
  | .crash id at_ => (.done, { e with history := e.history.record id (at_.getD e.clock) })
  | .isUnstable id at_ => (.flag (e.history.isUnstable id (at_.getD e.clock)), e)
  | .clear id => (.done, { e with history := e.history.clear id })
  | .setClock now => (.done, { e with clock := now })
  | .addGuest p => (.done, { e with guests := e.guests.register p })
  | .removeGuest p => (.flag (e.guests.contains p), { e with guests := e.guests.unregister p })
  | .isGuest p => (.flag (e.guests.contains p), e)
  | .handler mime => (.handler (e.handlers.answerFor mime), e)
  | .register d =>
    let handlers := e.handlers.register d
    (.count handlers.descriptors.length, { e with handlers })
  | .catalog =>
    let s := e.hub.supply
    (.catalog { size := s.catalog.size, started := s.started, isWarm := s.isWarm? }, e)
  | .openGate => (.done, { e with hub := e.hub.openGate })
  | .addDispatcher p hasRuntime =>
    if hasRuntime then
      let (place, hub) := e.hub.addDispatcher p e.handlers
      (.dispatcher place p, { e with hub })
    else (.refused .noRuntime, e)
  | .run =>
    let (ds, e) := e.run
    (.deliveries ds, e)
  | .submit place token request =>
    e.withDispatcher place fun d =>
      let (result, hub) := e.hub.submit place d token request
      (.submitted (result.map fun _ => ()) (pendingAt hub place), hub)
  | .cancel place token =>
    e.withDispatcher place fun d =>
      let (entry, hub) := e.hub.cancel place d token
      (.cancelled entry.isSome (pendingAt hub place), hub)
  | .cancelFrame place frame =>
    e.withDispatcher place fun d =>
      let (rows, hub) := e.hub.cancelFrame place d frame
      (.frameCancelled rows.length (pendingAt hub place), hub)
  | .shut place =>
    e.withDispatcher place fun d =>
      let (_, hub) := e.hub.shut place d
      (.pending (pendingAt hub place), hub)
  | .pending place => e.withDispatcher place fun d => (.pending d.pendingCount, e.hub)
  | .drop place => e.changeDispatcher place fun d => (e.hub.drop place d).2
  | .dispatcherHandler place mime =>
    e.withDispatcher place fun d => (.handler (d.handlers.answerFor mime), e.hub)
  | .dropSink place => e.changeDispatcher place fun d => e.hub.setDispatcher place d.dropSink
  | .closeReceiver place =>
    e.changeDispatcher place fun d => e.hub.setDispatcher place d.closeReceiver

/-- A direct request is judged by the same rule as a submitted one. -/
theorem resolve_hub_of_answer (e : Engine) (request : Request) :
    (e.resolve request).1 = e.judge request (e.hub.fetch e.judge).1 := rfl

end Engine

end PluginArbiter
