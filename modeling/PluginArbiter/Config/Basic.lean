/-
# Configuration

Everything that is set before the first request: how much is logged, the options of the policy, the
limits of the crash history, what is switched off, and the plugins and built-in handlers.

Main statements:
* `Config.toDocument` and `Config.read?` write and read a configuration; a field that is missing
  takes its default.
-/
import PluginArbiter.Plugin.Descriptor
import PluginArbiter.Policy

namespace PluginArbiter

/-! ## 1. Sections -/

/-- How much is logged. -/
structure LoggingConfig where
  level : String := "info"
  deriving DecidableEq, Inhabited

/-- The limits of the crash history; the window counts in seconds. -/
structure StabilityConfig where
  maxCrashes : UInt64 := 3
  windowSeconds : UInt64 := 120
  deriving DecidableEq, Inhabited

/-- What is switched off from the start. -/
structure AvailabilityConfig where
  disabledPlugins : List PluginId := []
  blockedHosts : List String := []
  deriving DecidableEq, Inhabited

/-- A configuration. -/
structure Config where
  logging : LoggingConfig := {}
  policy : PolicyOptions := {}
  stability : StabilityConfig := {}
  availability : AvailabilityConfig := {}
  plugins : List PluginDescriptor := []
  builtinHandlers : List PluginDescriptor := []
  deriving DecidableEq, Inhabited

/-! ## 2. Written form -/

namespace LoggingConfig

/-- What is read of the section. -/
def shape : Shape := .record [("level", .scalar)]

def fieldNames : List String := shape.names

/-- The section as a record of all its fields. -/
def toDocument (c : LoggingConfig) : Document := .record [("level", .text c.level)]

/-- Reads the section. -/
def read? {α : Type} [Readable α] (source : α) : Option LoggingConfig := do
  let fields ← Readable.record? fieldNames source
  let standard : LoggingConfig := {}
  let level ← Readable.optional fields "level" Readable.text? standard.level
  return { level }

end LoggingConfig

namespace StabilityConfig

/-- What is read of the section. -/
def shape : Shape := .record [("max_crashes", .scalar), ("crash_window_secs", .scalar)]

def fieldNames : List String := shape.names

/-- The section as a record of all its fields. -/
def toDocument (c : StabilityConfig) : Document :=
  .record [("max_crashes", .natural c.maxCrashes.toNat),
    ("crash_window_secs", .natural c.windowSeconds.toNat)]

/-- Reads the section. -/
def read? {α : Type} [Readable α] (source : α) : Option StabilityConfig := do
  let fields ← Readable.record? fieldNames source
  let standard : StabilityConfig := {}
  let maxCrashes ← Readable.optional fields "max_crashes" Readable.word64? standard.maxCrashes
  let windowSeconds ←
    Readable.optional fields "crash_window_secs" Readable.word64? standard.windowSeconds
  return { maxCrashes, windowSeconds }

end StabilityConfig

namespace AvailabilityConfig

/-- What is read of the section. -/
def shape : Shape :=
  .record [("disabled_plugins", .scalars), ("blocked_top_level_hosts", .scalars)]

def fieldNames : List String := shape.names

/-- The section as a record of all its fields. -/
def toDocument (c : AvailabilityConfig) : Document :=
  .record [("disabled_plugins", .list (c.disabledPlugins.map PluginId.toDocument)),
    ("blocked_top_level_hosts", .texts c.blockedHosts)]

/-- Reads the section. -/
def read? {α : Type} [Readable α] (source : α) : Option AvailabilityConfig := do
  let fields ← Readable.record? fieldNames source
  let disabledPlugins ←
    Readable.optional fields "disabled_plugins" (Readable.list? PluginId.read?) []
  let blockedHosts ← Readable.optional fields "blocked_top_level_hosts" Readable.texts? []
  return { disabledPlugins, blockedHosts }

end AvailabilityConfig

namespace Config

/-- What is read of a configuration. -/
def shape : Shape :=
  .record [("logging", LoggingConfig.shape), ("policy", PolicyOptions.shape),
    ("stability", StabilityConfig.shape), ("availability", AvailabilityConfig.shape),
    ("plugins", .list PluginDescriptor.shape), ("builtin_handlers", .list PluginDescriptor.shape)]

def fieldNames : List String := shape.names

/-- The configuration as a record of all its sections. -/
def toDocument (c : Config) : Document :=
  .record [("logging", c.logging.toDocument), ("policy", c.policy.toDocument),
    ("stability", c.stability.toDocument), ("availability", c.availability.toDocument),
    ("plugins", .list (c.plugins.map PluginDescriptor.toDocument)),
    ("builtin_handlers", .list (c.builtinHandlers.map PluginDescriptor.toDocument))]

/-- Reads a configuration; a missing section or field has its default. -/
def read? {α : Type} [Readable α] (source : α) : Option Config := do
  let fields ← Readable.record? fieldNames source
  let logging ← Readable.optional fields "logging" LoggingConfig.read? {}
  let policy ← Readable.optional fields "policy" PolicyOptions.read? {}
  let stability ← Readable.optional fields "stability" StabilityConfig.read? {}
  let availability ← Readable.optional fields "availability" AvailabilityConfig.read? {}
  let plugins ← Readable.optional fields "plugins" (Readable.list? PluginDescriptor.read?) []
  let builtinHandlers ←
    Readable.optional fields "builtin_handlers" (Readable.list? PluginDescriptor.read?) []
  return { logging, policy, stability, availability, plugins, builtinHandlers }

end Config

end PluginArbiter
