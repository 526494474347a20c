/-
# Verdicts

The outcome of a request: a status and, for some statuses, the plugin and the MIME type it is to be
given.
-/
import PluginArbiter.Plugin.Descriptor

namespace PluginArbiter

/-- The status of a request. -/
inductive Status
  | allowed
  | disabled
  | unauthorized
  | notFound
  | npapiNotSupported
  deriving DecidableEq, Inhabited

namespace Status

/-- The written name of a status. -/
def name : Status → String
  | allowed => "allowed"
  | disabled => "disabled"
  | unauthorized => "unauthorized"
  | notFound => "not_found"
  | npapiNotSupported => "npapi_not_supported"

/-- All statuses. -/
def all : List Status := [allowed, disabled, unauthorized, notFound, npapiNotSupported]

/-- The status with a given name. -/
def ofName? (name : String) : Option Status := all.find? fun s => s.name == name

/-- The written name of a status is read as that status. -/
theorem ofName?_name (s : Status) : ofName? s.name = some s := by cases s <;> rfl

/-- Whether a verdict of this status names a plugin. -/
def carriesPlugin : Status → Bool
  | allowed | disabled | unauthorized => true
  | notFound | npapiNotSupported => false

/-- A status is written as its name. -/
def toDocument (s : Status) : Document := .text s.name

/-- Reads a status. -/
def read? {α : Type} [Readable α] (source : α) : Option Status :=
  (Readable.choice? source).bind ofName?

end Status

/-- The outcome of a request. -/
structure Verdict where
  status : Status
  plugin : Option PluginDescriptor := none
  mimeType : String := ""
  deriving DecidableEq, Inhabited

namespace Verdict

/-- The verdict where no plugin came into question. -/
def without (status : Status) : Verdict := { status }

/-- The verdict on a plugin. -/
def on (status : Status) (plugin : PluginDescriptor) (mimeType : String) : Verdict :=
  { status, plugin := some plugin, mimeType }

/-- Whether the plugin may be started. -/
def isAllowed (v : Verdict) : Bool := v.status == .allowed

end Verdict

end PluginArbiter
