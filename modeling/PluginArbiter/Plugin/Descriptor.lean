/-
# Plugin descriptors

What is known of an installed plugin or of a built-in handler: its identity, its names, the way it
runs and the MIME types it declares.

Main statements:
* `ofName?_name`: the written name of a kind is read as that kind.
-/
import PluginArbiter.Plugin.Identity
import PluginArbiter.Plugin.Mime

namespace PluginArbiter

/-! ## 1. Kinds -/

/-- The way in which a plugin runs. -/
inductive PluginKind
  | legacyInProcess
  | sandboxed
  | sandboxedOutOfProcess
  | browserInternal
  deriving DecidableEq, Inhabited

namespace PluginKind

/-- The written name of a kind. -/
def name : PluginKind → String
  | legacyInProcess => "legacy_in_process"
  | sandboxed => "sandboxed"
  | sandboxedOutOfProcess => "sandboxed_out_of_process"
  | browserInternal => "browser_internal"

/-- The kind with a given name; two kinds have a second name. -/
def ofName? : String → Option PluginKind
  | "legacy_in_process" | "npapi" => some legacyInProcess
  | "sandboxed" | "pepper" => some sandboxed
  | "sandboxed_out_of_process" => some sandboxedOutOfProcess
  | "browser_internal" => some browserInternal
  | _ => none

/-- The written name of a kind is read as that kind. -/
theorem ofName?_name (k : PluginKind) : ofName? k.name = some k := by cases k <;> rfl

/-- Legacy plugins run inside the page's process. -/
def isLegacy (k : PluginKind) : Bool := k == legacyInProcess

/-- A kind is written as its name. -/
def toDocument (k : PluginKind) : Document := .text k.name

/-- Reads a kind by either of its names. -/
def read? {α : Type} [Readable α] (source : α) : Option PluginKind :=
  (Readable.choice? source).bind ofName?

end PluginKind

/-! ## 2. Descriptors -/

/-- An installed plugin or a built-in handler. -/
structure PluginDescriptor where
  id : PluginId
  name : String := ""
  version : String := ""
  kind : PluginKind := .sandboxed
  associations : List MimeAssociation := []
  deriving DecidableEq, Inhabited

namespace PluginDescriptor

/-- A sandboxed plugin without version and associations. -/
def named (id : PluginId) (name : String) : PluginDescriptor := { id, name }

/-- The same plugin, run another way. -/
def withKind (d : PluginDescriptor) (kind : PluginKind) : PluginDescriptor := { d with kind }

/-- The same plugin with a version. -/
def withVersion (d : PluginDescriptor) (version : String) : PluginDescriptor := { d with version }

/-- The same plugin with one more association. -/
def addAssociation (d : PluginDescriptor) (a : MimeAssociation) : PluginDescriptor :=
  { d with associations := d.associations ++ [a] }

/-- The first association that declares exactly this type. -/
def findExact? (d : PluginDescriptor) (mime : String) : Option MimeAssociation :=
  d.associations.find? fun a => a.matchesExactly mime

/-! ## 3. Written form -/

/-- What is read of a descriptor. -/
def shape : Shape :=
  .record [("id", .scalar), ("name", .scalar), ("version", .scalar), ("type", .scalar),
    ("mime_types", .list MimeAssociation.shape)]

/-- The names of the fields, in order. -/
def fieldNames : List String := shape.names

/-- The descriptor as a record of all its fields. -/
def toDocument (d : PluginDescriptor) : Document :=
  .record [("id", d.id.toDocument), ("name", .text d.name), ("version", .text d.version),
    ("type", d.kind.toDocument),
    ("mime_types", .list (d.associations.map MimeAssociation.toDocument))]

/-- Reads a descriptor.  Only the identity has to be given. -/
def read? {α : Type} [Readable α] (source : α) : Option PluginDescriptor := do
  let fields ← Readable.record? fieldNames source
  let id ← Readable.required fields "id" PluginId.read?
  let name ← Readable.optional fields "name" Readable.text? ""
  let version ← Readable.optional fields "version" Readable.text? ""
  let kind ← Readable.optional fields "type" PluginKind.read? .sandboxed
  let associations ←
    Readable.optional fields "mime_types" (Readable.list? MimeAssociation.read?) []
  return { id, name, version, kind, associations }

end PluginDescriptor

end PluginArbiter
