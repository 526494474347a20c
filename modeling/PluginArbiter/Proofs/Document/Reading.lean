/-
# Reading what was written

Each kind of record says how its values are written, as a document, and how they are read, from any
source.  This module ties the two together, one kind after the other: from a source that portrays the
document of a value, that value is read, with the defaults of the fields that are left out (`reset`);
and nothing is read where a field is left out that has no default (`lacksName`), be it in a record
deep inside.

Two fields have no default, the identity of a descriptor and the type of an association.

Main statements:
* `MimeAssociation.read?_eq`, `PluginDescriptor.read?_eq`, `Config.read?_eq`, and so on: one for each
  kind of record.
-/
import PluginArbiter.Config.Basic
import PluginArbiter.Handlers
import PluginArbiter.Proofs.Document.Portrayal

namespace PluginArbiter

variable {α : Type} [Readable α] {gone : Omission} {source : α}

/-! ## 1. Associations and descriptors -/

namespace MimeAssociation

/-- Whether the type is left out. -/
def lacksName (gone : Omission) (_ : MimeAssociation) : Bool := gone.omits "mime_type"

/-- The association with the defaults of what is left out. -/
def reset (gone : Omission) (a : MimeAssociation) : MimeAssociation where
  mimeType := a.mimeType
  isWildcard := if gone.omits "is_wildcard" then false else a.isWildcard
  fileExtensions := if gone.omits "file_extensions" then [] else a.fileExtensions
  description := if gone.omits "description" then "" else a.description
  paramNames := if gone.omits "additional_param_names" then [] else a.paramNames
  paramValues := if gone.omits "additional_param_values" then [] else a.paramValues

/-- **An association is read as it was written.** -/
theorem read?_eq (a : MimeAssociation) (gone : Omission) (source : α)
    (h : Portrays gone source a.toDocument) :
    read? source = if lacksName gone a = true then none else some (a.reset gone) := by
  rw [toDocument, Portrays] at h
  obtain ⟨known, hknown, h⟩ := h
  simp only [portraysFields_cons] at h
  obtain ⟨hmime, hwildcard, hextensions, hdescription, hnames, hvalues, -⟩ := h
  have hrecord : Readable.record? fieldNames source = some known := hknown
  rw [read?, hrecord, lacksName, reset]
  simp only [Option.bind_eq_bind, Option.bind_some, required_eq hmime fun _ => text?_eq,
    optional_eq_some hwildcard fun _ => flag?_eq,
    optional_eq_some hextensions fun _ => texts?_eq,
    optional_eq_some hdescription fun _ => text?_eq, optional_eq_some hnames fun _ => texts?_eq,
    optional_eq_some hvalues fun _ => texts?_eq]
  cases gone.omits "mime_type" <;> rfl

end MimeAssociation

theorem PluginId.read?_eq {id : PluginId} (h : Portrays gone source id.toDocument) :
    PluginId.read? source = some id := by
  rw [PluginId.read?, text?_eq h]
  rfl

theorem PluginKind.read?_eq {k : PluginKind} (h : Portrays gone source k.toDocument) :
    PluginKind.read? source = some k := by
  rw [PluginKind.read?, choice?_eq h]
  exact ofName?_name k

namespace PluginDescriptor

/-- Whether the identity is left out, or the type of an association that is not. -/
def lacksName (gone : Omission) (d : PluginDescriptor) : Bool :=
  gone.omits "id" || (!gone.omits "mime_types" &&
    (gone.within (.field "mime_types")).anyItem MimeAssociation.lacksName d.associations)

/-- The descriptor with the defaults of what is left out. -/
def reset (gone : Omission) (d : PluginDescriptor) : PluginDescriptor where
  id := d.id
  name := if gone.omits "name" then "" else d.name
  version := if gone.omits "version" then "" else d.version
  kind := if gone.omits "type" then .sandboxed else d.kind
  associations :=
    if gone.omits "mime_types" then []
    else (gone.within (.field "mime_types")).onItems (fun gone a => a.reset gone) d.associations

/-- **A descriptor is read as it was written.** -/
theorem read?_eq (d : PluginDescriptor) (gone : Omission) (source : α)
    (h : Portrays gone source d.toDocument) :
    read? source = if lacksName gone d = true then none else some (d.reset gone) := by
  rw [toDocument, Portrays] at h
  obtain ⟨known, hknown, h⟩ := h
  simp only [portraysFields_cons] at h
  obtain ⟨hid, hname, hversion, hkind, hassociations, -⟩ := h
  have hrecord : Readable.record? fieldNames source = some known := hknown
  rw [read?, hrecord, lacksName, reset]
  simp only [Option.bind_eq_bind, Option.bind_some, required_eq hid fun _ => PluginId.read?_eq,
    optional_eq_some hname fun _ => text?_eq, optional_eq_some hversion fun _ => text?_eq,
    optional_eq_some hkind fun _ => PluginKind.read?_eq,
    optional_eq hassociations fun _ hs => list?_eq _ _ _ _ hs MimeAssociation.read?_eq]
  cases gone.omits "id" <;> cases gone.omits "mime_types" <;>
    cases (gone.within (.field "mime_types")).anyItem MimeAssociation.lacksName d.associations <;>
      rfl

end PluginDescriptor

/-! ## 2. Options and sections -/

namespace PolicyOptions

/-- The options with the defaults of what is left out. -/
def reset (gone : Omission) (o : PolicyOptions) : PolicyOptions :=
  let standard : PolicyOptions := {}
  { legacySupported :=
      if gone.omits "legacy_plugins_supported" then standard.legacySupported else o.legacySupported
    legacyCapableTypes :=
      if gone.omits "legacy_capable_mime_types" then standard.legacyCapableTypes
      else o.legacyCapableTypes }

/-- **Options are read as they were written.** -/
theorem read?_eq {o : PolicyOptions} (h : Portrays gone source o.toDocument) :
    read? source = some (o.reset gone) := by
  rw [toDocument, Portrays] at h
  obtain ⟨known, hknown, h⟩ := h
  simp only [portraysFields_cons] at h
  obtain ⟨hsupported, htypes, -⟩ := h
  have hrecord : Readable.record? fieldNames source = some known := hknown
  rw [read?, hrecord, reset]
  simp only [Option.bind_eq_bind, Option.bind_some, optional_eq_some hsupported fun _ => flag?_eq,
    optional_eq_some htypes fun _ => texts?_eq]
  rfl

end PolicyOptions

namespace LoggingConfig

/-- The section with the defaults of what is left out. -/
def reset (gone : Omission) (c : LoggingConfig) : LoggingConfig :=
  let standard : LoggingConfig := {}
  { level := if gone.omits "level" then standard.level else c.level }

theorem read?_eq {c : LoggingConfig} (h : Portrays gone source c.toDocument) :
    read? source = some (c.reset gone) := by
  rw [toDocument, Portrays] at h
  obtain ⟨known, hknown, h⟩ := h
  simp only [portraysFields_cons] at h
  obtain ⟨hlevel, -⟩ := h
  have hrecord : Readable.record? fieldNames source = some known := hknown
  rw [read?, hrecord, reset]
  simp only [Option.bind_eq_bind, Option.bind_some, optional_eq_some hlevel fun _ => text?_eq]
  rfl

end LoggingConfig

namespace StabilityConfig

/-- The section with the defaults of what is left out. -/
def reset (gone : Omission) (c : StabilityConfig) : StabilityConfig :=
  let standard : StabilityConfig := {}
  { maxCrashes := if gone.omits "max_crashes" then standard.maxCrashes else c.maxCrashes
    windowSeconds :=
      if gone.omits "crash_window_secs" then standard.windowSeconds else c.windowSeconds }

theorem read?_eq {c : StabilityConfig} (h : Portrays gone source c.toDocument) :
    read? source = some (c.reset gone) := by
  rw [toDocument, Portrays] at h
  obtain ⟨known, hknown, h⟩ := h
  simp only [portraysFields_cons] at h
  obtain ⟨hcrashes, hwindow, -⟩ := h
  have hrecord : Readable.record? fieldNames source = some known := hknown
  rw [read?, hrecord, reset]
  simp only [Option.bind_eq_bind, Option.bind_some, optional_eq_some hcrashes fun _ => word64?_eq,
    optional_eq_some hwindow fun _ => word64?_eq]
  rfl

end StabilityConfig

namespace AvailabilityConfig

/-- The section with the defaults of what is left out. -/
def reset (gone : Omission) (c : AvailabilityConfig) : AvailabilityConfig where
  disabledPlugins := if gone.omits "disabled_plugins" then [] else c.disabledPlugins
  blockedHosts := if gone.omits "blocked_top_level_hosts" then [] else c.blockedHosts

theorem read?_eq {c : AvailabilityConfig} (h : Portrays gone source c.toDocument) :
    read? source = some (c.reset gone) := by
  rw [toDocument, Portrays] at h
  obtain ⟨known, hknown, h⟩ := h
  simp only [portraysFields_cons] at h
  obtain ⟨hdisabled, hblocked, -⟩ := h
  have hrecord : Readable.record? fieldNames source = some known := hknown
  rw [read?, hrecord, reset]
  simp only [Option.bind_eq_bind, Option.bind_some,
    optional_eq_some hdisabled fun _ hs => list?_eq_some hs fun _ _ _ => PluginId.read?_eq,
    optional_eq_some hblocked fun _ => texts?_eq]
  rfl

end AvailabilityConfig

/-- **An answer of the built-in handlers is read as it was written**, if nothing is left out. -/
theorem HandlerAnswer.read?_eq {a : HandlerAnswer}
    (h : Portrays Omission.nothing source a.toDocument) :
    HandlerAnswer.read? source = some a := by
  rw [toDocument, Portrays] at h
  obtain ⟨known, hknown, h⟩ := h
  simp only [portraysFields_cons] at h
  obtain ⟨havailable, hnames, hvalues, -⟩ := h
  have hrecord : Readable.record? fieldNames source = some known := hknown
  rw [read?, hrecord]
  simp only [Option.bind_eq_bind, Option.bind_some, required_eq havailable fun _ => flag?_eq,
    required_eq hnames fun _ => texts?_eq, required_eq hvalues fun _ => texts?_eq]
  rfl

/-! ## 3. Configurations -/

namespace Config

/-- Whether an identity or a type is left out of a section of descriptors that is not left out. -/
def sectionLacksName (gone : Omission) (name : String) (ds : List PluginDescriptor) : Bool :=
  !gone.omits name && (gone.within (.field name)).anyItem PluginDescriptor.lacksName ds

/-- A section of descriptors with the defaults of what is left out. -/
def resetSection (gone : Omission) (name : String) (ds : List PluginDescriptor) :
    List PluginDescriptor :=
  if gone.omits name then []
  else (gone.within (.field name)).onItems (fun gone d => d.reset gone) ds

/-- Whether an identity or a type is left out of what is not left out as a whole. -/
def lacksName (gone : Omission) (c : Config) : Bool :=
  sectionLacksName gone "plugins" c.plugins
    || sectionLacksName gone "builtin_handlers" c.builtinHandlers

/-- The configuration with the defaults of what is left out. -/
def reset (gone : Omission) (c : Config) : Config where
  logging := if gone.omits "logging" then {} else c.logging.reset (gone.within (.field "logging"))
  policy := if gone.omits "policy" then {} else c.policy.reset (gone.within (.field "policy"))
  stability :=
    if gone.omits "stability" then {} else c.stability.reset (gone.within (.field "stability"))
  availability :=
    if gone.omits "availability" then {}
    else c.availability.reset (gone.within (.field "availability"))
  plugins := resetSection gone "plugins" c.plugins
  builtinHandlers := resetSection gone "builtin_handlers" c.builtinHandlers

/-- A section of descriptors is read as it was written. -/
theorem section_eq {known : List (String × α)} {name : String} {ds : List PluginDescriptor}
    (h : PortraysField gone known name (.list (ds.map PluginDescriptor.toDocument))) :
    Readable.optional known name (Readable.list? PluginDescriptor.read?) []
      = if sectionLacksName gone name ds = true then none else some (resetSection gone name ds) := by
  rw [optional_eq h fun _ hs => list?_eq _ _ _ _ hs PluginDescriptor.read?_eq, sectionLacksName,
    resetSection]
  cases gone.omits name <;> rfl

/-- **A configuration is read as it was written.** -/
theorem read?_eq {c : Config} (h : Portrays gone source c.toDocument) :
    read? source = if c.lacksName gone = true then none else some (c.reset gone) := by
  rw [toDocument, Portrays] at h
  obtain ⟨known, hknown, h⟩ := h
  simp only [portraysFields_cons] at h
  obtain ⟨hlogging, hpolicy, hstability, havailability, hplugins, hhandlers, -⟩ := h
  have hrecord : Readable.record? fieldNames source = some known := hknown
  rw [read?, hrecord, lacksName, reset]
  simp only [Option.bind_eq_bind, Option.bind_some,
    optional_eq_some hlogging fun _ => LoggingConfig.read?_eq,
    optional_eq_some hpolicy fun _ => PolicyOptions.read?_eq,
    optional_eq_some hstability fun _ => StabilityConfig.read?_eq,
    optional_eq_some havailability fun _ => AvailabilityConfig.read?_eq,
    section_eq hplugins, section_eq hhandlers]
  cases sectionLacksName gone "plugins" c.plugins <;>
    cases sectionLacksName gone "builtin_handlers" c.builtinHandlers <;> rfl

end Config

end PluginArbiter
