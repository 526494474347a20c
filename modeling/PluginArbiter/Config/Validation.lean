/-
# Sound configurations

What can be wrong with a configuration that reads well, and which defect is reported: the first one,
where plugins come before built-in handlers and both before the limits of the crash history.

Main statements:
* `validate_eq_ok_iff`, `validate_eq_error_iff`: a configuration is accepted exactly when no defect is
  found, and otherwise the one that is found is reported.
-/
import PluginArbiter.Config.Basic
import PluginArbiter.Text.Blank

namespace PluginArbiter

/-- The two lists of descriptors. -/
inductive DescriptorSection
  | plugins
  | builtinHandlers
  deriving DecidableEq, Inhabited

/-- The name under which a list is configured. -/
def DescriptorSection.name : DescriptorSection → String
  | plugins => "plugins"
  | builtinHandlers => "builtin_handlers"

/-- A defect of a configuration. -/
inductive ConfigDefect
  | blankId (where_ : DescriptorSection)
  | repeatedId (where_ : DescriptorSection) (id : PluginId)
  | blankMimeType (where_ : DescriptorSection) (id : PluginId)
  | unevenParams (where_ : DescriptorSection) (id : PluginId)
  | noCrashes
  | noWindow
  deriving DecidableEq, Inhabited

/-- The wording of a defect. -/
def ConfigDefect.message : ConfigDefect → String
  | blankId s => s.name ++ ": 插件 ID 不能为空"
  | repeatedId s id => s.name ++ ": 插件 ID 重复: " ++ id.text
  | blankMimeType s id => s.name ++ ": 插件 " ++ id.text ++ " 的 MIME 类型不能为空"
  | unevenParams s id => s.name ++ ": 插件 " ++ id.text ++ " 的附加参数名与值数量不一致"
  | noCrashes => "stability.max_crashes 必须大于 0"
  | noWindow => "stability.crash_window_secs 必须大于 0"

namespace Config

/-! ## 1. Looking for defects -/

/-- The defect of one association. -/
def associationDefect? (s : DescriptorSection) (id : PluginId) (a : MimeAssociation) :
    Option ConfigDefect :=
  if Text.isBlankText a.mimeType then some (.blankMimeType s id)
  else if a.paramNames.length ≠ a.paramValues.length then some (.unevenParams s id)
  else none

/-- The first defect of a descriptor; `seen` holds the identities before it. -/
def descriptorDefect? (s : DescriptorSection) (seen : List PluginId) (d : PluginDescriptor) :
    Option ConfigDefect :=
  if Text.isBlankText d.id.text then some (.blankId s)
  else if seen.contains d.id then some (.repeatedId s d.id)
  else d.associations.findSome? (associationDefect? s d.id)

/-- The first defect of a list of descriptors. -/
def sectionDefect? (s : DescriptorSection) : List PluginId → List PluginDescriptor →
    Option ConfigDefect
  | _, [] => none
  | seen, d :: rest =>
    match descriptorDefect? s seen d with
    | some defect => some defect
    | none => sectionDefect? s (d.id :: seen) rest

/-- The first defect of the limits. -/
def stabilityDefect? (c : StabilityConfig) : Option ConfigDefect :=
  if c.maxCrashes = 0 then some .noCrashes
  else if c.windowSeconds = 0 then some .noWindow
  else none

/-- The first defect of a configuration. -/
def firstDefect? (c : Config) : Option ConfigDefect :=
  ((sectionDefect? .plugins [] c.plugins).or
    (sectionDefect? .builtinHandlers [] c.builtinHandlers)).or (stabilityDefect? c.stability)

/-! ## 2. The verdict on a configuration -/

/-- Accepts a configuration or reports its first defect. -/
def validate (c : Config) : Except ConfigDefect Unit :=
  match c.firstDefect? with
  | none => .ok ()
  | some defect => .error defect

/-- A configuration is accepted exactly when no defect is found. -/
theorem validate_eq_ok_iff {c : Config} : c.validate = .ok () ↔ c.firstDefect? = none := by
  unfold validate
  cases c.firstDefect? <;> simp

/-- The defect that is found is the one that is reported. -/
theorem validate_eq_error_iff {c : Config} {defect : ConfigDefect} :
    c.validate = .error defect ↔ c.firstDefect? = some defect := by
  unfold validate
  cases c.firstDefect? <;> simp

end Config

end PluginArbiter
