/-
# Configuration files

A configuration is kept in a file as YAML.  Reading a file may fail because it cannot be read,
because its text is no configuration, or because the configuration is not sound.

Main statements:
* `loadOrDefault_absent`: where no file lies the standard configuration is taken;
* `ofYaml_ok_iff`: what a text yields is what it describes, if that is sound.
-/
import PluginArbiter.Config.Validation
import PluginArbiter.Yaml.Following
import PluginArbiter.Yaml.Layout
import PluginArbiter.Yaml.Printer

namespace PluginArbiter

/-! ## 1. Errors -/

/-- Why there is no configuration. -/
inductive ConfigError
  /-- The file cannot be read or written. -/
  | inaccessible
  /-- The text is not a configuration. -/
  | malformed
  /-- The configuration is not sound. -/
  | unsound (defect : ConfigDefect)
  deriving DecidableEq, Inhabited

/-- The wording of an error.  What the file system or the parser has to say is left out. -/
def ConfigError.message? : ConfigError → Option String
  | inaccessible | malformed => none
  | unsound defect => some ("配置无效: " ++ defect.message)

/-! ## 2. Texts -/

namespace Config

/-- The configuration as a text. -/
def toYaml (c : Config) : String := Yaml.write c.toDocument

/-- Reads a text without a look at what it says. -/
def ofYaml? (text : String) : Option Config :=
  (Yaml.parse text).bind fun source => if source.isModest shape then read? source else none

/-- Reads a text and accepts what is sound. -/
def ofYaml (text : String) : Except ConfigError Config :=
  match ofYaml? text with
  | none => .error .malformed
  | some c =>
    match c.validate with
    | .ok () => .ok c
    | .error defect => .error (.unsound defect)

/-- What a text yields is what it describes, if that is sound. -/
theorem ofYaml_ok_iff {text : String} {c : Config} :
    ofYaml text = .ok c ↔ ofYaml? text = some c ∧ c.validate = .ok () := by
  unfold ofYaml
  cases h : ofYaml? text with
  | none => simp
  | some d =>
    simp only [Option.some.injEq]
    constructor
    · intro ho
      split at ho
      · rename_i hv
        obtain rfl := Except.ok.inj ho
        exact ⟨rfl, hv⟩
      · exact absurd ho (by simp)
    · rintro ⟨rfl, hv⟩
      rw [hv]

end Config

/-! ## 3. Files -/

/-- What lies at a path. -/
inductive ConfigFile
  | absent
  | folder
  | contents (bytes : ByteArray)

namespace ConfigFile

/-- Reads what lies at a path; only a file that holds a text can be read. -/
def load : ConfigFile → Except ConfigError Config
  | absent | folder => .error .inaccessible
  | contents bytes =>
    match String.fromUTF8? bytes with
    | none => .error .inaccessible
    | some text => Config.ofYaml text

/-- Reads what lies at a path, or takes the standard configuration where nothing lies. -/
def loadOrDefault : ConfigFile → Except ConfigError Config
  | absent => .ok {}
  | file => file.load

/-- The file as it is after saving, unless a file is in the way of a folder above it. -/
def save (c : Config) (isBlocked : Bool) : Except ConfigError ConfigFile :=
  if isBlocked then .error .inaccessible else .ok (.contents c.toYaml.toUTF8)

/-- Where no file lies the standard configuration is taken. -/
theorem loadOrDefault_absent : absent.loadOrDefault = .ok {} := rfl

end ConfigFile

end PluginArbiter
