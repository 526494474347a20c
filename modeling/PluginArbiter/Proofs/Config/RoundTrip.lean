/-
# Configuration files are read back

What is saved is loaded.  The document of a configuration is regular, so its text is parsed as its
own node; the node portrays the document, so the configuration is read from it, and within the limit
on references, since there are none.  Saving does not look whether the configuration is sound, but
loading does; this is the only reason why a saved file is refused.

Main statements:
* `Config.ofYaml?_toYaml`: the text of a configuration is read as the configuration;
* `load_of_save`: a saved configuration is loaded, or refused for what makes it unsound.
-/
import PluginArbiter.Config.File
import PluginArbiter.Engine
import PluginArbiter.Proofs.Document.Variation
import PluginArbiter.Proofs.Yaml.RoundTrip

namespace PluginArbiter

/-! ## 1. Texts -/

/-- The octets of a text are read as the text. -/
theorem fromUTF8?_toUTF8 (s : String) : String.fromUTF8? s.toUTF8 = some s := by
  rw [String.fromUTF8?, String.toUTF8_eq_toByteArray, dif_pos s.isValidUTF8]
  rfl

namespace Config

open Yaml

/-- **The text of a configuration is read as the configuration**, whatever it says. -/
theorem ofYaml?_toYaml (c : Config) : ofYaml? c.toYaml = some c := by
  have hparse : parse c.toYaml
      = some { targets := [], node := Node.ofDocument c.toDocument } := parse_write c.regular
  have hportrays : Portrays .nothing
      ({ targets := [], node := Node.ofDocument c.toDocument } : Source) c.toDocument :=
    Source.portrays_ofDocument c.toDocument c.regular
  rw [ofYaml?, hparse, Option.bind_some, if_pos (Source.isModest_ofDocument shape c.toDocument),
    read?_eq hportrays, c.lacksName_nothing, c.reset_nothing, if_neg Bool.false_ne_true]

/-- It is accepted if the configuration is sound, and refused for the first defect otherwise. -/
theorem ofYaml_toYaml (c : Config) :
    ofYaml c.toYaml =
      match c.validate with
      | .ok () => .ok c
      | .error defect => .error (.unsound defect) := by
  unfold ofYaml
  cases hsound : c.validate with
  | ok accepted => simp [ofYaml?_toYaml, hsound]
  | error defect => simp [ofYaml?_toYaml, hsound]

end Config

/-! ## 2. Files -/

namespace ConfigFile

variable {c : Config} {file : ConfigFile}

/-- Where nothing is in the way the file holds the text of the configuration. -/
theorem eq_of_save {isBlocked : Bool} (h : save c isBlocked = .ok file) :
    file = .contents c.toYaml.toUTF8 := by
  cases isBlocked with
  | true => exact nomatch h
  | false => exact (Except.ok.inj h).symm

theorem load_contents (text : String) : load (.contents text.toUTF8) = Config.ofYaml text := by
  rw [load, fromUTF8?_toUTF8]

/-- **What was saved is loaded**, and refused only for what makes it unsound.  So what any text was
accepted as can be saved, is loaded as the same again, and describes an engine. -/
theorem load_of_save :
    (∀ (c : Config) (isBlocked : Bool) (file : ConfigFile), save c isBlocked = .ok file →
      file.load =
        match c.validate with
        | .ok () => .ok c
        | .error defect => .error (.unsound defect)) ∧
    ∀ (text : String) (c : Config), Config.ofYaml text = .ok c →
      (∃ file, save c false = .ok file ∧ file.load = .ok c) ∧ ∃ e, Engine.ofConfig c = .ok e := by
  constructor
  · intro c isBlocked file hsave
    rw [eq_of_save hsave, load_contents, Config.ofYaml_toYaml]
  · intro text c haccepted
    obtain ⟨-, hsound⟩ := Config.ofYaml_ok_iff.mp haccepted
    constructor
    · refine ⟨.contents c.toYaml.toUTF8, rfl, ?_⟩
      rw [load_contents, Config.ofYaml_toYaml, hsound]
    · exact ⟨_, by rw [Engine.ofConfig, hsound]; rfl⟩

/-- Texts that look like something else, with line breaks, blanks at their ends and characters that
cannot be seen; the same configuration without a limit is refused; and a short text is accepted. -/
theorem load_of_save_awkward :
    let c : Config :=
      { logging := { level := "true" }
        availability := {
          disabledPlugins := [⟨"0x1F"⟩, ⟨""⟩, ⟨" - a: b #c"⟩]
          blockedHosts := ["first\n\n  second\n\n", "\t\u0000\ufeff\\", "it\u2028is \"so\"", "'"] }
        plugins := [{
          id := ⟨"null"⟩, name := "- "
          associations := [{ mimeType := "a/b", paramNames := [" "], paramValues := ["\r\n"] }] }] }
    let unlimited : Config := { c with stability := { maxCrashes := 0 } }
    load (.contents c.toYaml.toUTF8) = .ok c ∧
      load (.contents unlimited.toYaml.toUTF8) = .error (.unsound .noCrashes) ∧
      (∃ file, save { logging := { level := "debug" } } false = .ok file ∧
        file.load = .ok { logging := { level := "debug" } }) ∧
      ∃ e, Engine.ofConfig { logging := { level := "debug" } } = .ok e := by
  intro c unlimited
  obtain ⟨hload, haccepted⟩ := load_of_save
  have hsound : c.validate = .ok () := by decide
  have hunsound : unlimited.validate = .error .noCrashes := by decide
  have htext :
      Config.ofYaml "logging: {level: debug}" = .ok { logging := { level := "debug" } } := by
    decide +kernel
  refine ⟨?_, ?_, haccepted _ _ htext⟩
  · rw [hload c false _ rfl, hsound]
  · rw [hload unlimited false _ rfl, hunsound]

end ConfigFile

end PluginArbiter
