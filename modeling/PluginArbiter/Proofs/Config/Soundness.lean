/-
# What a sound configuration keeps

A configuration is checked once, before anything is built from it.  The check looks for defects, one
after the other, and remembers the identities it has met; this module says what is the case when it
finds none.  Descriptors are sound one by one (`PluginDescriptor.IsSound`), and no two of a section
share an identity, so that an identity names one descriptor.

Main statements:
* `descriptorDefect?_eq_none_iff`, `sectionDefect?_eq_none_iff`, `stabilityDefect?_eq_none_iff`;
* `validate_eq_ok_iff_isSound`: what is accepted is what is sound.
-/
import PluginArbiter.Config.Validation

namespace PluginArbiter

/-! ## 1. Sound parts -/

/-- An association names a type and has as many names of parameters as values. -/
structure MimeAssociation.IsSound (a : MimeAssociation) : Prop where
  mimeType : Text.isBlankText a.mimeType = false
  params : a.paramNames.length = a.paramValues.length

/-- A descriptor has an identity, and its associations are sound. -/
structure PluginDescriptor.IsSound (d : PluginDescriptor) : Prop where
  id : Text.isBlankText d.id.text = false
  associations : ∀ a ∈ d.associations, a.IsSound

/-- The limits of the crash history are not nought. -/
structure StabilityConfig.IsSound (s : StabilityConfig) : Prop where
  maxCrashes : s.maxCrashes ≠ 0
  windowSeconds : s.windowSeconds ≠ 0

namespace Config

/-- A configuration is sound in all its parts, and within each list of descriptors no two have one
identity. -/
structure IsSound (c : Config) : Prop where
  plugins : ∀ d ∈ c.plugins, d.IsSound
  pluginIds : (c.plugins.map (·.id)).Nodup
  handlers : ∀ d ∈ c.builtinHandlers, d.IsSound
  handlerIds : (c.builtinHandlers.map (·.id)).Nodup
  stability : c.stability.IsSound

/-! ## 2. What is sound has no defect -/

theorem associationDefect?_eq_none_iff {s : DescriptorSection} {id : PluginId}
    {a : MimeAssociation} : associationDefect? s id a = none ↔ a.IsSound := by
  unfold associationDefect?
  constructor
  · intro h
    split at h
    · exact absurd h (by simp)
    · rename_i hmime
      split at h
      · exact absurd h (by simp)
      · rename_i hparams
        exact ⟨Bool.eq_false_iff.mpr hmime, Decidable.not_not.mp hparams⟩
  · rintro ⟨hmime, hparams⟩
    simp [hmime, hparams]

theorem descriptorDefect?_eq_none_iff {s : DescriptorSection} {seen : List PluginId}
    {d : PluginDescriptor} : descriptorDefect? s seen d = none ↔ d.IsSound ∧ d.id ∉ seen := by
  unfold descriptorDefect?
  constructor
  · intro h
    split at h
    · exact absurd h (by simp)
    · rename_i hid
      split at h
      · exact absurd h (by simp)
      · rename_i hseen
        refine ⟨⟨Bool.eq_false_iff.mpr hid, fun a ha => ?_⟩, by simpa using hseen⟩
        exact associationDefect?_eq_none_iff.mp (List.findSome?_eq_none_iff.mp h a ha)
  · rintro ⟨⟨hid, hassociations⟩, hseen⟩
    have hnone : d.associations.findSome? (associationDefect? s d.id) = none :=
      List.findSome?_eq_none_iff.mpr fun a ha =>
        associationDefect?_eq_none_iff.mpr (hassociations a ha)
    simp [hid, hseen, hnone]

/-- A list of descriptors has no defect exactly when each is sound, no two have one identity, and
none has an identity that was seen before. -/
theorem sectionDefect?_eq_none_iff {s : DescriptorSection} {seen : List PluginId}
    {ds : List PluginDescriptor} :
    sectionDefect? s seen ds = none ↔
      (∀ d ∈ ds, d.IsSound) ∧ (ds.map (·.id)).Nodup ∧ ∀ d ∈ ds, d.id ∉ seen := by
  induction ds generalizing seen with
  | nil => simp [sectionDefect?]
  | cons d rest ih =>
    have hstep : sectionDefect? s seen (d :: rest) = none ↔
        descriptorDefect? s seen d = none ∧ sectionDefect? s (d.id :: seen) rest = none := by
      rw [sectionDefect?]
      cases descriptorDefect? s seen d <;> simp
    rw [hstep, descriptorDefect?_eq_none_iff, ih]
    simp only [List.mem_cons, forall_eq_or_imp, List.map_cons, List.nodup_cons, List.mem_map,
      not_exists, not_and, not_or]
    constructor
    · rintro ⟨⟨hd, hfresh⟩, hrest, hnodup, hseen⟩
      exact ⟨⟨hd, hrest⟩, ⟨fun x hx => (hseen x hx).1, hnodup⟩, hfresh, fun x hx => (hseen x hx).2⟩
    · rintro ⟨⟨hd, hrest⟩, ⟨hapart, hnodup⟩, hfresh, hseen⟩
      exact ⟨⟨hd, hfresh⟩, hrest, hnodup, fun x hx => ⟨hapart x hx, hseen x hx⟩⟩

theorem stabilityDefect?_eq_none_iff {s : StabilityConfig} :
    stabilityDefect? s = none ↔ s.IsSound := by
  unfold stabilityDefect?
  constructor
  · intro h
    split at h
    · exact absurd h (by simp)
    · rename_i hcrashes
      split at h
      · exact absurd h (by simp)
      · rename_i hwindow
        exact ⟨hcrashes, hwindow⟩
  · rintro ⟨hcrashes, hwindow⟩
    simp [hcrashes, hwindow]

/-- **What is accepted is what is sound.** -/
theorem validate_eq_ok_iff_isSound {c : Config} : c.validate = .ok () ↔ c.IsSound := by
  rw [validate_eq_ok_iff, firstDefect?, Option.or_eq_none_iff, Option.or_eq_none_iff,
    sectionDefect?_eq_none_iff, sectionDefect?_eq_none_iff, stabilityDefect?_eq_none_iff]
  constructor
  · rintro ⟨⟨⟨hplugins, hpluginIds, -⟩, hhandlers, hhandlerIds, -⟩, hstability⟩
    exact ⟨hplugins, hpluginIds, hhandlers, hhandlerIds, hstability⟩
  · rintro ⟨hplugins, hpluginIds, hhandlers, hhandlerIds, hstability⟩
    exact ⟨⟨⟨hplugins, hpluginIds, by simp⟩, hhandlers, hhandlerIds, by simp⟩, hstability⟩

end Config

/-! ## 3. What follows -/

/-- What is not blank is not empty. -/
theorem Text.ne_empty_of_not_blank {s : String} (h : Text.isBlankText s = false) : s ≠ "" := by
  rintro rfl
  exact absurd h (by decide)

end PluginArbiter
