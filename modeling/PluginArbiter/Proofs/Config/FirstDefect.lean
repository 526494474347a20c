/-
# Which defect is reported

A configuration may be wrong in many places at once, and its check reports one of them.  This module
says which, without going through anything.  Every place where something may be wrong has a number,
like a paragraph of a text, and numbers are compared piece by piece from the left.  What is reported
is the defect at the least number.

* The chapters are the plugins, the built-in handlers, the number of crashes and the window.
* In the first two a descriptor is numbered by its place, and in each descriptor 0 is a blank
  identity, 1 an identity that stood before, and 2 begins the associations.
* An association is numbered by its place too; 0 is a blank type and 1 are uneven parameters.

Whether there is a defect at a place (`HasDefect`) has nothing to do with what is wrong elsewhere,
and it says nothing of a set of identities that grows.  That set comes in once, where a search
through a list of descriptors is cut at the descriptor that stops it (`sectionDefect?_split`).

Main statements:
* `associationDefect?_isFirst`, `descriptorDefect?_isFirst`, `sectionDefect?_isFirst`,
  `stabilityDefect?_isFirst`, `firstDefect?_isFirst`: each search finds the first defect;
* `validate_reports_first_defect`: what is accepted, what is reported, and what the report names.
-/
import Mathlib.Data.List.Lex
import PluginArbiter.Proofs.Config.Soundness

namespace PluginArbiter

/-! ## 1. Defects and their places -/

/-- What is wrong with an association of the plugin `id`. -/
inductive MimeAssociation.HasDefect (s : DescriptorSection) (id : PluginId) (a : MimeAssociation) :
    List Nat → ConfigDefect → Prop
  | blankMimeType (blank : Text.trim a.mimeType = "") : HasDefect s id a [0] (.blankMimeType s id)
  | unevenParams (uneven : a.paramNames.length ≠ a.paramValues.length) :
    HasDefect s id a [1] (.unevenParams s id)

/-- What is wrong with a descriptor, where `earlier` stand before it in its section. -/
inductive PluginDescriptor.HasDefect (s : DescriptorSection) (earlier : List PluginDescriptor)
    (d : PluginDescriptor) : List Nat → ConfigDefect → Prop
  | blankId (blank : Text.trim d.id.text = "") : HasDefect s earlier d [0] (.blankId s)
  | repeatedId (e : PluginDescriptor) (before : e ∈ earlier) (same : e.id = d.id) :
    HasDefect s earlier d [1] (.repeatedId s d.id)
  | inAssociation (j : Nat) (a : MimeAssociation) (stands : d.associations[j]? = some a)
    {place : List Nat} {defect : ConfigDefect} (inside : a.HasDefect s d.id place defect) :
    HasDefect s earlier d (2 :: j :: place) defect

/-- What is wrong in a section. -/
inductive DescriptorSection.HasDefect (s : DescriptorSection) (ds : List PluginDescriptor) :
    List Nat → ConfigDefect → Prop
  | inDescriptor (i : Nat) (d : PluginDescriptor) (stands : ds[i]? = some d)
    {place : List Nat} {defect : ConfigDefect} (inside : d.HasDefect s (ds.take i) place defect) :
    HasDefect s ds (i :: place) defect

/-- The chapter of a section. -/
def DescriptorSection.chapter : DescriptorSection → Nat
  | plugins => 0
  | builtinHandlers => 1

theorem DescriptorSection.chapter_injective {s s' : DescriptorSection}
    (h : s.chapter = s'.chapter) : s = s' := by
  cases s <;> cases s' <;> simp_all [chapter]

/-- The descriptors of a section. -/
def Config.descriptors (c : Config) : DescriptorSection → List PluginDescriptor
  | .plugins => c.plugins
  | .builtinHandlers => c.builtinHandlers

/-- What is wrong with the limits of the crash history. -/
inductive StabilityConfig.HasDefect (l : StabilityConfig) : List Nat → ConfigDefect → Prop
  | noCrashes (nought : l.maxCrashes = 0) : HasDefect l [2] .noCrashes
  | noWindow (nought : l.windowSeconds = 0) : HasDefect l [3] .noWindow

/-- What is wrong with a configuration. -/
inductive Config.HasDefect (c : Config) : List Nat → ConfigDefect → Prop
  | inSection (s : DescriptorSection) {place : List Nat} {defect : ConfigDefect}
    (inside : s.HasDefect (c.descriptors s) place defect) : HasDefect c (s.chapter :: place) defect
  | inLimits {place : List Nat} {defect : ConfigDefect}
    (inside : c.stability.HasDefect place defect) : HasDefect c place defect

/-- A defect is the first one where no place with a defect comes before its own. -/
def ConfigDefect.IsFirst (has : List Nat → ConfigDefect → Prop) (place : List Nat)
    (defect : ConfigDefect) : Prop :=
  has place defect ∧ ∀ other defect', has other defect' → place ≤ other

namespace Config

open ConfigDefect (IsFirst)

variable {s : DescriptorSection} {id : PluginId} {a : MimeAssociation} {d : PluginDescriptor}
  {earlier ds : List PluginDescriptor} {seen : List PluginId} {l : StabilityConfig} {c : Config}
  {place : List Nat} {defect defect' : ConfigDefect}

/-! ## 2. One place, one defect -/

theorem association_unique (h : a.HasDefect s id place defect)
    (h' : a.HasDefect s id place defect') : defect = defect' := by
  cases h <;> cases h' <;> rfl

theorem descriptor_unique (h : d.HasDefect s earlier place defect)
    (h' : d.HasDefect s earlier place defect') : defect = defect' := by
  cases h with
  | blankId => cases h'; rfl
  | repeatedId => cases h'; rfl
  | inAssociation j a stands inside =>
    obtain _ | _ | ⟨_, a', stands', inside'⟩ := h'
    obtain rfl := Option.some.inj (stands.symm.trans stands')
    exact association_unique inside inside'

theorem section_unique (h : s.HasDefect ds place defect) (h' : s.HasDefect ds place defect') :
    defect = defect' := by
  obtain ⟨i, d, stands, inside⟩ := h
  obtain ⟨_, d', stands', inside'⟩ := h'
  obtain rfl := Option.some.inj (stands.symm.trans stands')
  exact descriptor_unique inside inside'

theorem limits_unique (h : l.HasDefect place defect) (h' : l.HasDefect place defect') :
    defect = defect' := by
  cases h <;> cases h' <;> rfl

/-- The limits have chapters of their own. -/
theorem not_limits_chapter : ¬ l.HasDefect (s.chapter :: place) defect := by
  generalize hnumber : s.chapter :: place = number
  intro h
  cases h <;> cases s <;> cases hnumber

/-- What is wrong in the chapter of a section is wrong in that section. -/
theorem hasDefect_chapter_iff :
    c.HasDefect (s.chapter :: place) defect ↔ s.HasDefect (c.descriptors s) place defect := by
  refine ⟨fun h => ?_, .inSection s⟩
  generalize hnumber : s.chapter :: place = number at h
  cases h with
  | inSection s' inside =>
    obtain ⟨hchapter, rfl⟩ := List.cons.inj hnumber
    obtain rfl := DescriptorSection.chapter_injective hchapter
    exact inside
  | inLimits inside => exact absurd (hnumber ▸ inside) not_limits_chapter

/-- **At one place there is one defect.** -/
theorem hasDefect_unique (h : c.HasDefect place defect) (h' : c.HasDefect place defect') :
    defect = defect' := by
  cases h with
  | inSection s inside => exact section_unique inside (hasDefect_chapter_iff.mp h')
  | inLimits inside =>
    cases h' with
    | inSection s => exact absurd inside not_limits_chapter
    | inLimits inside' => exact limits_unique inside inside'

/-- There is one first defect at most. -/
theorem isFirst_unique {place' : List Nat} (h : IsFirst c.HasDefect place defect)
    (h' : IsFirst c.HasDefect place' defect') : defect = defect' := by
  obtain rfl : place = place' := le_antisymm (h.2 _ _ h'.1) (h'.2 _ _ h.1)
  exact hasDefect_unique h.1 h'.1

/-! ## 3. What is sound has no defect -/

theorem not_hasDefect_association (ha : a.IsSound) : ¬ a.HasDefect s id place defect := by
  intro h
  cases h with
  | blankMimeType blank => exact Text.isBlankText_eq_false_iff.mp ha.mimeType blank
  | unevenParams uneven => exact uneven ha.params

theorem not_hasDefect_descriptor (hd : d.IsSound) (hfresh : ∀ e ∈ earlier, e.id ≠ d.id) :
    ¬ d.HasDefect s earlier place defect := by
  intro h
  cases h with
  | blankId blank => exact Text.isBlankText_eq_false_iff.mp hd.id blank
  | repeatedId e before same => exact hfresh e before same
  | inAssociation j a stands inside =>
    exact not_hasDefect_association (hd.associations a (List.mem_of_getElem? stands)) inside

theorem not_hasDefect_section (hds : ∀ d ∈ ds, d.IsSound) (hids : (ds.map (·.id)).Nodup) :
    ¬ s.HasDefect ds place defect := by
  rintro ⟨i, d, stands, inside⟩
  refine not_hasDefect_descriptor (hds d (List.mem_of_getElem? stands)) (fun e he => ?_) inside
  obtain ⟨hlt, rfl⟩ := List.getElem?_eq_some_iff.mp stands
  obtain ⟨j, hj, rfl⟩ := List.mem_take_iff_getElem.mp he
  exact List.pairwise_iff_getElem.mp (List.pairwise_map.mp hids) j i (by omega) hlt (by omega)

theorem not_hasDefect (hc : c.IsSound) : ¬ c.HasDefect place defect := by
  intro h
  cases h with
  | inSection s inside =>
    cases s with
    | plugins => exact not_hasDefect_section hc.plugins hc.pluginIds inside
    | builtinHandlers => exact not_hasDefect_section hc.handlers hc.handlerIds inside
  | inLimits inside =>
    cases inside with
    | noCrashes nought => exact hc.stability.maxCrashes nought
    | noWindow nought => exact hc.stability.windowSeconds nought

/-! ## 4. What is found is the first defect -/

/-- What begins with a smaller number comes before. -/
theorem le_of_head_lt {m n : Nat} (h : m < n) (place other : List Nat) : m :: place ≤ n :: other :=
  le_of_lt (List.Lex.rel h)

/-- Where a list is cut at `x` and nothing is wrong before it, a place in `x` comes before all
others that come no sooner within `x`. -/
theorem le_of_stands {α : Type} {before after : List α} {x y : α} {i : Nat} {other : List Nat}
    (stands : (before ++ x :: after)[i]? = some y)
    (sound : i < before.length → before[i]? = some y → False)
    (within : i = before.length → x = y → place ≤ other) : before.length :: place ≤ i :: other := by
  rcases Nat.lt_trichotomy i before.length with hlt | rfl | hgt
  · rw [List.getElem?_append_left hlt] at stands
    exact (sound hlt stands).elim
  · exact List.cons_le_cons _ (within rfl (by simpa using stands))
  · exact le_of_head_lt hgt _ _

theorem associationDefect?_isFirst (h : associationDefect? s id a = some defect) :
    ∃ place, IsFirst (a.HasDefect s id) place defect := by
  unfold associationDefect? at h
  split at h
  · rename_i hblank
    obtain rfl := Option.some.inj h
    refine ⟨[0], .blankMimeType (Text.isBlankText_iff_trim_eq_empty.mp hblank), ?_⟩
    rintro _ _ (_ | _) <;> decide
  · rename_i hblank
    split at h
    · rename_i huneven
      obtain rfl := Option.some.inj h
      refine ⟨[1], .unevenParams huneven, ?_⟩
      rintro _ _ (blank | _)
      · exact absurd (Text.isBlankText_iff_trim_eq_empty.mpr blank) hblank
      · exact le_refl _
    · exact absurd h (by simp)

theorem descriptorDefect?_isFirst (hseen : ∀ id, id ∈ seen ↔ ∃ e ∈ earlier, e.id = id)
    (h : descriptorDefect? s seen d = some defect) :
    ∃ place, IsFirst (d.HasDefect s earlier) place defect := by
  unfold descriptorDefect? at h
  split at h
  · rename_i hblank
    obtain rfl := Option.some.inj h
    refine ⟨[0], .blankId (Text.isBlankText_iff_trim_eq_empty.mp hblank), ?_⟩
    rintro _ _ (_ | _ | _)
    · exact le_refl _
    · exact le_of_head_lt (by decide) _ _
    · exact le_of_head_lt (by decide) _ _
  · rename_i hblank
    rw [Text.isBlankText_iff_trim_eq_empty] at hblank
    split at h
    · rename_i hrepeated
      obtain rfl := Option.some.inj h
      obtain ⟨e, he, hsame⟩ := (hseen d.id).mp (by simpa using hrepeated)
      refine ⟨[1], .repeatedId e he hsame, ?_⟩
      rintro _ _ (blank | _ | _)
      · exact absurd blank hblank
      · exact le_refl _
      · exact le_of_head_lt (by decide) _ _
    · rename_i hfresh
      obtain ⟨before, a, after, hsplit, hdefect, hbefore⟩ := List.findSome?_eq_some_iff.mp h
      obtain ⟨place, hhas, hfirst⟩ := associationDefect?_isFirst hdefect
      have hstands : d.associations[before.length]? = some a := by simp [hsplit]
      refine ⟨2 :: before.length :: place, .inAssociation before.length a hstands hhas, ?_⟩
      rintro _ _ (blank | ⟨e, he, same⟩ | ⟨j, a', stands, inside⟩)
      · exact absurd blank hblank
      · exact absurd ((hseen d.id).mpr ⟨e, he, same⟩) (by simpa using hfresh)
      · rw [hsplit] at stands
        refine List.cons_le_cons 2 (le_of_stands stands (fun _ hbefore' => ?_) fun _ hsame => ?_)
        · exact not_hasDefect_association
            (associationDefect?_eq_none_iff.mp (hbefore a' (List.mem_of_getElem? hbefore'))) inside
        · exact hfirst _ _ (hsame ▸ inside)

/-- **The search through a section stops at a descriptor**, and until then has found nothing and
seen the identities before it. -/
theorem sectionDefect?_split (h : sectionDefect? s seen ds = some defect) :
    ∃ before d after, ds = before ++ d :: after ∧ sectionDefect? s seen before = none ∧
      descriptorDefect? s ((before.map (·.id)).reverse ++ seen) d = some defect := by
  induction ds generalizing seen with
  | nil => exact absurd h (by simp [sectionDefect?])
  | cons d rest ih =>
    rw [sectionDefect?] at h
    cases hd : descriptorDefect? s seen d with
    | some defect' =>
      rw [hd] at h
      obtain rfl := Option.some.inj h
      exact ⟨[], d, rest, rfl, rfl, hd⟩
    | none =>
      rw [hd] at h
      obtain ⟨before, d', after, rfl, hbefore, hd'⟩ := ih h
      refine ⟨d :: before, d', after, rfl, ?_, ?_⟩
      · rw [sectionDefect?, hd]
        exact hbefore
      · simpa using hd'

theorem sectionDefect?_isFirst (h : sectionDefect? s [] ds = some defect) :
    ∃ place, IsFirst (s.HasDefect ds) place defect := by
  obtain ⟨before, d, after, rfl, hbefore, hd⟩ := sectionDefect?_split h
  obtain ⟨hsound, hids, -⟩ := sectionDefect?_eq_none_iff.mp hbefore
  have hseen : ∀ id, id ∈ (before.map (·.id)).reverse ++ [] ↔ ∃ e ∈ before, e.id = id := by simp
  obtain ⟨place, hhas, hfirst⟩ := descriptorDefect?_isFirst hseen hd
  refine ⟨before.length :: place, .inDescriptor before.length d (by simp) (by simpa using hhas), ?_⟩
  rintro _ _ ⟨i, d', stands, inside⟩
  refine le_of_stands stands (fun hlt hbefore' => ?_) fun hi hsame => ?_
  · rw [List.take_append_of_le_length hlt.le] at inside
    exact not_hasDefect_section hsound hids (.inDescriptor i d' hbefore' inside)
  · subst hi hsame
    exact hfirst _ _ (by simpa using inside)

theorem not_hasDefect_of_section (h : sectionDefect? s [] ds = none) :
    ¬ s.HasDefect ds place defect :=
  have hsound := sectionDefect?_eq_none_iff.mp h
  not_hasDefect_section hsound.1 hsound.2.1

theorem stabilityDefect?_isFirst (h : stabilityDefect? l = some defect) :
    ∃ place, IsFirst l.HasDefect place defect := by
  unfold stabilityDefect? at h
  split at h
  · rename_i hcrashes
    obtain rfl := Option.some.inj h
    refine ⟨[2], .noCrashes hcrashes, ?_⟩
    rintro _ _ (_ | _) <;> decide
  · rename_i hcrashes
    split at h
    · rename_i hwindow
      obtain rfl := Option.some.inj h
      refine ⟨[3], .noWindow hwindow, ?_⟩
      rintro _ _ (nought | _)
      · exact absurd nought hcrashes
      · exact le_refl _
    · exact absurd h (by simp)

/-- The limits come after the sections. -/
theorem le_of_limits (h : l.HasDefect place defect) (s : DescriptorSection) (other : List Nat) :
    s.chapter :: other ≤ place := by
  cases h <;> cases s <;> exact le_of_head_lt (by decide) _ _

/-- **What is found in a configuration is its first defect.** -/
theorem firstDefect?_isFirst (h : c.firstDefect? = some defect) :
    ∃ place, IsFirst c.HasDefect place defect := by
  unfold firstDefect? at h
  cases hplugins : sectionDefect? .plugins [] c.plugins with
  | some found =>
    obtain rfl : found = defect := by simpa [hplugins] using h
    obtain ⟨place, hhas, hfirst⟩ := sectionDefect?_isFirst hplugins
    refine ⟨0 :: place, .inSection .plugins hhas, ?_⟩
    rintro _ _ (⟨_ | _, inside⟩ | inside)
    · exact List.cons_le_cons 0 (hfirst _ _ inside)
    · exact le_of_head_lt (by decide) _ _
    · exact le_of_limits inside .plugins _
  | none =>
    cases hhandlers : sectionDefect? .builtinHandlers [] c.builtinHandlers with
    | some found =>
      obtain rfl : found = defect := by simpa [hplugins, hhandlers] using h
      obtain ⟨place, hhas, hfirst⟩ := sectionDefect?_isFirst hhandlers
      refine ⟨1 :: place, .inSection .builtinHandlers hhas, ?_⟩
      rintro _ _ (⟨_ | _, inside⟩ | inside)
      · exact absurd inside (not_hasDefect_of_section hplugins)
      · exact List.cons_le_cons 1 (hfirst _ _ inside)
      · exact le_of_limits inside .builtinHandlers _
    | none =>
      have hlimits : stabilityDefect? c.stability = some defect := by
        simpa [hplugins, hhandlers] using h
      obtain ⟨place, hhas, hfirst⟩ := stabilityDefect?_isFirst hlimits
      refine ⟨place, .inLimits hhas, ?_⟩
      rintro _ _ (⟨_ | _, inside⟩ | inside)
      · exact absurd inside (not_hasDefect_of_section hplugins)
      · exact absurd inside (not_hasDefect_of_section hhandlers)
      · exact hfirst _ _ inside

/-! ## 5. What is reported -/

/-- The report of a defect in a descriptor names the section, and its identity unless that is blank. -/
theorem message_of_hasDefect (h : d.HasDefect s earlier place defect) :
    ∃ rest, defect.message = s.name ++ ": " ++ rest ∧
      (defect ≠ .blankId s → ∃ before after, rest = before ++ d.id.text ++ after) := by
  have hplugin : ": 插件 " = ": " ++ "插件 " := rfl
  have hblank : ": 插件 ID 不能为空" = ": " ++ "插件 ID 不能为空" := rfl
  have hrepeated : ": 插件 ID 重复: " = ": " ++ "插件 ID 重复: " := rfl
  cases h with
  | blankId =>
    refine ⟨"插件 ID 不能为空", ?_, fun hne => absurd rfl hne⟩
    simp only [ConfigDefect.message, hblank, String.append_assoc]
  | repeatedId =>
    refine ⟨"插件 ID 重复: " ++ d.id.text, ?_, fun _ => ⟨_, "", String.append_empty.symm⟩⟩
    simp only [ConfigDefect.message, hrepeated, String.append_assoc]
  | inAssociation j a stands inside =>
    cases inside with
    | blankMimeType =>
      refine ⟨"插件 " ++ d.id.text ++ " 的 MIME 类型不能为空", ?_, fun _ => ⟨_, _, rfl⟩⟩
      simp only [ConfigDefect.message, hplugin, String.append_assoc]
    | unevenParams =>
      refine ⟨"插件 " ++ d.id.text ++ " 的附加参数名与值数量不一致", ?_, fun _ => ⟨_, _, rfl⟩⟩
      simp only [ConfigDefect.message, hplugin, String.append_assoc]

/-- What is sound, section by section. -/
theorem isSound_iff : c.IsSound ↔
    (∀ s, (∀ d ∈ c.descriptors s, Text.trim d.id.text ≠ "" ∧
        ∀ a ∈ d.associations, Text.trim a.mimeType ≠ "" ∧
          a.paramNames.length = a.paramValues.length) ∧
      (c.descriptors s).Pairwise fun d d' => d.id ≠ d'.id) ∧
    c.stability.maxCrashes ≠ 0 ∧ c.stability.windowSeconds ≠ 0 := by
  have hassociation : ∀ a : MimeAssociation, a.IsSound ↔
      Text.trim a.mimeType ≠ "" ∧ a.paramNames.length = a.paramValues.length := fun a =>
    ⟨fun h => ⟨Text.isBlankText_eq_false_iff.mp h.mimeType, h.params⟩,
      fun h => ⟨Text.isBlankText_eq_false_iff.mpr h.1, h.2⟩⟩
  have hdescriptor : ∀ d : PluginDescriptor, d.IsSound ↔ Text.trim d.id.text ≠ "" ∧
      ∀ a ∈ d.associations, Text.trim a.mimeType ≠ "" ∧
        a.paramNames.length = a.paramValues.length := fun d =>
    ⟨fun h => ⟨Text.isBlankText_eq_false_iff.mp h.id,
        fun a ha => (hassociation a).mp (h.associations a ha)⟩,
      fun h => ⟨Text.isBlankText_eq_false_iff.mpr h.1, fun a ha => (hassociation a).mpr (h.2 a ha)⟩⟩
  simp only [← hdescriptor]
  constructor
  · intro h
    refine ⟨fun s => ?_, h.stability.maxCrashes, h.stability.windowSeconds⟩
    cases s with
    | plugins => exact ⟨h.plugins, List.pairwise_map.mp h.pluginIds⟩
    | builtinHandlers => exact ⟨h.handlers, List.pairwise_map.mp h.handlerIds⟩
  · rintro ⟨hsections, hcrashes, hwindow⟩
    obtain ⟨hplugins, hpluginIds⟩ := hsections .plugins
    obtain ⟨hhandlers, hhandlerIds⟩ := hsections .builtinHandlers
    exact {
      plugins := hplugins
      pluginIds := List.pairwise_map.mpr hpluginIds
      handlers := hhandlers
      handlerIds := List.pairwise_map.mpr hhandlerIds
      stability := ⟨hcrashes, hwindow⟩ }

/-- **The first defect is reported, and what has none is accepted.**

A configuration is accepted exactly when in each section no identity is left blank by trimming, no
two descriptors have one identity, and every association names a type and has as many names of
parameters as values, and when neither limit is nought.  Otherwise the defect that is reported is
the one at the least place.  The report of a defect in a descriptor begins with the section, and
what follows names that descriptor, unless its identity is what is blank. -/
theorem validate_reports_first_defect (c : Config) :
    (c.validate = .ok () ↔
      (∀ s, (∀ d ∈ c.descriptors s, Text.trim d.id.text ≠ "" ∧
          ∀ a ∈ d.associations, Text.trim a.mimeType ≠ "" ∧
            a.paramNames.length = a.paramValues.length) ∧
        (c.descriptors s).Pairwise fun d d' => d.id ≠ d'.id) ∧
      c.stability.maxCrashes ≠ 0 ∧ c.stability.windowSeconds ≠ 0) ∧
    (∀ defect, c.validate = .error defect ↔ ∃ place, IsFirst c.HasDefect place defect) ∧
    ∀ s i d place defect, (c.descriptors s)[i]? = some d →
      c.HasDefect (s.chapter :: i :: place) defect →
        ∃ rest, defect.message = s.name ++ ": " ++ rest ∧
          (defect ≠ .blankId s → ∃ before after, rest = before ++ d.id.text ++ after) := by
  refine ⟨validate_eq_ok_iff_isSound.trans isSound_iff, fun defect => ?_, ?_⟩
  · rw [validate_eq_error_iff]
    refine ⟨firstDefect?_isFirst, fun ⟨place, hfirst⟩ => ?_⟩
    cases hfound : c.firstDefect? with
    | none =>
      have hsound := validate_eq_ok_iff_isSound.mp (validate_eq_ok_iff.mpr hfound)
      exact absurd hfirst.1 (not_hasDefect hsound)
    | some found =>
      obtain ⟨place', hfirst'⟩ := firstDefect?_isFirst hfound
      exact congrArg some (isFirst_unique hfirst' hfirst)
  · intro s i d place defect stands h
    obtain ⟨_, d', stands', inside⟩ := hasDefect_chapter_iff.mp h
    obtain rfl := Option.some.inj (stands.symm.trans stands')
    exact message_of_hasDefect inside

/-- Of five defects the first is uneven parameters.  A blank type of the same handler comes after
it, a handler that is named twice after that, and the limits at last.  That a plugin has the
identity of a handler is no defect, nor that two identities differ in a space. -/
theorem validate_reports_first_defect_of_five :
    let uneven : MimeAssociation := { mimeType := "x/z", paramNames := ["codecs"] }
    let handler : PluginDescriptor :=
      { id := ⟨" a"⟩, associations := [{ mimeType := "x/y" }, uneven, { mimeType := " " }] }
    let c : Config :=
      { plugins := [{ id := ⟨"a"⟩ }]
        builtinHandlers := [{ id := ⟨"a"⟩ }, handler, { id := ⟨"a"⟩ }]
        stability := { maxCrashes := 0, windowSeconds := 0 } }
    let defect : ConfigDefect := .unevenParams .builtinHandlers ⟨" a"⟩
    c.validate = .error defect ∧ (∃ place, IsFirst c.HasDefect place defect) ∧
      ∃ rest, defect.message = "builtin_handlers" ++ ": " ++ rest ∧
        ∃ before after, rest = before ++ " a" ++ after := by
  intro uneven handler c defect
  obtain ⟨-, hreported, hnamed⟩ := validate_reports_first_defect c
  have hbad : c.validate = .error defect := by decide
  have hhas : c.HasDefect [1, 1, 2, 1, 1] defect :=
    .inSection .builtinHandlers
      (.inDescriptor 1 handler rfl (.inAssociation 1 uneven rfl (.unevenParams (by decide))))
  obtain ⟨rest, hmessage, hid⟩ := hnamed .builtinHandlers 1 handler [2, 1, 1] defect rfl hhas
  exact ⟨hbad, (hreported defect).mp hbad, rest, hmessage, hid (by decide)⟩

end Config

end PluginArbiter
