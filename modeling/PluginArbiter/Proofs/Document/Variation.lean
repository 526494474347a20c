/-
# Documents with missing and with further fields

A document that was written by one release is read by another, or edited by hand.  Fields are then
missing that the reader knows, and there are others that he does not know.  `Varies gone d d'` says
that `d'` is what becomes of `d` when the fields at the places in `gone` are taken out, at any depth,
and fields with other names are put in anywhere.

Such a document still portrays the value, so it is read as the value was written, with the defaults
of what was taken out.  The argument needs that the names in a record are distinct: a field that is
known twice makes a record unreadable, and a name that comes back further down would bring a field
back that was taken out.

Main statements:
* `portrays_of_varies`: a varied document portrays the value;
* `reads_what_remains`: values are read back from their documents, and a configuration also from what
  becomes of its document.
-/
import PluginArbiter.Proofs.Document.Reading
import PluginArbiter.Proofs.Document.Regular

namespace PluginArbiter

namespace Document

/-! ## 1. Variation -/

/-- Whether a document is neither a list nor a record. -/
def isAtom : Document → Bool
  | .list _ | .record _ => false
  | _ => true

mutual

/-- What becomes of a document when the fields at some places are taken out and others are put in. -/
inductive Varies : Omission → Document → Document → Prop
  | atom (gone : Omission) (d : Document) (isAtom : d.isAtom = true) : Varies gone d d
  | list (gone : Omission) (xs xs' : List Document) (items : VariesItems gone 0 xs xs') :
    Varies gone (.list xs) (.list xs')
  | record (gone : Omission) (fs fs' : List (String × Document))
    (fields : VariesFields (fs.map (·.1)) gone fs fs') : Varies gone (.record fs) (.record fs')

/-- The items of a list vary one by one; the first has the given index. -/
inductive VariesItems : Omission → Nat → List Document → List Document → Prop
  | nil (gone : Omission) (index : Nat) : VariesItems gone index [] []
  | cons (gone : Omission) (index : Nat) (x x' : Document) (xs xs' : List Document)
    (first : Varies (gone.within (.item index)) x x')
    (rest : VariesItems gone (index + 1) xs xs') : VariesItems gone index (x :: xs) (x' :: xs')

/-- A field is kept and its value varies, or it is taken out, or one is put in whose name is none of
the given names. -/
inductive VariesFields : List String → Omission → List (String × Document) →
    List (String × Document) → Prop
  | nil (names : List String) (gone : Omission) : VariesFields names gone [] []
  | kept (names : List String) (gone : Omission) (name : String) (x x' : Document)
    (fs fs' : List (String × Document)) (isKept : gone.omits name = false)
    (value : Varies (gone.within (.field name)) x x') (rest : VariesFields names gone fs fs') :
    VariesFields names gone ((name, x) :: fs) ((name, x') :: fs')
  | taken (names : List String) (gone : Omission) (name : String) (x : Document)
    (fs fs' : List (String × Document)) (isTaken : gone.omits name = true)
    (rest : VariesFields names gone fs fs') : VariesFields names gone ((name, x) :: fs) fs'
  | added (names : List String) (gone : Omission) (name : String) (x : Document)
    (fs fs' : List (String × Document)) (isUnknown : name ∉ names)
    (rest : VariesFields names gone fs fs') : VariesFields names gone fs ((name, x) :: fs')

end

mutual

/-- The document without the fields at some places. -/
def prune (gone : Omission) : Document → Document
  | .list xs => .list (pruneItems gone 0 xs)
  | .record fs => .record (pruneFields gone fs)
  | d => d

def pruneItems (gone : Omission) (index : Nat) : List Document → List Document
  | [] => []
  | x :: xs => prune (gone.within (.item index)) x :: pruneItems gone (index + 1) xs

def pruneFields (gone : Omission) : List (String × Document) → List (String × Document)
  | [] => []
  | (name, x) :: fs =>
    if gone.omits name = true then pruneFields gone fs
    else (name, prune (gone.within (.field name)) x) :: pruneFields gone fs

end

mutual

/-- What is taken out may be nothing. -/
theorem prune_nothing : ∀ d : Document, d.prune .nothing = d
  | .null | .flag _ | .integer _ | .real .. | .text _ => rfl
  | .list xs => congrArg list (pruneItems_nothing 0 xs)
  | .record fs => congrArg record (pruneFields_nothing fs)

theorem pruneItems_nothing : ∀ (index : Nat) (xs : List Document),
    pruneItems .nothing index xs = xs
  | _, [] => rfl
  | index, x :: xs => congrArg₂ List.cons (prune_nothing x) (pruneItems_nothing (index + 1) xs)

theorem pruneFields_nothing : ∀ fs : List (String × Document), pruneFields .nothing fs = fs
  | [] => rfl
  | (name, x) :: fs =>
    congrArg₂ (fun y ys => (name, y) :: ys) (prune_nothing x) (pruneFields_nothing fs)

end

mutual

/-- Any fields can be taken out. -/
theorem varies_prune : ∀ (gone : Omission) (d : Document), Varies gone d (d.prune gone)
  | _, .null => .atom _ _ rfl
  | _, .flag _ => .atom _ _ rfl
  | _, .integer _ => .atom _ _ rfl
  | _, .real .. => .atom _ _ rfl
  | _, .text _ => .atom _ _ rfl
  | gone, .list xs => .list _ _ _ (varies_pruneItems gone 0 xs)
  | gone, .record fs => .record _ _ _ (varies_pruneFields _ gone fs)

theorem varies_pruneItems : ∀ (gone : Omission) (index : Nat) (xs : List Document),
    VariesItems gone index xs (pruneItems gone index xs)
  | _, _, [] => .nil _ _
  | _, index, x :: xs =>
    .cons _ _ _ _ _ _ (varies_prune _ x) (varies_pruneItems _ (index + 1) xs)

theorem varies_pruneFields : ∀ (names : List String) (gone : Omission)
    (fs : List (String × Document)), VariesFields names gone fs (pruneFields gone fs)
  | _, _, [] => .nil _ _
  | names, gone, (name, x) :: fs => by
    rw [pruneFields]
    split
    · rename_i hgone
      exact .taken _ _ _ _ _ _ hgone (varies_pruneFields names gone fs)
    · rename_i hgone
      exact .kept _ _ _ _ _ _ _ (eq_false_of_ne_true hgone) (varies_prune _ x)
        (varies_pruneFields names gone fs)

end

/-! ## 2. A varied document portrays the value -/

/-- Of the fields that are known none comes twice, and none comes out of order. -/
theorem knownAmong_sublist : ∀ {names : List String} {gone : Omission}
    {fs fs' : List (String × Document)}, VariesFields names gone fs fs' →
    (∀ name ∈ fs.map (·.1), name ∈ names) →
    ((knownAmong names fs').map (·.1)).Sublist (fs.map (·.1))
  | _, _, _, _, .nil .., _ => List.Sublist.slnil
  | _, _, _, _, .kept _ _ name _ _ _ _ _ _ rest, hnames => by
    rw [knownAmong_cons_of_mem (hnames name List.mem_cons_self)]
    exact (knownAmong_sublist rest fun n hn => hnames n (List.mem_cons_of_mem _ hn)).cons_cons name
  | _, _, _, _, .taken _ _ name _ _ _ _ rest, hnames =>
    (knownAmong_sublist rest fun n hn => hnames n (List.mem_cons_of_mem _ hn)).cons name
  | _, _, _, _, .added _ _ _ _ _ _ isUnknown rest, hnames => by
    rw [knownAmong_cons_of_not_mem isUnknown]
    exact knownAmong_sublist rest hnames

mutual

/-- **A varied document portrays the value**, but for what was taken out. -/
theorem portrays_of_varies : ∀ {gone : Omission} {d d' : Document}, Varies gone d d' →
    d.Regular → Portrays gone d' d
  | _, _, _, .atom _ (.flag _) _, _ => rfl
  | _, _, _, .atom _ (.integer (.ofNat n)) _, _ => ⟨n, rfl, rfl⟩
  | _, _, _, .atom _ (.text _) _, _ => ⟨rfl, rfl⟩
  | _, _, _, .list _ _ _ items, hregular => ⟨_, rfl, portraysItems_of_varies items hregular⟩
  | _, _, _, .record _ fs fs' fields, ⟨hnodup, hregular⟩ =>
    have hsublist := knownAmong_sublist fields fun _ h => h
    ⟨_, knownFields_eq (hnodup.sublist hsublist),
      portraysFields_of_varies fields (fun _ h => h) hnodup hregular⟩

theorem portraysItems_of_varies : ∀ {gone : Omission} {index : Nat} {xs xs' : List Document},
    VariesItems gone index xs xs' → RegularItems xs → PortraysItems gone index xs' xs
  | _, _, _, _, .nil .., _ => trivial
  | _, _, _, _, .cons _ _ _ _ _ _ first rest, ⟨hfirst, hrest⟩ =>
    ⟨portrays_of_varies first hfirst, portraysItems_of_varies rest hrest⟩

theorem portraysFields_of_varies : ∀ {names : List String} {gone : Omission}
    {fs fs' : List (String × Document)}, VariesFields names gone fs fs' →
    (∀ name ∈ fs.map (·.1), name ∈ names) → (fs.map (·.1)).Nodup → RegularFields fs →
    PortraysFields gone (knownAmong names fs') fs
  | _, _, _, _, .nil .., _, _, _ => trivial
  | _, _, _, _, .kept names gone name x x' fs fs' isKept value rest, hnames, hnodup,
      ⟨_, hvalue, hregular⟩ => by
    obtain ⟨hfresh, hnodup⟩ := List.nodup_cons.mp hnodup
    have hrest := portraysFields_of_varies rest (fun n hn => hnames n (List.mem_cons_of_mem _ hn))
      hnodup hregular
    rw [knownAmong_cons_of_mem (hnames name List.mem_cons_self), portraysFields_cons, PortraysField,
      if_neg (ne_true_of_eq_false isKept), List.lookup_cons_self]
    exact ⟨⟨x', rfl, portrays_of_varies value hvalue⟩, portraysFields_known_cons hfresh hrest⟩
  | _, _, _, _, .taken names gone name x fs fs' isTaken rest, hnames, hnodup,
      ⟨_, _, hregular⟩ => by
    obtain ⟨hfresh, hnodup⟩ := List.nodup_cons.mp hnodup
    have hnames' : ∀ n ∈ fs.map (·.1), n ∈ names := fun n hn =>
      hnames n (List.mem_cons_of_mem _ hn)
    have hmissing : name ∉ (knownAmong names fs').map (·.1) := fun hmem =>
      hfresh ((knownAmong_sublist rest hnames').subset hmem)
    rw [portraysFields_cons, PortraysField, if_pos isTaken]
    exact ⟨lookup_eq_none hmissing, portraysFields_of_varies rest hnames' hnodup hregular⟩
  | _, _, _, _, .added _ _ _ _ _ _ isUnknown rest, hnames, hnodup, hregular => by
    rw [knownAmong_cons_of_not_mem isUnknown]
    exact portraysFields_of_varies rest hnames hnodup hregular

end

end Document

/-! ## 3. Nothing is taken out -/

section Nothing

open Omission

theorem not_anyItem_nothing {γ : Type} {lacks : Omission → γ → Bool} {xs : List γ}
    (h : ∀ x, lacks .nothing x = false) : nothing.anyItem lacks xs = false := by
  rw [anyItem, onItems_nothing, List.any_eq_false]
  simp [h]

theorem onItems_nothing_eq {γ : Type} {reset : Omission → γ → γ} {xs : List γ}
    (h : ∀ x, reset .nothing x = x) : nothing.onItems reset xs = xs := by
  rw [onItems_nothing, funext h, List.map_id']

theorem MimeAssociation.lacksName_nothing (a : MimeAssociation) : lacksName .nothing a = false :=
  rfl

theorem MimeAssociation.reset_nothing (a : MimeAssociation) : a.reset .nothing = a := rfl

theorem PluginDescriptor.reset_nothing (d : PluginDescriptor) : d.reset .nothing = d := by
  simp [reset, onItems_nothing_eq MimeAssociation.reset_nothing]

theorem PluginDescriptor.lacksName_nothing (d : PluginDescriptor) :
    lacksName .nothing d = false := by
  simp [lacksName, not_anyItem_nothing MimeAssociation.lacksName_nothing]

theorem PolicyOptions.reset_nothing (o : PolicyOptions) : o.reset .nothing = o := rfl

namespace Config

theorem reset_nothing (c : Config) : c.reset .nothing = c := by
  simp [reset, resetSection, onItems_nothing_eq PluginDescriptor.reset_nothing,
    LoggingConfig.reset, PolicyOptions.reset, StabilityConfig.reset, AvailabilityConfig.reset]

theorem lacksName_nothing (c : Config) : c.lacksName .nothing = false := by
  simp [lacksName, sectionLacksName, not_anyItem_nothing PluginDescriptor.lacksName_nothing]

end Config

end Nothing

/-! ## 4. Reading what remains -/

namespace Document

/-- A document that nobody touched portrays the value whole. -/
theorem portrays_self {d : Document} (h : d.Regular) : Portrays .nothing d d :=
  have hvaries : Varies .nothing d (d.prune .nothing) := varies_prune .nothing d
  portrays_of_varies (by rwa [prune_nothing] at hvaries) h

/-- **Values are read back from their documents, and a configuration also from what remains of its
document**, with the defaults of all that was taken out, be it a field deep inside or a section, and
of nothing else.  Fields that nobody knows are passed over.  If the identity of a descriptor or the
type of an association was taken out, nothing is read. -/
theorem reads_what_remains :
    (∀ a : MimeAssociation, MimeAssociation.read? a.toDocument = some a) ∧
    (∀ d : PluginDescriptor, PluginDescriptor.read? d.toDocument = some d) ∧
    (∀ o : PolicyOptions, PolicyOptions.read? o.toDocument = some o) ∧
    (∀ a : HandlerAnswer, HandlerAnswer.read? a.toDocument = some a) ∧
    (∀ c : Config, Config.read? c.toDocument = some c) ∧
    ∀ (c : Config) (gone : Omission) (d : Document), Varies gone c.toDocument d →
      Config.read? d = if c.lacksName gone = true then none else some (c.reset gone) := by
  refine ⟨fun a => ?_, fun d => ?_, fun o => ?_, fun a => ?_, fun c => ?_, fun c gone d h => ?_⟩
  · exact MimeAssociation.read?_eq a _ _ (portrays_self a.regular)
  · rw [PluginDescriptor.read?_eq d _ _ (portrays_self d.regular), d.lacksName_nothing,
      d.reset_nothing, if_neg Bool.false_ne_true]
  · exact PolicyOptions.read?_eq (portrays_self o.regular)
  · exact HandlerAnswer.read?_eq (portrays_self a.regular)
  · rw [Config.read?_eq (portrays_self c.regular), c.lacksName_nothing, c.reset_nothing,
      if_neg Bool.false_ne_true]
  · exact Config.read?_eq (portrays_of_varies h c.regular)

/-- Three fields are taken out at three depths and one is put in that nobody knows; where the identity
of the plugin is taken out, nothing is read. -/
theorem reads_what_remains_of_plugin :
    let c : Config :=
      { policy := { legacySupported := false }
        plugins := [{
          id := ⟨"p"⟩, name := "P", kind := .browserInternal
          associations := [{ mimeType := "a/b", isWildcard := true, description := "d" }] }] }
    let gone : Omission := fun path => path ∈
      [[.field "policy"], [.field "plugins", .item 0, .field "type"],
        [.field "plugins", .item 0, .field "mime_types", .item 0, .field "is_wildcard"]]
    let unnamed : Omission := fun path => path = [.field "plugins", .item 0, .field "id"]
    let written : List (String × Document) :=
      [("logging", c.logging.toDocument), ("policy", c.policy.toDocument),
        ("stability", c.stability.toDocument), ("availability", c.availability.toDocument),
        ("plugins", .list (c.plugins.map PluginDescriptor.toDocument)),
        ("builtin_handlers", .list (c.builtinHandlers.map PluginDescriptor.toDocument))]
    let d : Document := .record (("release", .text "2") :: pruneFields gone written)
    Varies gone c.toDocument d ∧
      Config.read? d = some
        { plugins := [{
            id := ⟨"p"⟩, name := "P"
            associations := [{ mimeType := "a/b", description := "d" }] }] } ∧
      Config.read? (c.toDocument.prune unnamed) = none := by
  intro c gone unnamed written d
  have hvaries : Varies gone c.toDocument d :=
    .record _ _ _ (.added _ _ "release" (.text "2") _ _ (by decide) (varies_pruneFields _ _ _))
  have hread := reads_what_remains.2.2.2.2.2 c
  refine ⟨hvaries, ?_, ?_⟩
  · rw [hread gone d hvaries]
    decide
  · rw [hread unnamed _ (varies_prune unnamed _)]
    decide

end Document

end PluginArbiter
