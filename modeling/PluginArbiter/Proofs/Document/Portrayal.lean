/-
# Sources that show a value

A value is read from many kinds of sources: from a document, from a document that lacks some fields
and has others that nobody knows, from a text.  Readers look at a source through a few questions
only, so what they find depends on the answers and on nothing else.  `Portrays gone source d` says
that the answers of a source are those of the document `d`, except that the fields at the places in
`gone` are missing.  Whatever reads a value from its document then reads it from any source that
portrays that document, and finds the defaults of the fields that are missing.

Main statements:
* `optional_eq`, `required_eq`: what a reader finds of a field;
* `list?_eq`: what it finds of a list;
* `Document.knownFields_eq`: the fields that a record is known by.
-/
import Mathlib.Data.List.Nodup
import PluginArbiter.Document.Basic

namespace PluginArbiter

/-! ## 1. Places that are left out -/

/-- A step into a value. -/
inductive Place
  | field (name : String)
  | item (index : Nat)
  deriving DecidableEq

/-- Which places of a value are left out.  A place is given by the steps that lead to it. -/
abbrev Omission := List Place → Bool

namespace Omission

/-- Nothing is left out. -/
def nothing : Omission := fun _ => false

/-- What is left out of the part that a step leads to. -/
def within (gone : Omission) (p : Place) : Omission := fun path => gone (p :: path)

/-- Whether a field is left out. -/
def omits (gone : Omission) (name : String) : Bool := gone [.field name]

/-- A function of the items of a list that looks at what is left out of each. -/
def onItems {α β : Type} (gone : Omission) (f : Omission → α → β) (xs : List α) : List β :=
  xs.mapIdx fun i x => f (gone.within (.item i)) x

/-- Whether some item of a list has a property that looks at what is left out of it. -/
def anyItem {α : Type} (gone : Omission) (f : Omission → α → Bool) (xs : List α) : Bool :=
  (gone.onItems f xs).any id

@[simp] theorem within_nothing (p : Place) : nothing.within p = nothing := rfl

@[simp] theorem omits_nothing (name : String) : nothing.omits name = false := rfl

theorem onItems_id {α : Type} (gone : Omission) (xs : List α) : gone.onItems (fun _ x => x) xs = xs :=
  List.mapIdx_eq_iff.mpr fun i => by simp

theorem anyItem_iff {α : Type} {gone : Omission} {f : Omission → α → Bool} {xs : List α} :
    gone.anyItem f xs = true ↔ ∃ i, ∃ h : i < xs.length, f (gone.within (.item i)) xs[i] = true := by
  simp only [anyItem, onItems, List.any_eq_true, List.mem_mapIdx, id_eq]
  constructor
  · rintro ⟨_, ⟨i, hi, rfl⟩, htrue⟩
    exact ⟨i, hi, htrue⟩
  · rintro ⟨i, hi, htrue⟩
    exact ⟨_, ⟨i, hi, rfl⟩, htrue⟩

theorem onItems_nothing {α β : Type} (f : Omission → α → β) (xs : List α) :
    nothing.onItems f xs = xs.map (f nothing) :=
  List.mapIdx_eq_iff.mpr fun i => by simp

end Omission

/-! ## 2. Portrayal -/

section Portrays

variable {α : Type} [Readable α]

mutual

/-- A source answers as a document does, but for the fields that are left out. -/
def Portrays (gone : Omission) (source : α) : Document → Prop
  | .null | .real .. => False
  | .flag b => Readable.flag? source = some b
  | .integer n => ∃ m : Nat, n = m ∧ Readable.natural? source = some m
  | .text s => Readable.text? source = some s ∧ Readable.choice? source = some s
  | .list xs =>
    ∃ sources, Readable.items? source = some sources ∧ PortraysItems gone 0 sources xs
  | .record fs =>
    ∃ known, Readable.record? (fs.map (·.1)) source = some known ∧ PortraysFields gone known fs

/-- Sources answer one by one as the items of a list do, of which the first has the given index. -/
def PortraysItems (gone : Omission) (index : Nat) : List α → List Document → Prop
  | [], [] => True
  | source :: sources, x :: xs =>
    Portrays (gone.within (.item index)) source x ∧ PortraysItems gone (index + 1) sources xs
  | _, _ => False

/-- What is known of the fields answers as they do. -/
def PortraysFields (gone : Omission) (known : List (String × α)) : List (String × Document) → Prop
  | [] => True
  | (name, x) :: fs =>
    (if gone.omits name = true then known.lookup name = none
      else ∃ source, known.lookup name = some source ∧
        Portrays (gone.within (.field name)) source x) ∧ PortraysFields gone known fs

end

/-- What is known of a field answers as it does. -/
def PortraysField (gone : Omission) (known : List (String × α)) (name : String) (x : Document) :
    Prop :=
  if gone.omits name = true then known.lookup name = none
  else ∃ source, known.lookup name = some source ∧ Portrays (gone.within (.field name)) source x

variable {gone : Omission} {source : α} {known : List (String × α)} {name : String} {x : Document}

theorem portraysFields_cons {fs : List (String × Document)} :
    PortraysFields gone known ((name, x) :: fs) ↔
      PortraysField gone known name x ∧ PortraysFields gone known fs := by
  rw [PortraysFields, PortraysField]

/-! ## 3. What readers find -/

variable {β : Type} {read : α → Option β}

/-- **A field that may be missing** is read as it is portrayed, or has its default. -/
theorem optional_eq {standard : β} {found : Option β} (h : PortraysField gone known name x)
    (hread : ∀ source, Portrays (gone.within (.field name)) source x → read source = found) :
    Readable.optional known name read standard
      = if gone.omits name = true then some standard else found := by
  unfold PortraysField at h
  unfold Readable.optional
  split at h
  · rename_i hgone
    rw [h, if_pos hgone]
  · rename_i hgone
    obtain ⟨source, hlookup, hportrays⟩ := h
    rw [hlookup, if_neg hgone]
    exact hread source hportrays

/-- A field whose value is always found is read so or has its default. -/
theorem optional_eq_some {standard value : β} (h : PortraysField gone known name x)
    (hread : ∀ source, Portrays (gone.within (.field name)) source x → read source = some value) :
    Readable.optional known name read standard
      = some (if gone.omits name = true then standard else value) := by
  rw [optional_eq h hread]
  split <;> rfl

/-- **A field that must not be missing** is read as it is portrayed, or nothing is read. -/
theorem required_eq {found : Option β} (h : PortraysField gone known name x)
    (hread : ∀ source, Portrays (gone.within (.field name)) source x → read source = found) :
    Readable.required known name read
      = if gone.omits name = true then none else found := by
  unfold PortraysField at h
  unfold Readable.required
  split at h
  · rename_i hgone
    rw [h, if_pos hgone]
    rfl
  · rename_i hgone
    obtain ⟨source, hlookup, hportrays⟩ := h
    rw [hlookup, if_neg hgone]
    exact hread source hportrays

section Lists

variable {γ : Type} (read : α → Option β) (write : γ → Document) (lacks : Omission → γ → Bool)
  (reset : Omission → γ → β)

theorem mapM_eq {xs : List γ} {sources : List α} {index : Nat}
    (h : PortraysItems gone index sources (xs.map write))
    (hread : ∀ (y : γ) (gone : Omission) (source : α), Portrays gone source (write y) →
      read source = if lacks gone y = true then none else some (reset gone y)) :
    sources.mapM read =
      if (xs.mapIdx fun i y => lacks (gone.within (.item (index + i))) y).any id = true then none
      else some (xs.mapIdx fun i y => reset (gone.within (.item (index + i))) y) := by
  induction xs generalizing sources index with
  | nil =>
    cases sources with
    | nil => rfl
    | cons source rest => exact absurd h id
  | cons y ys ih =>
    cases sources with
    | nil => exact absurd h id
    | cons source rest =>
      obtain ⟨hfirst, hrest⟩ := h
      have hshift : ∀ i, index + 1 + i = index + (i + 1) := fun i => by omega
      rw [List.mapM_cons, hread y _ _ hfirst, ih hrest, List.mapIdx_cons, List.mapIdx_cons,
        List.any_cons]
      simp only [hshift, Nat.add_zero, id_eq]
      generalize lacks (gone.within (.item index)) y = first
      generalize (List.mapIdx (fun i y => lacks (gone.within (.item (index + (i + 1)))) y) ys).any id
        = later
      cases first <;> cases later <;> rfl

/-- **A list** is read item by item, and not at all if one of the items is not read. -/
theorem list?_eq {xs : List γ} (h : Portrays gone source (.list (xs.map write)))
    (hread : ∀ (y : γ) (gone : Omission) (source : α), Portrays gone source (write y) →
      read source = if lacks gone y = true then none else some (reset gone y)) :
    Readable.list? read source =
      if gone.anyItem lacks xs = true then none else some (gone.onItems reset xs) := by
  rw [Portrays] at h
  obtain ⟨sources, hitems, hportrays⟩ := h
  rw [Readable.list?, hitems, Option.bind_some, mapM_eq read write lacks reset hportrays hread]
  simp only [Nat.zero_add]
  rfl

/-- A list of items that have no fields is read whole. -/
theorem list?_eq_some {read : α → Option γ} {write : γ → Document} {xs : List γ}
    (h : Portrays gone source (.list (xs.map write)))
    (hread : ∀ (y : γ) (gone : Omission) (source : α), Portrays gone source (write y) →
      read source = some y) : Readable.list? read source = some xs := by
  rw [list?_eq read write (fun _ _ => false) (fun _ y => y) h hread, Omission.onItems_id, if_neg]
  rw [Omission.anyItem_iff]
  rintro ⟨_, _, htrue⟩
  exact Bool.false_ne_true htrue

end Lists

/-! ## 4. What is read of parts without fields -/

theorem text?_eq {s : String} (h : Portrays gone source (.text s)) :
    Readable.text? source = some s := by
  rw [Portrays] at h
  exact h.1

theorem choice?_eq {s : String} (h : Portrays gone source (.text s)) :
    Readable.choice? source = some s := by
  rw [Portrays] at h
  exact h.2

theorem flag?_eq {b : Bool} (h : Portrays gone source (.flag b)) :
    Readable.flag? source = some b := by
  rwa [Portrays] at h

theorem texts?_eq {xs : List String} (h : Portrays gone source (.texts xs)) :
    Readable.texts? source = some xs :=
  list?_eq_some h fun _ _ _ => text?_eq

/-- A number of 64 bits is read whole. -/
theorem word64?_eq {n : UInt64} (h : Portrays gone source (.natural n.toNat)) :
    Readable.word64? source = some n := by
  rw [Document.natural, Portrays] at h
  obtain ⟨m, hm, hnatural⟩ := h
  obtain rfl : n.toNat = m := Int.ofNat.inj hm
  rw [Readable.word64?, hnatural, Option.bind_some, if_pos n.toNat_lt_size, UInt64.ofNat_toNat]

end Portrays

/-! ## 5. Known fields -/

namespace Document

section Known

variable {α : Type} {names : List String} {name : String} {source : α}
  {fields : List (String × α)}

/-- The fields with one of the given names. -/
def knownAmong (names : List String) (fields : List (String × α)) : List (String × α) :=
  fields.filter fun f => names.contains f.1

theorem knownAmong_cons_of_mem (h : name ∈ names) :
    knownAmong names ((name, source) :: fields) = (name, source) :: knownAmong names fields :=
  List.filter_cons_of_pos (List.contains_iff_mem.mpr h)

theorem knownAmong_cons_of_not_mem (h : name ∉ names) :
    knownAmong names ((name, source) :: fields) = knownAmong names fields :=
  List.filter_cons_of_neg fun hcontains => h (List.contains_iff_mem.mp hcontains)

theorem knownAmong_eq_self (h : ∀ name ∈ fields.map (·.1), name ∈ names) :
    knownAmong names fields = fields :=
  List.filter_eq_self.mpr fun f hf => List.contains_iff_mem.mpr (h f.1 (List.mem_map_of_mem hf))

/-- The known fields are found, if none of them comes twice. -/
theorem knownFields_eq (h : ((knownAmong names fields).map (·.1)).Nodup) :
    knownFields names fields = some (knownAmong names fields) :=
  if_pos (List.all_eq_true.mpr fun name _ =>
    decide_eq_true (List.nodup_iff_count_le_one.mp h name))

theorem lookup_eq_none (h : name ∉ fields.map (·.1)) : fields.lookup name = none := by
  rw [List.lookup_eq_none_iff]
  rintro ⟨other, y⟩ hmem
  have hne : name ≠ other := fun heq => h (heq ▸ List.mem_map_of_mem hmem)
  exact bne_iff_ne.mpr hne

/-- A field of another name is no matter. -/
theorem portraysFields_known_cons [Readable α] {gone : Omission} {fs : List (String × Document)}
    (h : name ∉ fs.map (·.1)) (hfs : PortraysFields gone fields fs) :
    PortraysFields gone ((name, source) :: fields) fs := by
  induction fs with
  | nil => trivial
  | cons f fs ih =>
    obtain ⟨other, y⟩ := f
    rw [List.map_cons, List.mem_cons, not_or] at h
    rw [portraysFields_cons] at hfs ⊢
    refine ⟨?_, ih h.2 hfs.2⟩
    have hlookup : ((name, source) :: fields).lookup other = fields.lookup other := by
      rw [List.lookup_cons, beq_false_of_ne (Ne.symm h.1)]
    rw [PortraysField, hlookup]
    exact hfs.1

end Known

end Document

end PluginArbiter
