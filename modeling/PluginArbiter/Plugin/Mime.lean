/-
# MIME associations

What a plugin registers for one MIME type: the type itself or a pattern, the file extensions that
go with it, and parameters to hand over.

Main statements:
* `subtypeWildcard?_eq_some_iff`: a pattern stands for all of `t` exactly when it reads `t/*`;
* `topLevel?_eq_some_iff`: a type's top level is what precedes its first slash;
* `covers_iff`: which types a pattern covers.
-/
import PluginArbiter.Document.Basic
import PluginArbiter.Document.Shape
import PluginArbiter.Text.AsciiCase

namespace PluginArbiter

/-! ## 1. Types and patterns as characters -/

namespace Mime

/-- What precedes the first slash, if there is a slash. -/
def topLevel? : List Char → Option (List Char)
  | [] => none
  | c :: r => if c = '/' then some [] else (topLevel? r).map (c :: ·)

/-- The part before a closing `/*`. -/
def subtypeWildcard? (pattern : List Char) : Option (List Char) :=
  match pattern.reverse with
  | star :: slash :: r => if star = '*' ∧ slash = '/' then some r.reverse else none
  | _ => none

/-- The patterns that cover every type. -/
def universal : List String := ["*", "*/*"]

/-- Whether a pattern covers a type: `*` and `*/*` cover all but the empty one, and `t/*` covers
the types whose top level is `t`. -/
def covers (pattern mime : String) : Bool :=
  mime ≠ "" &&
    (universal.contains pattern ||
      match subtypeWildcard? pattern.toList with
      | none => false
      | some t => topLevel? mime.toList == some t)

/-- The top level is what precedes the first slash. -/
theorem topLevel?_eq_some_iff {m t : List Char} :
    topLevel? m = some t ↔ '/' ∉ t ∧ ∃ r, m = t ++ '/' :: r := by
  induction m generalizing t with
  | nil => simp [topLevel?]
  | cons c m ih =>
    by_cases hc : c = '/'
    · subst hc
      cases t with
      | nil => simp [topLevel?]
      | cons d t => simp [topLevel?]; exact fun h _ hd => absurd hd h
    · cases t with
      | nil => simp [topLevel?, hc]
      | cons d t =>
        simp only [topLevel?, hc, if_false, Option.map_eq_some_iff, List.cons.injEq, ih,
          List.mem_cons, not_or, List.cons_append]
        constructor
        · rintro ⟨t', ⟨hn, r, rfl⟩, rfl, rfl⟩
          exact ⟨⟨fun h => hc h.symm, hn⟩, r, rfl, rfl⟩
        · rintro ⟨⟨_, hn⟩, r, rfl, rfl⟩
          exact ⟨t, ⟨hn, r, rfl⟩, rfl, rfl⟩

/-- A pattern stands for all of `t` exactly when it reads `t/*`. -/
theorem subtypeWildcard?_eq_some_iff {p t : List Char} :
    subtypeWildcard? p = some t ↔ p = t ++ ['/', '*'] := by
  constructor
  · intro h
    unfold subtypeWildcard? at h
    split at h
    · rename_i star slash r hr
      split at h
      · rename_i hs
        obtain ⟨rfl, rfl⟩ := hs
        have := congrArg List.reverse hr
        simp only [List.reverse_reverse, List.reverse_cons, List.append_assoc] at this
        simp only [Option.some.injEq] at h
        rw [this, h]
        rfl
      · exact absurd h (by simp)
    · exact absurd h (by simp)
  · rintro rfl
    simp [subtypeWildcard?]

/-- A pattern covers a type: the type is not empty, and the pattern is `*` or `*/*`, or it is `t/*`
where the type begins with `t` and a slash, and `t` has none. -/
def Covers (pattern mime : String) : Prop :=
  mime ≠ "" ∧ (pattern = "*" ∨ pattern = "*/*" ∨
    ∃ top rest : List Char, '/' ∉ top ∧ pattern.toList = top ++ ['/', '*'] ∧
      mime.toList = top ++ '/' :: rest)

/-- Which types a pattern covers. -/
theorem covers_iff {pattern mime : String} : covers pattern mime = true ↔ Covers pattern mime := by
  have htop : (match subtypeWildcard? pattern.toList with
      | none => false
      | some t => topLevel? mime.toList == some t) = true ↔
      ∃ top rest : List Char, '/' ∉ top ∧ pattern.toList = top ++ ['/', '*'] ∧
        mime.toList = top ++ '/' :: rest := by
    constructor
    · intro h
      split at h
      · exact absurd h (by simp)
      · rename_i t ht
        obtain ⟨hslash, rest, hmime⟩ := topLevel?_eq_some_iff.mp (eq_of_beq h)
        exact ⟨t, rest, hslash, subtypeWildcard?_eq_some_iff.mp ht, hmime⟩
    · rintro ⟨t, rest, hslash, hpattern, hmime⟩
      rw [subtypeWildcard?_eq_some_iff.mpr hpattern]
      exact beq_iff_eq.mpr (topLevel?_eq_some_iff.mpr ⟨hslash, rest, hmime⟩)
  simp only [covers, Covers, Bool.and_eq_true, Bool.or_eq_true, htop, decide_eq_true_eq, ne_eq,
    universal, List.contains_cons, List.contains_nil, Bool.or_false, beq_iff_eq, or_assoc]

end Mime

/-! ## 2. Associations -/

/-- One MIME type, or pattern, that a plugin declares. -/
structure MimeAssociation where
  mimeType : String
  isWildcard : Bool := false
  fileExtensions : List String := []
  description : String := ""
  paramNames : List String := []
  paramValues : List String := []
  deriving DecidableEq, Inhabited

namespace MimeAssociation

/-- The association that declares one MIME type and nothing more. -/
def ofMime (mime : String) : MimeAssociation := { mimeType := mime }

/-- The association that declares a pattern. -/
def ofPattern (pattern : String) : MimeAssociation := { mimeType := pattern, isWildcard := true }

/-- The same association with these file extensions. -/
def withExtensions (a : MimeAssociation) (extensions : List String) : MimeAssociation :=
  { a with fileExtensions := extensions }

/-- The same association with one more parameter. -/
def addParam (a : MimeAssociation) (name value : String) : MimeAssociation :=
  { a with paramNames := a.paramNames ++ [name], paramValues := a.paramValues ++ [value] }

/-- The declared text is the requested type, letter by letter. -/
def matchesExactly (a : MimeAssociation) (mime : String) : Bool := a.mimeType == mime

/-- The association is a pattern and covers the requested type. -/
def matchesPattern (a : MimeAssociation) (mime : String) : Bool :=
  a.isWildcard && Mime.covers a.mimeType mime

/-- The association lists the extension, ignoring ASCII case. -/
def listsExtension (a : MimeAssociation) (extension : String) : Bool :=
  a.fileExtensions.any fun e => Text.sameIgnoringCase e extension

/-! ## 3. Written form -/

/-- What is read of an association. -/
def shape : Shape :=
  .record [("mime_type", .scalar), ("is_wildcard", .scalar), ("file_extensions", .scalars),
    ("description", .scalar), ("additional_param_names", .scalars),
    ("additional_param_values", .scalars)]

/-- The names of the fields, in order. -/
def fieldNames : List String := shape.names

/-- The association as a record of all its fields. -/
def toDocument (a : MimeAssociation) : Document :=
  .record [("mime_type", .text a.mimeType), ("is_wildcard", .flag a.isWildcard),
    ("file_extensions", .texts a.fileExtensions), ("description", .text a.description),
    ("additional_param_names", .texts a.paramNames),
    ("additional_param_values", .texts a.paramValues)]

/-- Reads an association.  Only the type has to be given. -/
def read? {α : Type} [Readable α] (source : α) : Option MimeAssociation := do
  let fields ← Readable.record? fieldNames source
  let mimeType ← Readable.required fields "mime_type" Readable.text?
  let isWildcard ← Readable.optional fields "is_wildcard" Readable.flag? false
  let fileExtensions ← Readable.optional fields "file_extensions" Readable.texts? []
  let description ← Readable.optional fields "description" Readable.text? ""
  let paramNames ← Readable.optional fields "additional_param_names" Readable.texts? []
  let paramValues ← Readable.optional fields "additional_param_values" Readable.texts? []
  return { mimeType, isWildcard, fileExtensions, description, paramNames, paramValues }

end MimeAssociation

end PluginArbiter
