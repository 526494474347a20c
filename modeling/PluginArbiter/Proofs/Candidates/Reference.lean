/-
# Who comes into question

For a request the plugins of a catalog are gone through in order, and each of them is taken or passed
over by itself.  This module says when a plugin is taken, and with which MIME type, without going
through anything (`Serves`).

There are three ways, and the request decides between them.  A type that was asked for has to be
declared letter by letter, by a pattern as well as by a type, or it has to be covered by a pattern,
where patterns count.  Where no type was asked for, the extension of the path decides, and then
patterns are out: one that lists the extension does not count and does not stand in the way of an
association behind it.  In the third way alone the order of the associations matters.

What is asked is what the catalog reports of a plugin, which need not be what the plugin's own
descriptor lists.

Main statements:
* `mimeTypeFor?_eq_some_iff`: the search finds the type under which a plugin serves the request;
* `candidates_selection`, `Selection.unique`: the candidates are the one selection of those who serve;
* `findCandidates_meets_reference`: all of this for a search, its faults included.
-/
import Mathlib.Data.List.Forall2
import PluginArbiter.Candidates
import PluginArbiter.Proofs.Url.Extension

namespace PluginArbiter

/-! ## 1. When associations serve a request -/

/-- The association stands for types with a file extension, and lists this one ignoring case. -/
def MimeAssociation.StandsFor (a : MimeAssociation) (extension : String) : Prop :=
  a.isWildcard = false ∧ ∃ e ∈ a.fileExtensions, Text.lower e = Text.lower extension

/-- The MIME type under which associations serve a request. -/
inductive Serves (associations : List MimeAssociation) (url : Url) (mime : String)
    (patterns : Bool) : String → Prop
  | declared (a : MimeAssociation) (reported : a ∈ associations) (asked : mime ≠ "")
    (same : a.mimeType = mime) : Serves associations url mime patterns mime
  | covered (a : MimeAssociation) (reported : a ∈ associations) (counts : patterns = true)
    (isPattern : a.isWildcard = true) (covers : Mime.Covers a.mimeType mime) :
    Serves associations url mime patterns mime
  | byExtension (before after : List MimeAssociation) (a : MimeAssociation) (extension : String)
    (reported : associations = before ++ a :: after) (unasked : mime = "")
    (has : url.HasExtension extension) (standsFor : a.StandsFor extension)
    (first : ∀ b ∈ before, ¬ b.StandsFor extension) :
    Serves associations url mime patterns a.mimeType

section

variable {associations : List MimeAssociation} {url : Url} {mime given : String} {patterns : Bool}

theorem MimeAssociation.standsFor_iff {a : MimeAssociation} {extension : String} :
    (!a.isWildcard && a.listsExtension extension) = true ↔ a.StandsFor extension := by
  simp only [StandsFor, listsExtension, Bool.and_eq_true, Bool.not_eq_true', List.any_eq_true,
    Text.sameIgnoringCase_iff]

/-- A type that was asked for has to be declared or covered. -/
theorem serves_iff_of_asked (asked : mime ≠ "") :
    Serves associations url mime patterns given ↔ given = mime ∧
      ((∃ a ∈ associations, a.mimeType = mime) ∨
        (patterns = true ∧ ∃ a ∈ associations, a.isWildcard = true ∧ Mime.Covers a.mimeType mime)) := by
  constructor
  · intro h
    cases h with
    | declared a reported _ same => exact ⟨rfl, Or.inl ⟨a, reported, same⟩⟩
    | covered a reported counts isPattern covers =>
      exact ⟨rfl, Or.inr ⟨counts, a, reported, isPattern, covers⟩⟩
    | byExtension _ _ _ _ _ unasked => exact absurd unasked asked
  · rintro ⟨rfl, ⟨a, reported, same⟩ | ⟨counts, a, reported, isPattern, covers⟩⟩
    · exact .declared a reported asked same
    · exact .covered a reported counts isPattern covers

/-- Without one the first association decides that stands for the extension. -/
theorem serves_iff_of_unasked :
    Serves associations url "" patterns given ↔ ∃ extension, url.HasExtension extension ∧
      ∃ before a after, associations = before ++ a :: after ∧ a.StandsFor extension ∧
        (∀ b ∈ before, ¬ b.StandsFor extension) ∧ a.mimeType = given := by
  constructor
  · intro h
    cases h with
    | declared _ _ asked => exact absurd rfl asked
    | covered _ _ _ _ covers => exact absurd rfl covers.1
    | byExtension before after a extension reported _ has standsFor first =>
      exact ⟨extension, has, before, a, after, reported, standsFor, first, rfl⟩
  · rintro ⟨extension, has, before, a, after, reported, standsFor, first, rfl⟩
    exact .byExtension before after a extension reported rfl has standsFor first

/-- **The search finds the type under which associations serve a request.** -/
theorem mimeTypeFor?_eq_some_iff :
    Candidate.mimeTypeFor? associations mime url.extension? patterns = some given ↔
      Serves associations url mime patterns given := by
  by_cases hm : mime = ""
  · subst hm
    rw [Candidate.mimeTypeFor?, if_neg (not_not_intro rfl), serves_iff_of_unasked,
      Option.bind_eq_some_iff]
    refine exists_congr fun extension => and_congr Url.extension?_eq_some_iff ?_
    simp only [Option.map_eq_some_iff, List.find?_eq_some_iff_append, Bool.not_eq_true',
      ← Bool.not_eq_true, MimeAssociation.standsFor_iff]
    constructor
    · rintro ⟨a, ⟨standsFor, before, after, reported, first⟩, hgiven⟩
      exact ⟨before, a, after, reported, standsFor, first, hgiven⟩
    · rintro ⟨before, a, after, reported, standsFor, first, hgiven⟩
      exact ⟨a, ⟨standsFor, before, after, reported, first⟩, hgiven⟩
  · rw [serves_iff_of_asked hm, Candidate.mimeTypeFor?, if_pos hm]
    have hfound : (associations.any (·.matchesExactly mime)
        || (patterns && associations.any (·.matchesPattern mime))) = true ↔
        (∃ a ∈ associations, a.mimeType = mime) ∨ (patterns = true ∧
          ∃ a ∈ associations, a.isWildcard = true ∧ Mime.Covers a.mimeType mime) := by
      simp only [Bool.or_eq_true, Bool.and_eq_true, List.any_eq_true, MimeAssociation.matchesExactly,
        MimeAssociation.matchesPattern, beq_iff_eq, Mime.covers_iff]
    rw [← hfound]
    split <;> rename_i h <;> simp [h, eq_comm]

/-- Associations serve a request under one type at most. -/
theorem Serves.unique {given' : String} (h : Serves associations url mime patterns given)
    (h' : Serves associations url mime patterns given') : given' = given :=
  Option.some.inj ((mimeTypeFor?_eq_some_iff.mpr h').symm.trans (mimeTypeFor?_eq_some_iff.mpr h))

/-- What serves a request without patterns serves it with them, under the same type. -/
theorem Serves.withPatterns (h : Serves associations url mime false given) (patterns : Bool) :
    Serves associations url mime patterns given := by
  cases h with
  | declared a reported asked same => exact .declared a reported asked same
  | covered _ _ counts => exact absurd counts Bool.false_ne_true
  | byExtension before after a extension reported unasked has standsFor first =>
    exact .byExtension before after a extension reported unasked has standsFor first

/-- Where no type was asked for patterns make no difference. -/
theorem serves_unasked_iff (patterns : Bool) :
    Serves associations url "" patterns given ↔ Serves associations url "" false given := by
  rw [serves_iff_of_unasked, serves_iff_of_unasked]

end

/-! ## 2. The selection from a catalog -/

variable {serves serves' : PluginDescriptor → String → Prop} {plugins : List PluginDescriptor}
  {cs cs' : List Candidate}

/-- The candidates among plugins: all who serve the request and nobody else, in order, each with the
type under which he does. -/
inductive Selection (serves : PluginDescriptor → String → Prop) :
    List PluginDescriptor → List Candidate → Prop
  | nil : Selection serves [] []
  | taken {plugins : List PluginDescriptor} {cs : List Candidate} (plugin : PluginDescriptor)
    (given : String) (does : serves plugin given) (rest : Selection serves plugins cs) :
    Selection serves (plugin :: plugins) (⟨plugin, given⟩ :: cs)
  | passed {plugins : List PluginDescriptor} {cs : List Candidate} (plugin : PluginDescriptor)
    (doesNot : ∀ given, ¬ serves plugin given) (rest : Selection serves plugins cs) :
    Selection serves (plugin :: plugins) cs

/-- **There is only one selection** where each plugin serves under one type at most. -/
theorem Selection.unique
    (single : ∀ p given given', serves p given → serves p given' → given' = given)
    (h : Selection serves plugins cs) (h' : Selection serves plugins cs') : cs' = cs := by
  induction h generalizing cs' with
  | nil =>
    cases h'
    rfl
  | taken plugin given does _ ih =>
    cases h' with
    | taken _ given' does' rest' => rw [ih rest', single plugin given given' does does']
    | passed _ doesNot' => exact absurd does (doesNot' given)
  | passed plugin doesNot _ ih =>
    cases h' with
    | taken _ given' does' => exact absurd does' (doesNot given')
    | passed _ _ rest' => exact ih rest'

/-- Who serves in more ways selects more, and all of the others in the same order with the same
types. -/
theorem Selection.sublist (h : Selection serves plugins cs) (h' : Selection serves' plugins cs')
    (more : ∀ p given, serves p given → serves' p given)
    (single : ∀ p given given', serves' p given → serves' p given' → given' = given) :
    cs.Sublist cs' := by
  induction h generalizing cs' with
  | nil =>
    cases h'
    exact List.Sublist.refl _
  | taken plugin given does _ ih =>
    cases h' with
    | taken _ given' does' rest' =>
      rw [single plugin given given' (more plugin given does) does']
      exact (ih rest').cons_cons _
    | passed _ doesNot' => exact absurd (more plugin given does) (doesNot' given)
  | passed plugin doesNot _ ih =>
    cases h' with
    | taken _ given' does' rest' => exact (ih rest').cons _
    | passed _ _ rest' => exact ih rest'

/-- **The candidates are the selection of those who serve the request.** -/
theorem candidates_selection (associationsOf : PluginDescriptor → List MimeAssociation) (url : Url)
    (mime : String) (patterns : Bool) (plugins : List PluginDescriptor) :
    Selection (fun p given => Serves (associationsOf p) url mime patterns given) plugins
      (candidates associationsOf url mime patterns plugins) := by
  induction plugins with
  | nil => exact .nil
  | cons p rest ih =>
    cases htype : Candidate.mimeTypeFor? (associationsOf p) mime url.extension? patterns with
    | none =>
      have hpassed : candidates associationsOf url mime patterns (p :: rest)
          = candidates associationsOf url mime patterns rest :=
        List.filterMap_cons_none (by rw [Candidate.of?, htype]; rfl)
      rw [hpassed]
      refine .passed p (fun given hserves => ?_) ih
      rw [← mimeTypeFor?_eq_some_iff, htype] at hserves
      exact absurd hserves (by simp)
    | some given =>
      have htaken : candidates associationsOf url mime patterns (p :: rest)
          = ⟨p, given⟩ :: candidates associationsOf url mime patterns rest :=
        List.filterMap_cons_some (by rw [Candidate.of?, htype]; rfl)
      rw [htaken]
      exact .taken p given (mimeTypeFor?_eq_some_iff.mp htype) ih

/-! ## 3. The search -/

/-- The considered types are parallel to the candidates. -/
theorem consideredTypes_parallel (cs : List Candidate) :
    List.Forall₂ (fun type k => type = k.mimeType) (consideredTypes cs) cs :=
  List.forall₂_map_left_iff.mpr (List.forall₂_same.mpr fun _ _ => rfl)

/-- **What a search for candidates finds.**  Take any list of plugins that a catalog enumerates,
anything it reports of them, and any URL and MIME type.

Whether patterns count or not, the search succeeds and gives the one selection of those who serve the
request, each with the type under which he does, in the order of the catalog; the considered types
are parallel to it.  Without patterns it gives some of the candidates that it gives with them, in the
same order and with the same types, and the same ones where no type is asked for.  It fails exactly
with the fault with which the enumeration does. -/
theorem findCandidates_meets_reference
    (associationsOf : PluginDescriptor → List MimeAssociation) (url : Url) (mime : String)
    (plugins : List PluginDescriptor) :
    (∀ patterns, ∃ cs, findCandidates associationsOf url mime patterns (.ok plugins) = .ok cs ∧
      Selection (fun p given => Serves (associationsOf p) url mime patterns given) plugins cs ∧
      (∀ cs', Selection (fun p given => Serves (associationsOf p) url mime patterns given) plugins cs' →
        cs' = cs) ∧
      List.Forall₂ (fun type k => type = k.mimeType) (consideredTypes cs) cs) ∧
    (∃ plain full, findCandidates associationsOf url mime false (.ok plugins) = .ok plain ∧
      findCandidates associationsOf url mime true (.ok plugins) = .ok full ∧
      plain.Sublist full ∧ (mime = "" → plain = full)) ∧
    ∀ patterns answer fault,
      findCandidates associationsOf url mime patterns answer = .error fault ↔ answer = .error fault := by
  have hselection := fun patterns => candidates_selection associationsOf url mime patterns plugins
  refine ⟨fun patterns => ⟨_, rfl, hselection patterns, fun cs' h' => ?_, consideredTypes_parallel _⟩,
    ⟨_, _, rfl, rfl, ?_, ?_⟩, fun patterns answer fault => ?_⟩
  · exact (hselection patterns).unique (fun _ _ _ h h' => h.unique h') h'
  · exact (hselection false).sublist (hselection true) (fun _ _ h => h.withPatterns true)
      fun _ _ _ h h' => h.unique h'
  · rintro rfl
    have hsame := hselection true
    simp only [serves_unasked_iff] at hsame
    exact hsame.unique (fun _ _ _ h h' => h.unique h') (hselection false)
  · cases answer <;> simp [findCandidates, Except.map]

/-- A pattern that lists the extension does not stand in the way of the association behind it, and
case does not count; asked for by type, the pattern serves. -/
example :
    let associationsOf : PluginDescriptor → List MimeAssociation := fun _ =>
      [{ mimeType := "a/*", isWildcard := true, fileExtensions := ["pdf"] },
        { mimeType := "a/b", fileExtensions := ["x", "PDF"] }]
    let url : Url := { scheme := "https", path := "/c.d/e.f.Pdf" }
    (candidates associationsOf url "" false [default]).map (·.mimeType) = ["a/b"] ∧
      (candidates associationsOf url "a/c" true [default]).map (·.mimeType) = ["a/c"] ∧
      candidates associationsOf url "a/c" false [default] = [] := by
  decide

end PluginArbiter
