/-
# The extension of a path

A path is cut at its slashes, and what follows the last one is cut at its dots.  Here the outcome is
said without cutting: the extension is the text behind the last dot of the text behind the last slash.
It is never empty, so a name that ends in a dot has none, and a dot in front of the last slash does
not count.

Main statements:
* `lastSegment?_eq_some_iff`, `extensionOf?_eq_some_iff`: what each of the two cuts finds;
* `extension?_eq_some_iff`: which URLs have which extension.
-/
import PluginArbiter.Url.Basic

namespace PluginArbiter.Url

variable {path segment e : List Char}

/-- The text behind the last slash of a path that begins with one. -/
def IsLastSegment (path segment : List Char) : Prop :=
  path.head? = some '/' ∧ '/' ∉ segment ∧ ∃ before, path = before ++ '/' :: segment

/-- The text behind the last dot of a segment, where there is a dot and some text behind it. -/
def IsExtensionOf (segment e : List Char) : Prop :=
  e ≠ [] ∧ '.' ∉ e ∧ ∃ stem, segment = stem ++ '.' :: e

/-- A URL whose path ends in a segment with this extension. -/
def HasExtension (u : Url) (e : String) : Prop :=
  ∃ segment, IsLastSegment u.path.toList segment ∧ IsExtensionOf segment e.toList

theorem lastSegment?_eq_some_iff :
    lastSegment? path = some segment ↔ IsLastSegment path segment := by
  cases path with
  | nil => simp [lastSegment?, IsLastSegment]
  | cons c rest =>
    by_cases hc : c = '/'
    · subst hc
      -- the slash at the start is the last one exactly where no other follows
      have hcut : lastSegment? ('/' :: rest) = (Text.pieces '/' ('/' :: rest)).getLast? := by
        obtain ⟨p, ps, hp⟩ := List.exists_cons_of_ne_nil (Text.pieces_ne_nil '/' rest)
        rw [lastSegment?, Text.pieces, if_pos rfl, hp]
        rfl
      obtain ⟨before, last, heq, hlast⟩ :=
        Text.exists_last_separator (List.mem_cons_self : '/' ∈ '/' :: rest)
      rw [hcut, IsLastSegment, heq, Text.getLast?_pieces_append hlast]
      constructor
      · intro h
        obtain rfl := Option.some.inj h
        exact ⟨by rw [← heq]; rfl, hlast, before, rfl⟩
      · rintro ⟨-, hsegment, before', heq'⟩
        rw [← Text.getLast?_pieces_append hlast before, heq',
          Text.getLast?_pieces_append hsegment]
    · simp [lastSegment?, IsLastSegment, hc]

theorem extensionOf?_eq_some_iff : extensionOf? segment = some e ↔ IsExtensionOf segment e := by
  by_cases hdot : '.' ∈ segment
  · obtain ⟨stem, last, rfl, hlast⟩ := Text.exists_last_separator hdot
    obtain ⟨p, ps, hp⟩ := List.exists_cons_of_ne_nil
      (mt List.reverse_eq_nil_iff.mp (Text.pieces_ne_nil '.' stem))
    have hcut : extensionOf? (stem ++ '.' :: last) = if last.isEmpty then none else some last := by
      rw [extensionOf?, Text.pieces_append, Text.pieces_of_not_mem hlast, List.reverse_append, hp]
      rfl
    have hsame : (∃ stem', stem ++ '.' :: last = stem' ++ '.' :: e) ∧ '.' ∉ e ↔ last = e := by
      constructor
      · rintro ⟨⟨stem', heq⟩, he⟩
        have hlasts := congrArg (fun cs => (Text.pieces '.' cs).getLast?) heq
        simp only [Text.getLast?_pieces_append hlast, Text.getLast?_pieces_append he] at hlasts
        exact Option.some.inj hlasts
      · rintro rfl
        exact ⟨⟨stem, rfl⟩, hlast⟩
    rw [hcut, IsExtensionOf, and_comm (a := '.' ∉ e), hsame]
    cases last with
    | nil => simp
    | cons c r => simp +contextual [eq_comm]
  · have hnone : extensionOf? segment = none := by
      rw [extensionOf?, Text.pieces_of_not_mem hdot]
      rfl
    rw [hnone, IsExtensionOf]
    simp only [reduceCtorEq, false_iff]
    rintro ⟨-, -, stem, rfl⟩
    exact hdot (by simp)

/-- **Which URLs have which extension.** -/
theorem extension?_eq_some_iff {u : Url} {e : String} :
    u.extension? = some e ↔ u.HasExtension e := by
  rw [extension?, Option.map_eq_some_iff]
  simp only [Option.bind_eq_some_iff, lastSegment?_eq_some_iff, extensionOf?_eq_some_iff]
  constructor
  · rintro ⟨cs, ⟨segment, hsegment, hcs⟩, rfl⟩
    exact ⟨segment, hsegment, by rwa [String.toList_ofList]⟩
  · rintro ⟨segment, hsegment, he⟩
    exact ⟨e.toList, ⟨segment, hsegment, he⟩, String.ofList_toList⟩

/-- Only the last segment counts, whatever stands in front of it. -/
example : extensionOf? "tar.gz".toList = some "gz".toList ∧ lastSegment? "/a.b/c".toList = some ['c'] ∧
    extensionOf? "name.".toList = none := by decide

end PluginArbiter.Url
