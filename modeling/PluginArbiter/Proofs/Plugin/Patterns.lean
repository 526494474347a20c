/-
# The language of a pattern

To see whether a pattern covers a type two texts are cut, and at different ends.  The pattern loses
the slash and the star that close it, wherever else it has slashes; the type is cut at its first
slash, whatever comes after.  What is left of both is compared.

So the part that is left of the pattern counts only if it has no slash itself, for a top level never
has one, and patterns fall into three classes.  `*` and `*/*` cover everything but the empty type.
`t/*` covers what begins with `t` and a slash, if there is no slash in `t`; the empty `t` is no
exception.  All others cover nothing.  Two patterns of the second class are equal if they have one
type in common, because a type has one top level (`top_unique`).

A type without a slash has no top level, and only the first class covers it.

Main statements:
* `matchesPattern_iff`: which types an association covers;
* `matchesPattern_language`: the same, with all that follows.
-/
import PluginArbiter.Plugin.Mime

namespace PluginArbiter

namespace Mime

variable {t t' r r' pattern mime : String}

/-- The pattern stands for the types of one top level, and the type is one of them. -/
def CoversByTop (pattern mime : String) : Prop :=
  ∃ t r : String, '/' ∉ t.toList ∧ pattern = t ++ "/*" ∧ mime = t ++ "/" ++ r

/-! ## 1. Both ends -/

theorem topLevel?_append (ht : '/' ∉ t.toList) (r : String) :
    topLevel? (t ++ "/" ++ r).toList = some t.toList :=
  topLevel?_eq_some_iff.mpr ⟨ht, r.toList, by simp⟩

/-- **A text is cut at its first slash in one way only.** -/
theorem top_unique (ht : '/' ∉ t.toList) (ht' : '/' ∉ t'.toList)
    (h : t ++ "/" ++ r = t' ++ "/" ++ r') : t = t' := by
  have htop := topLevel?_append ht r
  rw [h, topLevel?_append ht' r'] at htop
  exact (String.toList_inj.mp (Option.some.inj htop)).symm

/-- What closes a pattern can be taken off in one way only. -/
theorem pattern_unique (h : t ++ "/*" = t' ++ "/*") : t = t' := by
  have hlist := congrArg String.toList h
  rw [String.toList_append, String.toList_append] at hlist
  exact String.toList_inj.mp (List.append_cancel_right hlist)

theorem ne_star (t : String) : t ++ "/*" ≠ "*" := by
  intro h
  have hlength := congrArg (fun s => s.toList.length) h
  simp at hlength

/-- Of the patterns that cover everything the longer one is closed like the others, and what is left
of it is a star. -/
theorem eq_star_of_universal (h : t ++ "/*" = "*" ∨ t ++ "/*" = "*/*") : t = "*" :=
  h.elim (fun h => absurd h (ne_star t)) fun h => pattern_unique h

/-! ## 2. Which types a pattern covers -/

theorem covers_iff_coversByTop :
    Covers pattern mime ↔
      mime ≠ "" ∧ (pattern = "*" ∨ pattern = "*/*" ∨ CoversByTop pattern mime) := by
  refine and_congr_right fun _ => or_congr_right (or_congr_right ?_)
  constructor
  · rintro ⟨top, rest, hslash, hpattern, hmime⟩
    refine ⟨String.ofList top, String.ofList rest, by simpa using hslash, ?_, ?_⟩
    · exact String.toList_inj.mp (by simpa using hpattern)
    · exact String.toList_inj.mp (by simpa using hmime)
  · rintro ⟨t, r, hslash, rfl, rfl⟩
    exact ⟨t.toList, r.toList, hslash, by simp, by simp⟩

end Mime

namespace MimeAssociation

open Mime (CoversByTop)

variable {a b : MimeAssociation} {t m : String}

theorem matchesPattern_iff : a.matchesPattern m = true ↔
    a.isWildcard = true ∧ m ≠ "" ∧
      (a.mimeType = "*" ∨ a.mimeType = "*/*" ∨ CoversByTop a.mimeType m) := by
  rw [matchesPattern, Bool.and_eq_true, Mime.covers_iff, Mime.covers_iff_coversByTop]

/-- A pattern with another slash covers nothing. -/
theorem matchesPattern_of_slash (ha : a.mimeType = t ++ "/*") (hslash : '/' ∈ t.toList)
    (m : String) : a.matchesPattern m = false := by
  refine Bool.eq_false_iff.mpr fun h => ?_
  obtain ⟨-, -, huniversal⟩ := matchesPattern_iff.mp h
  rw [ha, ← or_assoc] at huniversal
  rcases huniversal with huniversal | ⟨t', r, hslash', hpattern, -⟩
  · rw [Mime.eq_star_of_universal huniversal] at hslash
    exact absurd hslash (by decide)
  · exact hslash' (Mime.pattern_unique hpattern ▸ hslash)

/-- A pattern that is not closed by a slash and a star, and is no single star, covers nothing. -/
theorem matchesPattern_of_not_closed (hstar : a.mimeType ≠ "*")
    (hopen : ∀ t, a.mimeType ≠ t ++ "/*") (m : String) : a.matchesPattern m = false := by
  refine Bool.eq_false_iff.mpr fun h => ?_
  obtain ⟨-, -, heq | heq | ⟨t, _, -, heq, -⟩⟩ := matchesPattern_iff.mp h
  · exact hstar heq
  · exact hopen "*" heq
  · exact hopen t heq

/-- What comes after the first slash of a type makes no difference. -/
theorem matchesPattern_append_congr (ht : '/' ∉ t.toList) (r r' : String) :
    a.matchesPattern (t ++ "/" ++ r) = true → a.matchesPattern (t ++ "/" ++ r') = true := by
  intro h
  obtain ⟨hwildcard, -, hcovers⟩ := matchesPattern_iff.mp h
  have hne : t ++ "/" ++ r' ≠ "" := by
    intro hempty
    have hlength := congrArg (fun s => s.toList.length) hempty
    simp at hlength
  refine matchesPattern_iff.mpr ⟨hwildcard, hne, hcovers.imp_right (Or.imp_right ?_)⟩
  rintro ⟨t', r₁, ht', hpattern, hmime⟩
  exact ⟨t, r', ht, Mime.top_unique ht ht' hmime ▸ hpattern, rfl⟩

/-- A type without a slash is covered by the two patterns alone that cover everything. -/
theorem matchesPattern_of_no_slash (hm : '/' ∉ m.toList) : a.matchesPattern m = true ↔
    a.isWildcard = true ∧ m ≠ "" ∧ (a.mimeType = "*" ∨ a.mimeType = "*/*") := by
  have hnone : ¬ CoversByTop a.mimeType m := by
    rintro ⟨t, r, -, -, rfl⟩
    simp at hm
  rw [matchesPattern_iff, or_iff_left hnone]

/-- **The language of a pattern.**  An association covers a type exactly when it is a pattern, the
type is not empty, and the pattern is `*` or `*/*`, or it is `t/*` and the type begins with `t` and
a slash, for some `t` without a slash.

So a pattern with another slash covers nothing, nor does one that is not closed by a slash and a
star unless it is a single star.  Of a type nothing counts but what precedes its first slash, and if
it has none, whether it is empty.  Patterns that do not cover everything are equal if they cover one
type together. -/
theorem matchesPattern_language (a : MimeAssociation) (m : String) :
    (a.matchesPattern m = true ↔
      a.isWildcard = true ∧ m ≠ "" ∧
        (a.mimeType = "*" ∨ a.mimeType = "*/*" ∨
          ∃ t r : String, '/' ∉ t.toList ∧ a.mimeType = t ++ "/*" ∧ m = t ++ "/" ++ r)) ∧
    (∀ t : String, a.mimeType = t ++ "/*" → '/' ∈ t.toList → a.matchesPattern m = false) ∧
    (a.mimeType ≠ "*" → (∀ t : String, a.mimeType ≠ t ++ "/*") → a.matchesPattern m = false) ∧
    (∀ t r r' : String, '/' ∉ t.toList → m = t ++ "/" ++ r →
      a.matchesPattern (t ++ "/" ++ r') = a.matchesPattern m) ∧
    (∀ m' : String, '/' ∉ m.toList → '/' ∉ m'.toList → (m' = "" ↔ m = "") →
      a.matchesPattern m' = a.matchesPattern m) ∧
    ∀ b : MimeAssociation, a.matchesPattern m = true → b.matchesPattern m = true →
      a.mimeType ≠ "*" → a.mimeType ≠ "*/*" → b.mimeType ≠ "*" → b.mimeType ≠ "*/*" →
        a.mimeType = b.mimeType := by
  refine ⟨matchesPattern_iff, fun t ha hslash => matchesPattern_of_slash ha hslash m,
    fun hstar hopen => matchesPattern_of_not_closed hstar hopen m, ?_, ?_, ?_⟩
  · rintro t r r' ht rfl
    exact Bool.eq_iff_iff.mpr
      ⟨matchesPattern_append_congr ht r' r, matchesPattern_append_congr ht r r'⟩
  · intro m' hm hm' hempty
    rw [Bool.eq_iff_iff, matchesPattern_of_no_slash hm, matchesPattern_of_no_slash hm', ne_eq,
      hempty]
  · intro b ha hb hstar hall hstar' hall'
    obtain ⟨-, -, heq | heq | ⟨t, r, ht, hpattern, hmime⟩⟩ := matchesPattern_iff.mp ha
    · exact absurd heq hstar
    · exact absurd heq hall
    · obtain ⟨-, -, heq | heq | ⟨t', r', ht', hpattern', hmime'⟩⟩ := matchesPattern_iff.mp hb
      · exact absurd heq hstar'
      · exact absurd heq hall'
      · rw [hpattern, hpattern', Mime.top_unique ht ht' (hmime.symm.trans hmime')]

/-- Who covers a type with two slashes without covering everything is written `video/*`; the pattern
that repeats both slashes covers nothing. -/
theorem matchesPattern_language_two_slashes :
    (ofPattern "video/*").matchesPattern "video/mp4/1" = true ∧
      (ofPattern "video/mp4/*").matchesPattern "video/mp4/1" = false ∧
      ∀ b : MimeAssociation, b.matchesPattern "video/mp4/1" = true → b.mimeType ≠ "*" →
        b.mimeType ≠ "*/*" → b.mimeType = "video/*" := by
  obtain ⟨hiff, -, -, -, -, hequal⟩ := matchesPattern_language (ofPattern "video/*") "video/mp4/1"
  obtain ⟨-, hslash, -⟩ := matchesPattern_language (ofPattern "video/mp4/*") "video/mp4/1"
  have hvideo := hiff.mpr ⟨rfl, by decide, Or.inr (Or.inr ⟨"video", "mp4/1", by decide, rfl, rfl⟩)⟩
  refine ⟨hvideo, hslash "video/mp4" rfl (by decide), fun b hb hstar hall => ?_⟩
  exact (hequal b hvideo hb (by decide) (by decide) hstar hall).symm

end MimeAssociation

end PluginArbiter
