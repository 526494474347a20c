/-
# Blank characters

The Unicode property White_Space as a table of ranges, trimming by it, and the question whether a
text holds anything else.

Main statements:
* `isBlank_of_isWhitespace`: the blanks of the core library are blanks here;
* `isBlankText_iff_trim_eq_empty`: a text is blank exactly when trimming leaves nothing.
-/
namespace PluginArbiter.Text

/-! ## 1. The table -/

/-- The ranges of code points with the Unicode property White_Space, in order. -/
def blankRanges : List (Nat × Nat) :=
  [(0x9, 0xD), (0x20, 0x20), (0x85, 0x85), (0xA0, 0xA0), (0x1680, 0x1680), (0x2000, 0x200A),
   (0x2028, 0x2029), (0x202F, 0x202F), (0x205F, 0x205F), (0x3000, 0x3000)]

/-- A character is blank when its code point lies in one of the ranges. -/
def isBlank (c : Char) : Bool :=
  blankRanges.any fun r => r.1 ≤ c.toNat && c.toNat ≤ r.2

/-- The blanks of the core library are blanks here. -/
theorem isBlank_of_isWhitespace {c : Char} (h : c.isWhitespace = true) : isBlank c = true := by
  simp only [Char.isWhitespace, Bool.or_eq_true, decide_eq_true_eq] at h
  rcases h with ((rfl | rfl) | rfl) | rfl <;> decide

/-! ## 2. Trimming -/

/-- Removes the blanks at both ends. -/
def trimChars (cs : List Char) : List Char :=
  ((cs.dropWhile isBlank).reverse.dropWhile isBlank).reverse

/-- Removes the blanks at both ends of a text. -/
def trim (s : String) : String := String.ofList (trimChars s.toList)

/-- Whether a text holds nothing but blanks. -/
def isBlankText (s : String) : Bool := s.toList.all isBlank

/-- Nothing is left of a list exactly when all of it is dropped. -/
theorem dropWhile_eq_nil_iff_all {p : Char → Bool} {cs : List Char} :
    cs.dropWhile p = [] ↔ cs.all p = true := by
  induction cs with
  | nil => simp
  | cons c r ih => by_cases h : p c = true <;> simp_all

/-- What is dropped is blank, so the rest decides whether the whole is. -/
theorem all_dropWhile {p : Char → Bool} {cs : List Char} :
    (cs.dropWhile p).all p = cs.all p := by
  induction cs with
  | nil => rfl
  | cons c r ih => by_cases h : p c = true <;> simp_all

theorem trimChars_eq_nil_iff {cs : List Char} :
    trimChars cs = [] ↔ cs.all isBlank = true := by
  rw [trimChars, List.reverse_eq_nil_iff, dropWhile_eq_nil_iff_all, List.all_reverse,
    all_dropWhile]

/-- A text is blank exactly when trimming leaves nothing. -/
theorem isBlankText_iff_trim_eq_empty {s : String} :
    isBlankText s = true ↔ trim s = "" := by
  rw [isBlankText, ← trimChars_eq_nil_iff, trim, String.ofList_eq_empty_iff]

/-- A text is not blank exactly when trimming leaves something. -/
theorem isBlankText_eq_false_iff {s : String} : isBlankText s = false ↔ trim s ≠ "" := by
  rw [← Bool.not_eq_true, isBlankText_iff_trim_eq_empty]

end PluginArbiter.Text
