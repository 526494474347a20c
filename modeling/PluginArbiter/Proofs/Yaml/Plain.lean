/-
# Plain scalars are read back

A text without quotes ends where a colon and a space stand, or where the next line is not indented
far enough.  Within it stand no line breaks, no colon before a space and no hash sign after one, so
the reader does not stop before its end; at its end it has no space, so nothing is lost.

Main statements:
* `Plain.read_yields`: a text that may stand without quotes is read back;
* `Style.isPlainSafe_of_harmless`: letters and digits may stand without quotes.
-/
import PluginArbiter.Proofs.Yaml.Cursor

namespace PluginArbiter.Yaml

/-! ## 1. Texts that may stand without quotes -/

namespace Style

/-- What holds of a text without quotes behind any of its characters. -/
structure Flows (cs : List Char) : Prop where
  printable : ∀ c ∈ cs, isPrintable c = true
  unbroken : ∀ c ∈ cs, isBreak c = false
  adjacent : anyAdjacent (fun a b => (a == ':' && isSpace b) || (isSpace a && b == '#')) cs = false
  last_ne_colon : cs.getLast? ≠ some ':'
  last_ne_space : cs.getLast? ≠ some ' '

variable {cs : List Char} {c : Char}

theorem flows_of_isPlainSafe (h : isPlainSafe cs = true) : Flows cs := by
  simp only [isPlainSafe, needsEscapes, hasIndicator, Bool.and_eq_true, Bool.not_eq_true',
    Bool.or_eq_false_iff, Bool.not_eq_false', List.all_eq_true, List.any_eq_false,
    decide_eq_true_eq, beq_eq_false_iff_ne, Bool.not_eq_true] at h
  obtain ⟨⟨⟨⟨⟨⟨⟨hprintable, -⟩, hunbroken⟩, -⟩, -⟩, hadjacent, hcolon⟩, -⟩, hspace⟩ := h
  exact ⟨hprintable, hunbroken, hadjacent, hcolon, hspace⟩

namespace Flows

theorem tail (h : Flows (c :: cs)) : Flows cs where
  printable d hd := h.printable d (List.mem_cons_of_mem c hd)
  unbroken d hd := h.unbroken d (List.mem_cons_of_mem c hd)
  adjacent := (anyAdjacent_cons_eq_false.mp h.adjacent).2
  last_ne_colon := by
    cases cs with
    | nil => exact nofun
    | cons d cs => simpa using h.last_ne_colon
  last_ne_space := by
    cases cs with
    | nil => exact nofun
    | cons d cs => simpa using h.last_ne_space

/-- The only blank in it is the space. -/
theorem isSpace_eq (h : Flows (c :: cs)) : isSpace c = (c == ' ') := by
  have htab : c ≠ '\t' := ne_of_class (h.printable c List.mem_cons_self) rfl
  simp [isSpace, isBlank, h.unbroken c List.mem_cons_self, htab]

/-- A colon in it does not end it. -/
theorem not_atIndicator {k : Cursor} {tail : List Char} (h : Flows (c :: cs)) :
    atIndicator ':' (k.place (c :: cs ++ tail)) = false := by
  rw [List.cons_append, Cursor.place_cons]
  cases cs with
  | nil =>
    have hcolon : c ≠ ':' := by simpa using h.last_ne_colon
    simp [atIndicator, hcolon]
  | cons d cs =>
    have hadjacent := (anyAdjacent_cons_eq_false.mp h.adjacent).1 d cs rfl
    rw [List.cons_append, Cursor.place_cons]
    exact (Bool.or_eq_false_iff.mp hadjacent).1

end Flows

/-- A character that means the same wherever it stands. -/
def isHarmless (c : Char) : Bool := Document.isLetter c || c.isDigit

/-- Harmless characters are related to none that comes next, if none of them is. -/
theorem anyAdjacent_of_harmless {related : Char → Char → Bool}
    (h : ∀ c d, isHarmless c = true → related c d = false) (hcs : cs.all isHarmless = true) :
    anyAdjacent related cs = false := by
  induction cs with
  | nil => rfl
  | cons c cs ih =>
    obtain ⟨hc, hcs⟩ := Bool.and_eq_true_iff.mp hcs
    exact anyAdjacent_cons_eq_false.mpr ⟨fun d _ _ => h c d hc, ih hcs⟩

theorem isPrintable_of_isHarmless (h : isHarmless c = true) : isPrintable c = true := by
  have hrange : ' ' ≤ c ∧ c ≤ '~' := by
    simp only [isHarmless, Document.isLetter, Char.isDigit, Bool.or_eq_true, Bool.and_eq_true,
      decide_eq_true_eq, beq_iff_eq] at h
    rcases h with (h | rfl) | h
    · exact ⟨Nat.le_trans (by decide) h.1, Nat.le_trans h.2 (by decide)⟩
    · decide
    · exact ⟨Nat.le_trans (by decide) h.1, Nat.le_trans h.2 (by decide)⟩
  simp [isPrintable, hrange]

theorem isSpace_of_isHarmless (h : isHarmless c = true) : isSpace c = false := by
  have hne : ∀ d, isHarmless d = false → c ≠ d := fun d => ne_of_class h
  simp [isSpace, isBlank, isBreak, hne ' ' rfl, hne '\t' rfl, hne '\n' rfl, hne '\u2028' rfl,
    hne '\u2029' rfl]

theorem not_startsWithIndicator_of_harmless (h : isHarmless c = true) :
    startsWithIndicator (c :: cs) = false := by
  have hne : ∀ d, isHarmless d = false → c ≠ d := fun d => ne_of_class h
  have hindicators : indicators.contains c = false := by
    rw [List.contains_eq_mem, decide_eq_false_iff_not]
    intro hmem
    have hall : indicators.any isHarmless = false := by decide
    exact hne c (Bool.eq_false_iff.mpr (List.any_eq_false.mp hall c hmem)) rfl
  rw [startsWithIndicator, if_neg, hindicators]
  simp [hne '-' rfl, hne '?' rfl, hne ':' rfl]

theorem not_startsLikeMarker_of_harmless (h : isHarmless c = true) :
    startsLikeMarker (c :: cs) = false := by
  have hne : ∀ d, isHarmless d = false → c ≠ d := fun d => ne_of_class h
  unfold startsLikeMarker
  split
  · rename_i heq
    obtain ⟨rfl, -⟩ := List.cons.inj heq
    simp [hne '-' rfl, hne '.' rfl]
  · rfl

/-- **Letters and digits may stand without quotes.** -/
theorem isPlainSafe_of_harmless (hne : cs ≠ []) (hcs : cs.all isHarmless = true) :
    isPlainSafe cs = true := by
  have hall := List.all_eq_true.mp hcs
  have hprintable : cs.all isPrintable = true :=
    List.all_eq_true.mpr fun c hc => isPrintable_of_isHarmless (hall c hc)
  have hspace : ∀ c d, isHarmless c = true → (c == ' ' && isBreak d) = false := fun c d hc => by
    rw [beq_false_of_ne (ne_of_class hc rfl), Bool.false_and]
  have hindicator : ∀ c d, isHarmless c = true →
      ((c == ':' && isSpace d) || (isSpace c && d == '#')) = false := fun c d hc => by
    rw [beq_false_of_ne (ne_of_class hc rfl), isSpace_of_isHarmless hc, Bool.false_and,
      Bool.false_and, Bool.or_false]
  have hescapes : needsEscapes cs = false := by
    rw [needsEscapes, hprintable, hasSpaceBeforeBreak, anyAdjacent_of_harmless hspace hcs]
    rfl
  have hbreak : cs.any isBreak = false := List.any_eq_false.mpr fun c hc => by
    have hvisible := isSpace_of_isHarmless (hall c hc)
    simp only [isSpace, Bool.or_eq_false_iff] at hvisible
    simp [hvisible]
  have hmember : ∀ c d, c ∈ cs → isHarmless d = false → c ≠ d := fun c _ hc =>
    ne_of_class (hall c hc)
  have hcolon : cs.getLast? ≠ some ':' := fun h => hmember _ _ (List.mem_of_getLast? h) rfl rfl
  have hlast : cs.getLast? ≠ some ' ' := fun h => hmember _ _ (List.mem_of_getLast? h) rfl rfl
  have hhead : cs.head? ≠ some ' ' := fun h => hmember _ _ (List.mem_of_head? h) rfl rfl
  have hfirst : startsWithIndicator cs = false ∧ startsLikeMarker cs = false := by
    cases cs with
    | nil => exact absurd rfl hne
    | cons c cs =>
      have hc := hall c List.mem_cons_self
      exact ⟨not_startsWithIndicator_of_harmless hc, not_startsLikeMarker_of_harmless hc⟩
  simp [isPlainSafe, hasIndicator, hescapes, hbreak, hfirst, hcolon, hlast, hhead,
    anyAdjacent_of_harmless hindicator hcs]

/-- The first character has no meaning of its own, with three exceptions. -/
theorem ne_of_isPlainSafe {d : Char} (h : isPlainSafe (c :: cs) = true)
    (hd : indicators.contains d = true) (hexcept : d ≠ '-' ∧ d ≠ '?' ∧ d ≠ ':') : c ≠ d := by
  rintro rfl
  simp only [isPlainSafe, Bool.and_eq_true, Bool.not_eq_true', startsWithIndicator] at h
  obtain ⟨⟨⟨⟨⟨-, hindicator⟩, -⟩, -⟩, -⟩, -⟩ := h
  rw [if_neg (by simp [hexcept]), hd] at hindicator
  exact Bool.noConfusion hindicator

theorem isSpace_of_isPlainSafe (h : isPlainSafe (c :: cs) = true) : isSpace c = false := by
  have hhead : (c :: cs).head? ≠ some ' ' := by
    simp only [isPlainSafe, Bool.and_eq_true, decide_eq_true_eq] at h
    exact h.1.2
  rw [(flows_of_isPlainSafe h).isSpace_eq]
  exact beq_false_of_ne fun heq => hhead (congrArg some heq)

theorem isPassedOver_of_isPlainSafe (h : isPlainSafe (c :: cs) = true) :
    isPassedOver c = false := by
  have hhash : c ≠ '#' := ne_of_isPlainSafe h rfl (by decide)
  have hprintable := (flows_of_isPlainSafe h).printable c List.mem_cons_self
  have hmark : c ≠ byteOrderMark := ne_of_class hprintable (by decide)
  simp [isPassedOver, isSpace_of_isPlainSafe h, hhash, hmark]

end Style

/-! ## 2. Reading -/

namespace Plain

open Style

variable {floor : Nat} {k : Cursor} {cs tail more : List Char} {next : List Glyph}

/-- Outside of brackets no colon is in the way. -/
theorem isStray_outside (s : List Glyph) : isStray false s = false := by
  unfold isStray
  split <;> rfl

/-- **The text is read to its end.**  The blanks before it are its own. -/
theorem scan_yields (hcs : Flows cs) (blanks : List Char) (hfloor : floor ≤ k.col + 1)
    (hopen : blanks ≠ [] → k.col ≠ 0 ∧ floor ≤ k.col ∧ cs ≠ [] ∧ cs.head? ≠ some '#')
    (htail : Yields (scan false floor .none ((k.past cs).place tail)) [] next) :
    Yields (scan false floor (.blanks blanks) (k.place (cs ++ tail))) (blanks ++ cs) next := by
  induction cs generalizing k blanks with
  | nil =>
    have hnone : blanks = [] := by
      by_cases hblanks : blanks = []
      · exact hblanks
      · exact absurd rfl (hopen hblanks).2.2.1
    rw [hnone]
    exact htail
  | cons c cs ih =>
    have hcol : (k.after c).col = k.col + 1 :=
      Cursor.after_col (hcs.unbroken c List.mem_cons_self)
    by_cases hspace : c = ' '
    · subst hspace
      have hlater : cs ≠ [] ∧ cs.head? ≠ some '#' := by
        cases cs with
        | nil => exact absurd rfl hcs.last_ne_space
        | cons d cs =>
          have hadjacent := (anyAdjacent_cons_eq_false.mp hcs.adjacent).1 d cs rfl
          simpa [isSpace, isBlank] using (Bool.or_eq_false_iff.mp hadjacent).2
      have hread := ih (k := k.after ' ') hcs.tail (blanks ++ [' ']) (by omega)
        (fun _ => ⟨by omega, by omega, hlater⟩) htail
      rw [List.append_assoc] at hread
      rw [List.cons_append, Cursor.place_cons, scan]
      exact hread
    · have hvisible : isSpace c = false := by
        rw [hcs.isSpace_eq]
        exact beq_false_of_ne hspace
      have hgap : ((Gap.blanks blanks).isOpen
          && stopsAfterGap false floor (k.place (c :: cs ++ tail))) = false := by
        cases blanks with
        | nil => rfl
        | cons b bs =>
          obtain ⟨hline, hindented, -, hhash⟩ := hopen (List.cons_ne_nil b bs)
          have hhash : c ≠ '#' := fun heq => hhash (congrArg some heq)
          have hend : atEnd (k.place (c :: (cs ++ tail))) = false := not_atEnd_of_col hline
          rw [Cursor.place_cons] at hend
          rw [List.cons_append, Cursor.place_cons, stopsAfterGap, hend]
          simp [hhash, Nat.not_lt.mpr hindented]
      have hends : endsAt false (k.place (c :: cs ++ tail)) = false := by
        rw [endsAt, hcs.not_atIndicator]
        rfl
      have hread := ih (k := k.after c) hcs.tail [] (by omega) (absurd rfl) htail
      rw [List.cons_append, Cursor.place_cons] at hgap hends ⊢
      rw [scan, if_neg (by simp [hvisible]), if_neg (by simp [hgap]),
        if_neg (by simp [isStray_outside]), if_neg (by simp [hends])]
      exact hread.map fun cs => blanks ++ c :: cs

/-- A key ends at its colon. -/
theorem scan_colon {c : Char} (hc : isSpace c = true) (more : List Char) :
    Yields (scan false floor .none (k.place (':' :: c :: more))) []
      (k.place (':' :: c :: more)) := by
  have hcolon : atIndicator ':' (k.place (':' :: c :: more)) = true := by
    rw [Cursor.place_cons, Cursor.place_cons]
    exact hc
  have hends : endsAt false (k.place (':' :: c :: more)) = true := by
    rw [endsAt, hcolon]
    rfl
  rw [Cursor.place_cons] at hends ⊢
  rw [scan, if_neg (by simp [isSpace, isBlank, isBreak]), if_neg (by simp [Gap.none, Gap.isOpen]),
    if_neg (by simp [isStray_outside]), if_pos hends]
  exact .of_some [] _

/-- Spaces after a line break are no part of the text. -/
theorem scan_spaces (first : Option Char) (breaks : List Char) (n : Nat) :
    scan false floor (.breaks first breaks) (k.place (spaces n ++ more))
      = scan false floor (.breaks first breaks) ((k.past (spaces n)).place more) := by
  induction n generalizing k with
  | zero => rfl
  | succ n ih =>
    rw [spaces, List.replicate_succ, List.cons_append, Cursor.place_cons, scan]
    exact ih

/-- A value ends with its line, if the next token is not indented far enough. -/
theorem scan_break {allowed : Nat → Char → Prop} (hmore : Follows allowed more)
    (hallowed : ∀ col c, allowed col c → col < floor) :
    Yields (scan false floor .none (k.place ('\n' :: more))) [] ((k.after '\n').place more) := by
  have hbreak : scan false floor .none (k.place ('\n' :: more))
      = scan false floor (.breaks (some '\n') []) ((k.after '\n').place more) := by
    rw [Cursor.place_cons, scan]
    rfl
  rw [hbreak]
  cases hmore with
  | nothing => exact .of_some [] []
  | @token col c r isAllowed starts =>
    obtain ⟨hcol, -⟩ := (k.after '\n').past_spaces col
    have hfresh : (k.after '\n').col = 0 := (Cursor.after_of_break rfl).col
    have hleft := hallowed col c isAllowed
    have hspace : isSpace c = false := starts.isSpace
    refine ⟨_, ?_, (skip_place_spaces col).symm⟩
    rw [scan_spaces, Cursor.place_cons, scan, if_neg (by simp [hspace]), if_pos]
    simp [Gap.isOpen, stopsAfterGap, hcol, hfresh, hleft]

/-- No indicator stands at the start, unless what follows allows it. -/
theorem starts_of_isPlainSafe (hsafe : isPlainSafe cs = true) :
    starts false (k.place (cs ++ tail)) = true := by
  have hindicator : startsWithIndicator cs = false := by
    simp only [isPlainSafe, Bool.and_eq_true, Bool.not_eq_true'] at hsafe
    exact hsafe.1.1.1.1.2
  cases cs with
  | nil => exact nomatch hindicator
  | cons c cs =>
    have hspace := isSpace_of_isPlainSafe hsafe
    rw [List.cons_append, Cursor.place_cons, starts, if_neg (by simp [hspace])]
    rw [startsWithIndicator] at hindicator
    split at hindicator
    · have hnext : atSpace ((k.after c).place (cs ++ tail)) = false := by
        cases cs with
        | nil => exact nomatch hindicator
        | cons d cs =>
          rw [List.cons_append, Cursor.place_cons]
          exact hindicator
      rename_i hmark
      simp only [Bool.or_eq_true, beq_iff_eq] at hmark
      rcases hmark with (rfl | rfl) | rfl <;> simp [hnext]
    · rename_i hmark
      simp only [Bool.or_eq_true, beq_iff_eq, not_or] at hmark
      rw [if_neg (by simp [hmark]), if_neg (by simp [hmark]), Cursor.glyph_char, hindicator]
      rfl

/-- **A text that may stand without quotes is read back.** -/
theorem read_yields (hsafe : isPlainSafe cs = true) (hfloor : floor ≤ k.col + 1)
    (htail : Yields (scan false floor .none ((k.past cs).place tail)) [] next) :
    Yields (read false floor (k.place (cs ++ tail))) cs next := by
  have hcs := flows_of_isPlainSafe hsafe
  rw [read, if_pos (starts_of_isPlainSafe hsafe)]
  exact scan_yields hcs [] hfloor (absurd rfl) htail

end Plain

end PluginArbiter.Yaml
