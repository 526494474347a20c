/-
# Quoted scalars are read back

Between single quotes stands a text as it is, but for its quotes, which are written twice, and for
its lines, which are indented.  The reader drops what stands around a line break; so this serves a
text that has no blanks there and no line feeds, which would be folded.

Between double quotes any text can stand, since what cannot stand there is escaped.

Main statements:
* `SingleQuoted.read_eq`: a text between single quotes is read back;
* `DoubleQuoted.read_eq`: so is any text between double quotes.
-/
import PluginArbiter.Proofs.Yaml.Cursor

namespace PluginArbiter.Yaml

/-! ## 1. Single quotes -/

namespace SingleQuoted

open Style

variable {indent : Nat} {k : Cursor} {c : Char} {cs tail more : List Char} {gap : Gap}

/-- A quote is written twice. -/
def writeChar (c : Char) : List Char := if c == '\x27' then [c, c] else [c]

/-- What stands before the first character of a line. -/
def margin (indent : Nat) (fresh : Bool) : List Char := if fresh then spaces indent else []

/-- The lines between the quotes; the closing quote is indented, too, when it begins a line. -/
def body (indent : Nat) : Bool → List Char → List Char
  | fresh, [] => margin indent fresh
  | fresh, c :: r =>
    if isBreak c then c :: body indent true r
    else margin indent fresh ++ writeChar c ++ body indent false r

theorem body_eq (fresh : Bool) (h : cs = [] → fresh = false) :
    indented indent writeChar fresh cs ++ (if endsInBreak cs then spaces indent else [])
      = body indent fresh cs := by
  induction cs generalizing fresh with
  | nil => simp [h rfl, indented, body, margin, endsInBreak]
  | cons c cs ih =>
    cases cs with
    | nil => cases hc : isBreak c <;> simp [indented, body, margin, endsInBreak, hc]
    | cons d cs =>
      have hends : endsInBreak (c :: d :: cs) = endsInBreak (d :: cs) := by
        simp [endsInBreak]
      rw [hends, indented, body]
      cases hc : isBreak c with
      | true => simp [← ih true]
      | false => simp [← ih false, margin]

theorem writeSingle_eq (indent : Nat) (cs : List Char) :
    writeSingle indent cs = '\x27' :: body indent false cs ++ ['\x27'] := by
  rw [← body_eq false fun _ => rfl]
  rfl

/-- Blanks and breaks widen the gap. -/
theorem scan_space (h : isSpace c = true) :
    scan (.inside gap) (k.place (c :: more))
      = scan (.inside (gap.add c)) ((k.after c).place more) := by
  have hend : atEnd (k.place (c :: more)) = false := by
    rw [atEnd, not_atMarker_of_char (ne_of_class h rfl), not_atMarker_of_char (ne_of_class h rfl),
      Bool.or_false]
  rw [Cursor.place_cons] at hend ⊢
  rw [scan, if_neg (by simp [hend]), if_pos (by simp [h])]
  rfl

/-- Spaces at the start of a line are lost. -/
theorem scan_spaces (h : gap.isBroken = true) (n : Nat) :
    scan (.inside gap) (k.place (spaces n ++ more))
      = scan (.inside gap) ((k.past (spaces n)).place more) := by
  have hadd : gap.add ' ' = gap := by
    cases gap with
    | blanks cs => exact nomatch h
    | breaks first breaks => rfl
  induction n generalizing k with
  | zero => rfl
  | succ n ih =>
    rw [spaces, List.replicate_succ, List.cons_append, scan_space rfl, hadd]
    exact ih

theorem scan_margin (more : List Char) (hindent : 0 < indent)
    (hk : gap.isBroken = true ∨ k.col ≠ 0) :
    (k.past (margin indent gap.isBroken)).col ≠ 0 ∧
      scan (.inside gap) (k.place (margin indent gap.isBroken ++ more))
        = scan (.inside gap) ((k.past (margin indent gap.isBroken)).place more) := by
  cases hbroken : gap.isBroken with
  | false => exact ⟨hk.resolve_left (by simp [hbroken]), rfl⟩
  | true =>
    refine ⟨?_, scan_spaces hbroken indent⟩
    rw [margin, if_pos rfl, (k.past_spaces indent).1]
    omega

theorem past_writeChar_col (hc : isBreak c = false) (hk : k.col ≠ 0) :
    (k.past (writeChar c)).col ≠ 0 := by
  have hbreaks : ∀ d ∈ writeChar c, isBreak d = false := by
    unfold writeChar
    split <;> simp [hc]
  rw [(Cursor.past_line_col hbreaks).2]
  omega

/-- Any other character is read with the gap before it. -/
theorem scan_visible (h : isSpace c = false) (hk : k.col ≠ 0) :
    scan (.inside gap) (k.place (writeChar c ++ more))
      = (scan (.inside .none) ((k.past (writeChar c)).place more)).map fun (cs, rest) =>
        (gap.text ++ c :: cs, rest) := by
  by_cases hquote : c = '\x27'
  · subst hquote
    have hend : atEnd (k.place ('\x27' :: '\x27' :: more)) = false := not_atEnd_of_col hk
    have hwrite : writeChar '\x27' = ['\x27', '\x27'] := rfl
    rw [hwrite, List.cons_append, List.cons_append, List.nil_append]
    rw [Cursor.place_cons] at hend ⊢
    rw [scan, if_neg (by simp [hend]), if_neg (by simp [h]), if_pos (by simp), Cursor.place_cons,
      scan, if_pos (by simp), Option.map_map]
    rfl
  · have hend : atEnd (k.place (c :: more)) = false := not_atEnd_of_col hk
    have hwrite : writeChar c = [c] := by simp [writeChar, hquote]
    rw [hwrite, List.singleton_append]
    rw [Cursor.place_cons] at hend ⊢
    rw [scan, if_neg (by simp [hend]), if_neg (by simp [h]), if_neg (by simp [hquote])]
    rfl

/-- A quote before another character ends the text. -/
theorem scan_end (hk : k.col ≠ 0) (hc : c ≠ '\x27') :
    scan (.inside gap) (k.place ('\x27' :: c :: more))
      = some (gap.text, (k.after '\x27').place (c :: more)) := by
  have hend : atEnd (k.place ('\x27' :: c :: more)) = false := not_atEnd_of_col hk
  rw [Cursor.place_cons] at hend ⊢
  rw [scan, if_neg (by simp [hend]), if_neg (by simp [isSpace, isBlank, isBreak]),
    if_pos (by simp), Cursor.place_cons, scan, if_neg (by simp [hc])]
  simp

/-- What holds of the rest of a text behind a gap, so that nothing in it is lost or folded. -/
structure Continues (gap : Gap) (cs : List Char) : Prop where
  printable : ∀ c ∈ cs, isPrintable c = true ∧ c ≠ '\n'
  spaceBefore : hasSpaceBeforeBreak cs = false
  spaceAfter : hasSpaceAfterBreak cs = false
  /-- Blanks before a break would be lost. -/
  blanks : ∀ bs, gap = .blanks bs → bs = [] ∨ ∀ c r, cs = c :: r → isBreak c = false
  /-- So would be blanks after a break, and a line feed would be folded. -/
  breaks : ∀ first bs, gap = .breaks first bs →
    (∃ b, first = some b ∧ b ≠ '\n') ∧ ∀ r, cs ≠ ' ' :: r

namespace Continues

theorem space (h : Continues gap (' ' :: cs)) :
    gap.isBroken = false ∧ (gap.add ' ').isBroken = false
      ∧ (gap.add ' ').text = gap.text ++ [' '] ∧ Continues (gap.add ' ') cs := by
  cases gap with
  | breaks first bs => exact absurd rfl ((h.breaks first bs rfl).2 cs)
  | blanks bs =>
    obtain ⟨hbefore, hspaceBefore⟩ := anyAdjacent_cons_eq_false.mp h.spaceBefore
    refine ⟨rfl, rfl, rfl, ?_⟩
    exact
      { printable := fun d hd => h.printable d (List.mem_cons_of_mem _ hd)
        spaceBefore := hspaceBefore
        spaceAfter := (anyAdjacent_cons_eq_false.mp h.spaceAfter).2
        blanks := fun _ _ => .inr fun c r hcs => by simpa using hbefore c r hcs
        breaks := nofun }

theorem newline (h : Continues gap (c :: cs)) (hc : isBreak c = true) :
    (gap.add c).isBroken = true ∧ (gap.add c).text = gap.text ++ [c]
      ∧ Continues (gap.add c) cs := by
  have hne : c ≠ '\n' := (h.printable c List.mem_cons_self).2
  obtain ⟨hafter, hspaceAfter⟩ := anyAdjacent_cons_eq_false.mp h.spaceAfter
  have hrest : ∀ r, cs ≠ ' ' :: r := fun r hcs => by simpa [hc] using hafter ' ' r hcs
  have hcontinues : ∀ b bs, b ≠ '\n' → Continues (.breaks (some b) bs) cs := fun b bs hb =>
    { printable := fun d hd => h.printable d (List.mem_cons_of_mem c hd)
      spaceBefore := (anyAdjacent_cons_eq_false.mp h.spaceBefore).2
      spaceAfter := hspaceAfter
      blanks := nofun
      breaks := fun _ _ hgap => by
        obtain ⟨rfl, -⟩ := Gap.breaks.inj hgap
        exact ⟨⟨b, rfl, hb⟩, hrest⟩ }
  cases gap with
  | blanks bs =>
    rcases h.blanks bs rfl with rfl | hblanks
    · have hadd : (Gap.blanks []).add c = .breaks (some c) [] := by simp [Gap.add, hc]
      rw [hadd, Gap.text_breaks hne]
      exact ⟨rfl, rfl, hcontinues c [] hne⟩
    · exact absurd hc (ne_true_of_eq_false (hblanks c cs rfl))
  | breaks first bs =>
    obtain ⟨⟨b, rfl, hb⟩, -⟩ := h.breaks first bs rfl
    have hadd : (Gap.breaks (some b) bs).add c = .breaks (some b) (bs ++ [c]) := by
      simp [Gap.add, hc]
    rw [hadd, Gap.text_breaks hb, Gap.text_breaks hb]
    exact ⟨rfl, rfl, hcontinues b _ hb⟩

theorem visible (h : Continues gap (c :: cs)) : Continues .none cs where
  printable d hd := h.printable d (List.mem_cons_of_mem c hd)
  spaceBefore := (anyAdjacent_cons_eq_false.mp h.spaceBefore).2
  spaceAfter := (anyAdjacent_cons_eq_false.mp h.spaceAfter).2
  blanks _ hgap := .inl (Gap.blanks.inj hgap).symm
  breaks := nofun

end Continues

/-- **A text between single quotes is read to its end.** -/
theorem scan_body (hindent : 0 < indent) (h : Continues gap cs)
    (hk : gap.isBroken = true ∨ k.col ≠ 0) (hc : c ≠ '\x27') :
    scan (.inside gap) (k.place (body indent gap.isBroken cs ++ '\x27' :: c :: more))
      = some (gap.text ++ cs,
          (k.past (body indent gap.isBroken cs ++ ['\x27'])).place (c :: more)) := by
  induction cs generalizing k gap with
  | nil =>
    obtain ⟨hcol, hmargin⟩ := scan_margin ('\x27' :: c :: more) hindent hk
    rw [body, hmargin, scan_end hcol hc, List.append_nil, Cursor.past_append]
    rfl
  | cons d cs ih =>
    rw [body]
    by_cases hbreak : isBreak d = true
    · obtain ⟨hbroken, htext, hcontinues⟩ := h.newline hbreak
      have hread := ih (k := k.after d) hcontinues (.inl hbroken)
      have hspace : isSpace d = true := by simp [isSpace, hbreak]
      rw [hbroken, htext] at hread
      rw [if_pos hbreak, List.cons_append, scan_space hspace, hread]
      simp
    · rw [if_neg hbreak]
      by_cases hspace : d = ' '
      · subst hspace
        obtain ⟨hbroken, hadd, htext, hcontinues⟩ := h.space
        have hcol : (k.after ' ').col ≠ 0 := by
          rw [Cursor.after_col rfl]
          exact Nat.succ_ne_zero k.col
        have hread := ih hcontinues (.inr hcol)
        have hwrite : writeChar ' ' = [' '] := rfl
        rw [hadd, htext] at hread
        have hmargin : margin indent false = [] := rfl
        rw [hbroken, hwrite, hmargin, List.nil_append, List.singleton_append, List.cons_append,
          scan_space rfl, hread]
        simp
      · have hvisible : isSpace d = false := by
          have htab : d ≠ '\t' := ne_of_class (h.printable d List.mem_cons_self).1 rfl
          simp [isSpace, isBlank, hspace, htab, hbreak]
        have hbreak : isBreak d = false := eq_false_of_ne_true hbreak
        obtain ⟨hcol, hmargin⟩ :=
          scan_margin (writeChar d ++ (body indent false cs ++ '\x27' :: c :: more)) hindent hk
        have hread := ih h.visible (.inr (past_writeChar_col hbreak hcol))
        have hnone : Gap.none.isBroken = false := rfl
        rw [hnone] at hread
        rw [List.append_assoc, List.append_assoc, hmargin, scan_visible hvisible hcol, hread]
        simp [Cursor.past_append, Gap.text_none]

/-- **A text between single quotes is read back**, if it needs no escapes, holds no line feed and
has no space after a break. -/
theorem read_eq (hindent : 0 < indent) (hescapes : needsEscapes cs = false)
    (hfeed : cs.contains '\n' = false) (hafter : hasSpaceAfterBreak cs = false)
    (hk : k.col ≠ 0) (hc : c ≠ '\x27') :
    read (k.place (body indent false cs ++ '\x27' :: c :: more))
      = some (cs, (k.past (body indent false cs ++ ['\x27'])).place (c :: more)) := by
  simp only [needsEscapes, Bool.or_eq_false_iff, Bool.not_eq_false', List.all_eq_true] at hescapes
  have hne : ∀ d ∈ cs, d ≠ '\n' := by
    rintro d hd rfl
    exact Bool.false_ne_true (hfeed.symm.trans (List.contains_iff_mem.mpr hd))
  have hcontinues : Continues .none cs :=
    { printable := fun d hd => ⟨hescapes.1 d hd, hne d hd⟩
      spaceBefore := hescapes.2
      spaceAfter := hafter
      blanks := fun _ hgap => .inl (Gap.blanks.inj hgap).symm
      breaks := nofun }
  exact scan_body hindent hcontinues (.inr hk) hc

end SingleQuoted

/-! ## 2. Double quotes -/

namespace DoubleQuoted

open Style

variable {k : Cursor} {c : Char} {cs tail more : List Char} {gap : Gap}

/-! ### Escapes -/

/-- Every escape of one letter is read as what it was written for. -/
theorem lookup_escapes {letter : Char}
    (h : escapes.find? (fun e => e.2 == c) = some (letter, c)) :
    escapes.lookup letter = some c ∧ isBreak letter = false := by
  have hall : ∀ e ∈ escapes, escapes.lookup e.1 = some e.2 ∧ isBreak e.1 = false := by decide
  exact hall _ (List.mem_of_find?_eq_some h)

theorem codeDigits_succ (count n : Nat) :
    codeDigits (count + 1) n
      = Text.digit true (n / Nat.pow 16 count % 16) :: codeDigits count n := by
  rw [codeDigits, List.range_succ_eq_map, List.map_cons, List.map_map, codeDigits]
  refine congrArg _ (List.map_congr_left fun i _ => ?_)
  have hplace : count + 1 - 1 - (i + 1) = count - 1 - i := by omega
  simp only [Function.comp, Nat.succ_eq_add_one, hplace]

theorem scan_digit {left value n : Nat} (hn : n < 16) :
    scan (.code left value) (k.place (Text.digit true n :: more))
      = if left ≤ 1 then
          (ofCode? (16 * value + n)).bind fun c =>
            (scan (.inside .none) ((k.after (Text.digit true n)).place more)).map
              fun (cs, rest) => (c :: cs, rest)
        else
          scan (.code (left - 1) (16 * value + n)) ((k.after (Text.digit true n)).place more) := by
  rw [Cursor.place_cons, scan, Cursor.glyph_char, Text.digitValue?_digit true hn, Option.bind_some]

/-- One more digit in front. -/
theorem value_succ (left value n : Nat) :
    (16 * value + n / Nat.pow 16 (left + 1) % 16) * Nat.pow 16 (left + 1)
        + n % Nat.pow 16 (left + 1)
      = value * Nat.pow 16 (left + 1 + 1) + n % Nat.pow 16 (left + 1 + 1) := by
  have hmod : n % Nat.pow 16 (left + 1 + 1)
      = n % Nat.pow 16 (left + 1) + Nat.pow 16 (left + 1) * (n / Nat.pow 16 (left + 1) % 16) :=
    Nat.mod_pow_succ
  have hpow : Nat.pow 16 (left + 1 + 1) = Nat.pow 16 (left + 1) * 16 :=
    Nat.pow_succ 16 (left + 1)
  rw [hmod, hpow]
  grind

/-- **The digits of a code point are read as the code point.** -/
theorem scan_code (left value n : Nat) :
    scan (.code (left + 1) value) (k.place (codeDigits (left + 1) n ++ more))
      = (ofCode? (value * Nat.pow 16 (left + 1) + n % Nat.pow 16 (left + 1))).bind fun c =>
        (scan (.inside .none) ((k.past (codeDigits (left + 1) n)).place more)).map
          fun (cs, rest) => (c :: cs, rest) := by
  have hdigit : ∀ m : Nat, m % 16 < 16 := fun m => Nat.mod_lt m (by decide)
  induction left generalizing k value with
  | zero =>
    have hvalue : 16 * value + n / Nat.pow 16 0 % 16
        = value * Nat.pow 16 (0 + 1) + n % Nat.pow 16 (0 + 1) := by
      simp only [Nat.pow_eq, Nat.pow_zero, Nat.div_one, Nat.zero_add, Nat.pow_one]
      omega
    rw [codeDigits_succ, List.cons_append, scan_digit (hdigit _), if_pos (by omega), hvalue]
    rfl
  | succ left ih =>
    rw [codeDigits_succ, List.cons_append, scan_digit (hdigit _), if_neg (by omega),
      Nat.add_sub_cancel, ih, value_succ]
    rfl

theorem ofCode?_toNat (c : Char) : ofCode? c.toNat = some c := by
  have hvalid : c.toNat.isValidChar := c.valid
  rw [ofCode?, dif_pos hvalid]
  exact congrArg some (Char.ext rfl)

theorem scan_codeEscape {mark : Char} {count : Nat} (hbreak : isBreak mark = false)
    (hletter : escapes.lookup mark = none) (hcount : codeLengths.lookup mark = some (count + 1))
    (hc : c.toNat < Nat.pow 16 (count + 1)) :
    scan .escape (k.place (mark :: codeDigits (count + 1) c.toNat ++ more))
      = (scan (.inside .none)
          ((k.past (mark :: codeDigits (count + 1) c.toNat)).place more)).map
          fun (cs, rest) => (c :: cs, rest) := by
  rw [List.cons_append, Cursor.place_cons, scan, if_neg (by simp [hbreak]), Cursor.glyph_char,
    hletter]
  simp only [hcount, Option.bind_some]
  rw [scan_code, Nat.zero_mul, Nat.zero_add, Nat.mod_eq_of_lt hc, ofCode?_toNat, Option.bind_some]
  rfl

/-- **What is written for a character is read as the character.** -/
theorem scan_escape (hk : k.col ≠ 0) :
    scan (.inside gap) (k.place (escape c ++ more))
      = (scan (.inside .none) ((k.past (escape c)).place more)).map fun (cs, rest) =>
        (gap.text ++ c :: cs, rest) := by
  have hslash : ∀ r, scan (.inside gap) (k.place ('\\' :: r))
      = (scan .escape ((k.after '\\').place r)).map fun (cs, rest) => (gap.text ++ cs, rest) := by
    intro r
    have hend : atEnd (k.place ('\\' :: r)) = false := not_atEnd_of_col hk
    rw [Cursor.place_cons] at hend ⊢
    rw [scan, if_neg (by simp [hend]), if_neg (by simp [isSpace, isBlank, isBreak]),
      if_neg (by simp), if_pos (by simp)]
  unfold escape
  split
  · rename_i letter d hfind
    obtain rfl : d = c := by simpa using List.find?_some hfind
    obtain ⟨hlookup, hbreak⟩ := lookup_escapes hfind
    rw [List.cons_append, hslash, List.singleton_append, Cursor.place_cons, scan,
      if_neg (by simp [hbreak]), Cursor.glyph_char, hlookup]
    simp only [Option.map_map]
    rfl
  · have hvalid : c.toNat < Nat.pow 16 (7 + 1) := by
      have hc : c.toNat.isValidChar := c.valid
      rcases hc with hc | hc
      · exact Nat.lt_trans hc (by decide)
      · exact Nat.lt_trans hc.2 (by decide)
    split
    · rename_i hsmall
      rw [List.cons_append, hslash, scan_codeEscape rfl rfl rfl
        (Nat.lt_of_le_of_lt hsmall (by decide)), Option.map_map]
      rfl
    · split
      · rename_i hmiddle
        rw [List.cons_append, hslash, scan_codeEscape rfl rfl rfl
          (Nat.lt_of_le_of_lt hmiddle (by decide)), Option.map_map]
        rfl
      · rw [List.cons_append, hslash, scan_codeEscape rfl rfl rfl hvalid, Option.map_map]
        rfl

/-! ### Texts -/

/-- What is written for a character. -/
def writeChar (c : Char) : List Char := if isEscaped c then escape c else [c]

theorem writeDouble_eq (cs : List Char) :
    writeDouble cs = '\x22' :: cs.flatMap writeChar ++ ['\x22'] := rfl

theorem printable_codeDigits {d : Char} {count n : Nat} (h : d ∈ codeDigits count n) :
    isPrintable d = true ∧ isBreak d = false := by
  have hall : ∀ m ∈ List.range 16,
      isPrintable (Text.digit true m) = true ∧ isBreak (Text.digit true m) = false := by decide
  obtain ⟨i, -, rfl⟩ := List.mem_map.mp h
  exact hall _ (List.mem_range.mpr (Nat.mod_lt _ (by decide)))

theorem printable_letter {letter : Char}
    (h : escapes.find? (fun e => e.2 == c) = some (letter, c)) :
    isPrintable letter = true ∧ isBreak letter = false := by
  have hall : ∀ e ∈ escapes, (escapes.find? fun f => f.2 == e.2).all
      (fun f => isPrintable f.1 && !isBreak f.1) = true := by decide
  have hletter := hall _ (List.mem_of_find?_eq_some h)
  simpa [h] using hletter

theorem printable_escape {d : Char} (h : d ∈ escape c) :
    isPrintable d = true ∧ isBreak d = false := by
  have hslash : isPrintable '\\' = true ∧ isBreak '\\' = false := by decide
  have hmarks : ∀ mark ∈ ['x', 'u', 'U'], (isPrintable mark && !isBreak mark) = true :=
    List.all_eq_true.mp rfl
  unfold escape at h
  split at h
  · rename_i letter e hfind
    obtain rfl : e = c := by simpa using List.find?_some hfind
    rcases List.mem_cons.mp h with rfl | h
    · exact hslash
    · rw [List.mem_singleton.mp h]
      exact printable_letter hfind
  · have hcode : ∀ {mark : Char} {count : Nat}, mark ∈ ['x', 'u', 'U'] →
        d ∈ '\\' :: mark :: codeDigits count c.toNat →
        isPrintable d = true ∧ isBreak d = false := by
      intro mark count hmark hd
      rcases List.mem_cons.mp hd with rfl | hd
      · exact hslash
      · rcases List.mem_cons.mp hd with rfl | hd
        · simpa using hmarks d hmark
        · exact printable_codeDigits hd
    split at h
    · exact hcode (by decide) h
    · split at h
      · exact hcode (by decide) h
      · exact hcode (by decide) h

/-- All that is written for a character can be seen and stands on one line. -/
theorem printable_writeChar {d : Char} (h : d ∈ writeChar c) :
    isPrintable d = true ∧ isBreak d = false := by
  unfold writeChar at h
  split at h
  · exact printable_escape h
  · rename_i hescaped
    obtain rfl := List.mem_singleton.mp h
    simp only [isEscaped, Bool.or_eq_true, Bool.not_eq_true', not_or, Bool.not_eq_false,
      Bool.not_eq_true] at hescaped
    exact hescaped.1.1

/-- **A text between double quotes is read to its end.** -/
theorem scan_body (blanks : List Char) (hk : k.col ≠ 0) :
    scan (.inside (.blanks blanks)) (k.place (cs.flatMap writeChar ++ '\x22' :: more))
      = some (blanks ++ cs, (k.past (cs.flatMap writeChar ++ ['\x22'])).place more) := by
  induction cs generalizing k blanks with
  | nil =>
    have hend : atEnd (k.place ('\x22' :: more)) = false := not_atEnd_of_col hk
    rw [List.flatMap_nil, List.nil_append]
    rw [Cursor.place_cons] at hend ⊢
    rw [scan, if_neg (by simp [hend]), if_neg (by simp [isSpace, isBlank, isBreak]),
      if_pos (by simp)]
    simp [Gap.text]
  | cons c cs ih =>
    have hcol : (k.past (writeChar c)).col ≠ 0 := by
      have hline := Cursor.past_line_col (k := k) fun d (hd : d ∈ writeChar c) =>
        (printable_writeChar hd).2
      omega
    have hread : scan (.inside .none)
        ((k.past (writeChar c)).place (cs.flatMap writeChar ++ '\x22' :: more))
          = some (cs,
              ((k.past (writeChar c)).past (cs.flatMap writeChar ++ ['\x22'])).place more) :=
      ih [] hcol
    rw [List.flatMap_cons, List.append_assoc, List.append_assoc, Cursor.past_append]
    by_cases hescaped : isEscaped c = true
    · have hwrite : writeChar c = escape c := if_pos hescaped
      rw [hwrite] at hread ⊢
      rw [scan_escape hk, hread]
      rfl
    · have hwrite : writeChar c = [c] := if_neg hescaped
      simp only [isEscaped, Bool.or_eq_true, Bool.not_eq_true', not_or, Bool.not_eq_false,
        Bool.not_eq_true, beq_iff_eq] at hescaped
      obtain ⟨⟨⟨hprintable, hbreak⟩, hquote⟩, hslash⟩ := hescaped
      have hend : atEnd (k.place (c :: (cs.flatMap writeChar ++ '\x22' :: more))) = false :=
        not_atEnd_of_col hk
      rw [hwrite] at hread hcol ⊢
      rw [List.singleton_append]
      rw [Cursor.place_cons] at hend ⊢
      by_cases hspace : c = ' '
      · subst hspace
        have hblank : isSpace ' ' = true := rfl
        rw [scan, if_neg (by simp [hend]), if_pos (by simp [hblank])]
        exact (ih (blanks ++ [' ']) hcol).trans (by simp)
      · have htab : c ≠ '\t' := ne_of_class hprintable rfl
        rw [scan, if_neg (by simp [hend]),
          if_neg (by simp [isSpace, isBlank, hspace, htab, hbreak]), if_neg (by simp [hquote]),
          if_neg (by simp [hslash])]
        exact (congrArg _ hread).trans rfl

/-- **Any text is read back that stands between double quotes.** -/
theorem read_eq (hk : k.col ≠ 0) :
    read (k.place (cs.flatMap writeChar ++ '\x22' :: more))
      = some (cs, (k.past (cs.flatMap writeChar ++ ['\x22'])).place more) :=
  scan_body [] hk

end DoubleQuoted

end PluginArbiter.Yaml
