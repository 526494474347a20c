/-
# Block scalars are read back

A text on lines of its own is its lines, indented, and the line breaks at its end, about which the
header says what becomes of them.  So a text is split there (`exists_trailing`): what stands before
the last line breaks is read line by line, whatever is in it, and the breaks at the end are chomped
as the header asks.

Main statements:
* `BlockText.scan_lines`: indented lines are read as they were;
* `BlockText.read_yields`: a text on lines of its own is read back.
-/
import PluginArbiter.Proofs.Yaml.Cursor
import PluginArbiter.Yaml.BlockText

namespace PluginArbiter.Yaml.BlockText

open Style

variable {h : Header} {indent floor : Nat} {k : Cursor} {c : Char} {cs more : List Char}

/-! ## 1. The end of a text -/

/-- A text is what stands before its last line breaks, and these. -/
theorem exists_trailing (cs : List Char) : ∃ lines breaks, cs = lines ++ breaks
    ∧ (∀ b ∈ breaks, isBreak b = true) ∧ endsInBreak lines = false := by
  induction cs with
  | nil => exact ⟨[], [], rfl, nofun, rfl⟩
  | cons c cs ih =>
    obtain ⟨lines, breaks, rfl, hbreaks, hends⟩ := ih
    cases lines with
    | cons d lines =>
      exact ⟨c :: d :: lines, breaks, rfl, hbreaks, by simpa [endsInBreak] using hends⟩
    | nil =>
      by_cases hc : isBreak c = true
      · exact ⟨[], c :: breaks, rfl, List.forall_mem_cons.mpr ⟨hc, hbreaks⟩, rfl⟩
      · exact ⟨[c], breaks, rfl, hbreaks, by simpa [endsInBreak] using hc⟩

/-- The lines of a text. -/
def linesOf (indent : Nat) (fresh : Bool) (cs : List Char) : List Char :=
  indented indent (fun c => [c]) fresh cs

theorem linesOf_break {fresh : Bool} (hc : isBreak c = true) :
    linesOf indent fresh (c :: cs) = c :: linesOf indent true cs := by
  rw [linesOf, indented, if_pos hc]
  rfl

/-- Within a line a character stands where it is written. -/
theorem linesOf_within (hc : isBreak c = false) :
    linesOf indent false (c :: cs) = c :: linesOf indent false cs := by
  rw [linesOf, indented, if_neg (by simp [hc])]
  rfl

/-- The first character of a line stands behind the indentation. -/
theorem linesOf_first (hc : isBreak c = false) :
    linesOf indent true (c :: cs) = spaces indent ++ c :: linesOf indent false cs := by
  rw [linesOf, indented, if_neg (by simp [hc]), if_pos rfl, List.append_assoc]
  rfl

theorem linesOf_of_breaks {fresh : Bool} (hbreaks : ∀ b ∈ cs, isBreak b = true) :
    linesOf indent fresh cs = cs := by
  induction cs generalizing fresh with
  | nil => rfl
  | cons b cs ih =>
    obtain ⟨hb, hbreaks⟩ := List.forall_mem_cons.mp hbreaks
    rw [linesOf_break hb, ih hbreaks]

/-- Line breaks at the end are written as they are. -/
theorem linesOf_append {fresh : Bool} {breaks : List Char}
    (hbreaks : ∀ b ∈ breaks, isBreak b = true) :
    linesOf indent fresh (cs ++ breaks) = linesOf indent fresh cs ++ breaks := by
  induction cs generalizing fresh with
  | nil => exact linesOf_of_breaks hbreaks
  | cons c cs ih =>
    cases hc : isBreak c with
    | true => rw [List.cons_append, linesOf_break hc, linesOf_break hc, ih, List.cons_append]
    | false =>
      cases fresh with
      | false => rw [List.cons_append, linesOf_within hc, linesOf_within hc, ih, List.cons_append]
      | true =>
        rw [List.cons_append, linesOf_first hc, linesOf_first hc, ih, List.append_assoc,
          List.cons_append]

/-- Of a text that does not end in a line break the rest does not either, and there is a rest if the
text begins with a line break. -/
theorem endsInBreak_tail (h : endsInBreak (c :: cs) = false) :
    endsInBreak cs = false ∧ (isBreak c = true → cs ≠ []) := by
  cases cs with
  | nil =>
    have hc : isBreak c = false := by simpa [endsInBreak] using h
    exact ⟨rfl, fun hbreak => absurd (hbreak.symm.trans hc) (by simp)⟩
  | cons d cs => exact ⟨by simpa [endsInBreak] using h, fun _ => List.cons_ne_nil d cs⟩

/-! ## 2. Reading lines -/

/-- A line break after a line break is kept for later. -/
theorem scan_break {b : Breaks} (hc : isBreak c = true) :
    scan h indent (.inr b) (k.place (c :: more))
      = scan h indent (.inr { b with more := b.more ++ [c] }) ((k.after c).place more) := by
  have hspace : c ≠ ' ' := ne_of_class hc rfl
  have htab : c ≠ '\t' := ne_of_class hc rfl
  rw [Cursor.place_cons, scan, if_neg (by simp [hspace]), if_neg (by simp [htab]),
    if_pos (by simp [hc])]
  rfl

theorem scan_breaks {b : Breaks} {breaks : List Char} (hbreaks : ∀ b ∈ breaks, isBreak b = true) :
    scan h indent (.inr b) (k.place (breaks ++ more))
      = scan h indent (.inr { b with more := b.more ++ breaks })
          ((k.past breaks).place more) := by
  induction breaks generalizing k b with
  | nil => simp
  | cons c breaks ih =>
    obtain ⟨hc, hbreaks⟩ := List.forall_mem_cons.mp hbreaks
    rw [List.cons_append, scan_break hc, ih hbreaks]
    simp

/-- The indentation is passed over. -/
theorem scan_spaces {b : Breaks} (n : Nat) (hn : k.col + n ≤ indent) :
    scan h indent (.inr b) (k.place (spaces n ++ more))
      = scan h indent (.inr b) ((k.past (spaces n)).place more) := by
  induction n generalizing k with
  | zero => rfl
  | succ n ih =>
    have hcol : k.col < indent := by omega
    have hafter : (k.after ' ').col = k.col + 1 := Cursor.after_col rfl
    rw [spaces, List.replicate_succ, List.cons_append, Cursor.place_cons, scan,
      if_pos (by simp [hcol])]
    exact ih (by omega)

/-- A line break ends the line. -/
theorem scan_line_break {wide : Bool} (hc : isBreak c = true) :
    scan h indent (.inl wide) (k.place (c :: more))
      = scan h indent (.inr { first := [c], wide }) ((k.after c).place more) := by
  rw [Cursor.place_cons, scan, if_pos (by simp [hc])]
  rfl

theorem scan_within {wide : Bool} (hc : isBreak c = false) :
    scan h indent (.inl wide) (k.place (c :: more))
      = (scan h indent (.inl wide) ((k.after c).place more)).map
          fun (ds, rest) => (c :: ds, rest) := by
  rw [Cursor.place_cons, scan, if_neg (by simp [hc])]
  rfl

/-- The first character of a line comes after the line breaks before it. -/
theorem scan_first {b : Breaks} (hfolded : h.folded = false) (hk : k.col = 0)
    (hc : isBreak c = false) :
    scan h indent (.inr b) (k.place (spaces indent ++ c :: more))
      = (scan h indent (.inl (isBlank c)) (((k.past (spaces indent)).after c).place more)).map
          fun (ds, rest) => (b.first ++ b.more ++ c :: ds, rest) := by
  have hindent : (k.past (spaces indent)).col = indent := by
    rw [(k.past_spaces indent).1, hk, Nat.zero_add]
  have htext : b.text false c = b.first ++ b.more := by simp [Breaks.text]
  rw [scan_spaces indent (by omega), Cursor.place_cons, scan, if_neg (by simp [hindent]),
    if_neg (by simp [hindent]), if_neg (by simp [hc]), if_pos (by simp [hindent]), hfolded,
    Cursor.glyph_char, htext]

/-- **Indented lines are read as they were**, from within a line and from the start of one. -/
theorem scan_lines (indent : Nat) (more : List Char) (hfolded : h.folded = false)
    (hends : endsInBreak cs = false) :
    (∀ (k : Cursor) (wide : Bool), ∃ wide', scan h indent (.inl wide)
        (k.place (linesOf indent false cs ++ more))
      = (scan h indent (.inl wide') ((k.past (linesOf indent false cs)).place more)).map
          fun (ds, rest) => (cs ++ ds, rest)) ∧
    ∀ (k : Cursor) (b : Breaks), cs ≠ [] → k.col = 0 → ∃ wide', scan h indent (.inr b)
        (k.place (linesOf indent true cs ++ more))
      = (scan h indent (.inl wide') ((k.past (linesOf indent true cs)).place more)).map
          fun (ds, rest) => (b.first ++ b.more ++ cs ++ ds, rest) := by
  -- a line break leads from the one to the other and the next character back, so both go through
  -- one induction
  induction cs with
  | nil => exact ⟨fun k wide => ⟨wide, by simp [linesOf, indented]⟩, fun _ _ hne => absurd rfl hne⟩
  | cons c cs ih =>
    obtain ⟨hrest, hne⟩ := endsInBreak_tail hends
    obtain ⟨hwithin, hfirst⟩ := ih hrest
    cases hc : isBreak c with
    | true =>
      have hfresh : ∀ k : Cursor, (k.after c).col = 0 := fun k => (Cursor.after_of_break hc).col
      constructor
      · intro k wide
        obtain ⟨wide', hread⟩ := hfirst (k.after c) { first := [c], wide } (hne hc) (hfresh k)
        refine ⟨wide', ?_⟩
        rw [linesOf_break hc, List.cons_append, scan_line_break hc]
        exact hread
      · intro k b _ hk
        obtain ⟨wide', hread⟩ :=
          hfirst (k.after c) { b with more := b.more ++ [c] } (hne hc) (hfresh k)
        refine ⟨wide', ?_⟩
        rw [linesOf_break hc, List.cons_append, scan_break hc, hread]
        simp
    | false =>
      constructor
      · intro k wide
        obtain ⟨wide', hread⟩ := hwithin (k.after c) wide
        refine ⟨wide', ?_⟩
        rw [linesOf_within hc, List.cons_append, scan_within hc, hread, Option.map_map]
        rfl
      · intro k b _ hk
        obtain ⟨wide', hread⟩ := hwithin ((k.past (spaces indent)).after c) (isBlank c)
        refine ⟨wide', ?_⟩
        rw [linesOf_first hc, List.append_assoc, List.cons_append, scan_first hfolded hk hc, hread,
          Option.map_map, Cursor.past_append]
        simp [Function.comp_def]

/-! ## 3. The end -/

/-- What is to become of the line breaks at the end, so that they are read as they were. -/
def chompingOf : List Char → List Char → Chomping
  | _, [] => .strip
  | _ :: _, [_] => .clip
  | _, _ => .keep

/-- The text ends where the next token is not indented far enough. -/
theorem scan_end {allowed : Nat → Char → Prop} {b : Breaks} (hmore : Follows allowed more)
    (hallowed : ∀ col c, allowed col c → col < indent) (hk : k.IsFresh) :
    Yields (scan h indent (.inr b) (k.place more)) (chomp h.chomping b) (k.place more) := by
  cases hmore with
  | nothing => exact .of_some _ []
  | @token col c r isAllowed starts =>
    obtain ⟨hcol, -⟩ := hk.past_spaces col
    have hleft := hallowed col c isAllowed
    have hspace := starts.isSpace
    simp only [isSpace, isBlank, Bool.or_eq_false_iff] at hspace
    refine ⟨_, ?_, (skip_place_spaces col).symm⟩
    have hfar : k.col + col ≤ indent := by
      rw [hk.col]
      omega
    rw [scan_spaces col hfar, Cursor.place_cons, scan, if_neg (by simp [hspace]),
      if_neg (by simp [hspace]), if_neg (by simp [hspace]), if_neg]
    simp [hcol, Nat.ne_of_lt hleft]

/-- What ends the last line. -/
def closing (cs : List Char) : List Char := if endsInBreak cs then [] else ['\n']

/-- What is written ends a line. -/
theorem endsInBreak_linesOf (indent : Nat) (fresh : Bool) (cs : List Char) :
    endsInBreak (linesOf indent fresh cs ++ closing cs) = true := by
  rw [closing]
  split
  · rename_i hcs
    obtain ⟨lines, breaks, rfl, hbreaks, hends⟩ := exists_trailing cs
    have hne : breaks ≠ [] := by
      rintro rfl
      rw [List.append_nil, hends] at hcs
      exact nomatch hcs
    rw [List.append_nil, linesOf_append hbreaks]
    exact endsInBreak_append (endsInBreak_of_breaks hbreaks hne)
  · exact endsInBreak_append rfl

/-- The line breaks after the last line are read as they were. -/
theorem scan_close (wide : Bool) {allowed : Nat → Char → Prop} {breaks : List Char}
    (hchomp : h.chomping = chompingOf (c :: cs) breaks)
    (hbreaks : ∀ b ∈ breaks, isBreak b = true) (hends : endsInBreak (c :: cs) = false)
    (hmore : Follows allowed more) (hallowed : ∀ col c, allowed col c → col < indent) :
    Yields (scan h indent (.inl wide) (k.place (breaks ++ closing (c :: cs ++ breaks) ++ more)))
      breaks ((k.past (breaks ++ closing (c :: cs ++ breaks))).place more) := by
  cases breaks with
  | nil =>
    have hclosing : closing (c :: cs ++ []) = ['\n'] := by simp [closing, hends]
    have hfeed : isBreak '\n' = true := rfl
    have hread := scan_end (h := h) (b := { first := ['\n'], wide }) hmore hallowed
      (Cursor.after_of_break (k := k) hfeed)
    rw [hchomp] at hread
    rw [hclosing, List.nil_append, List.singleton_append, scan_line_break hfeed]
    exact hread
  | cons b breaks =>
    have hclosing : closing (c :: cs ++ b :: breaks) = [] :=
      if_pos (endsInBreak_append (endsInBreak_of_breaks hbreaks (List.cons_ne_nil b breaks)))
    have hfresh : (k.past (b :: breaks)).IsFresh :=
      Cursor.past_isFresh (endsInBreak_of_breaks hbreaks (List.cons_ne_nil b breaks))
    obtain ⟨hb, hbreaks⟩ := List.forall_mem_cons.mp hbreaks
    have hread := scan_end (h := h) (b := { first := [b], more := breaks, wide }) hmore hallowed
      hfresh
    rw [hclosing, List.append_nil, List.cons_append, scan_line_break hb, scan_breaks hbreaks]
    cases breaks <;> · rw [hchomp] at hread; exact hread

/-- **The text is read to its end**, with the line breaks there. -/
theorem scan_yields {allowed : Nat → Char → Prop} {lines breaks : List Char}
    (hfolded : h.folded = false) (hchomp : h.chomping = chompingOf lines breaks)
    (hbreaks : ∀ b ∈ breaks, isBreak b = true) (hends : endsInBreak lines = false)
    (hne : lines ++ breaks ≠ []) (hk : k.IsFresh) (hmore : Follows allowed more)
    (hallowed : ∀ col c, allowed col c → col < indent) :
    Yields (scan h indent (.inr {})
        (k.place (linesOf indent true (lines ++ breaks) ++ closing (lines ++ breaks) ++ more)))
      (lines ++ breaks)
      ((k.past
        (linesOf indent true (lines ++ breaks) ++ closing (lines ++ breaks))).place more) := by
  cases lines with
  | nil =>
    have hclosing : closing ([] ++ breaks) = [] := if_pos (endsInBreak_of_breaks hbreaks hne)
    have hfresh : (k.past breaks).IsFresh := Cursor.past_isFresh (endsInBreak_of_breaks hbreaks hne)
    have hread := scan_end (h := h) (b := { more := breaks }) hmore hallowed hfresh
    rw [hclosing, List.nil_append, linesOf_of_breaks hbreaks, List.append_nil, scan_breaks hbreaks]
    have hkeep : h.chomping = .keep := by
      rw [hchomp]
      obtain ⟨b, breaks, rfl⟩ := List.exists_cons_of_ne_nil hne
      cases breaks <;> rfl
    rw [hkeep] at hread
    exact hread
  | cons c lines =>
    obtain ⟨wide, hread⟩ := (scan_lines (h := h) indent
      (breaks ++ closing (c :: lines ++ breaks) ++ more) hfolded hends).2 k {}
        (List.cons_ne_nil c lines) hk.col
    have hrest := scan_close (k := k.past (linesOf indent true (c :: lines))) wide hchomp hbreaks
      hends hmore hallowed
    rw [linesOf_append hbreaks, List.append_assoc _ breaks, List.append_assoc, hread,
      Cursor.past_append]
    exact hrest.map fun ds => c :: lines ++ ds

/-! ## 4. The header -/

/-- Whether the indentation of a text cannot be seen from its first line. -/
def needsHint (cs : List Char) : Bool := cs.head?.any fun c => c == ' ' || isBreak c

/-- The indicators behind the bar. -/
def indicatorsOf (hint : Bool) (chomping : Chomping) : List Char :=
  (if hint then ['2'] else []) ++
    match chomping with
    | .strip => ['-']
    | .clip => []
    | .keep => ['+']

/-- What the indicators say. -/
def headerOf (hint : Bool) (chomping : Chomping) : Header :=
  { folded := false, chomping, indent := if hint then some 2 else none }

theorem indicators_eq (hint : Bool) (chomping : Chomping) :
    indicators { folded := false } false (k.place (indicatorsOf hint chomping ++ '\n' :: more))
      = some (headerOf hint chomping,
          (k.past (indicatorsOf hint chomping)).place ('\n' :: more)) := by
  cases hint <;> cases chomping <;> rfl

theorem afterHeader_eq :
    afterHeader (k.place ('\n' :: more)) = some ((k.after '\n').place more) := rfl

theorem all_getLast? (cs : List Char) :
    cs.getLast?.all isBreak = (cs.isEmpty || endsInBreak cs) := by
  rw [endsInBreak]
  cases hlast : cs.getLast? with
  | none => simp [List.getLast?_eq_none_iff.mp hlast]
  | some c =>
    have hne : cs.isEmpty = false := by
      cases cs with
      | nil => exact absurd hlast (by simp)
      | cons d cs => rfl
    simp [hne]

/-- The sign of a text whose last character and the one before it are given. -/
theorem literalHeader_concat {last : Char} :
    literalHeader (cs ++ [last]) = '|' :: indicatorsOf (needsHint (cs ++ [last]))
      (if isBreak last then if cs.getLast?.all isBreak then .keep else .clip else .strip) := by
  rw [literalHeader, List.reverse_append, List.reverse_singleton, List.singleton_append]
  simp only [List.head?_reverse]
  unfold indicatorsOf needsHint
  cases isBreak last <;> cases cs.getLast?.all isBreak <;> rfl

/-- **The header says what is to become of the line breaks.** -/
theorem literalHeader_eq {lines breaks : List Char} (hbreaks : ∀ b ∈ breaks, isBreak b = true)
    (hends : endsInBreak lines = false) (hne : lines ++ breaks ≠ []) :
    literalHeader (lines ++ breaks)
      = '|' :: indicatorsOf (needsHint (lines ++ breaks)) (chompingOf lines breaks) := by
  rcases List.eq_nil_or_concat breaks with rfl | ⟨breaks, last, rfl⟩
  · rw [List.append_nil] at hne ⊢
    rcases List.eq_nil_or_concat lines with rfl | ⟨lines, last, rfl⟩
    · exact absurd rfl hne
    · have hlast : isBreak last = false := by simpa [endsInBreak] using hends
      rw [List.concat_eq_append, literalHeader_concat, hlast]
      simp [chompingOf]
  · have hlast : isBreak last = true := hbreaks last (by simp)
    have hchomp : chompingOf lines (breaks.concat last)
        = if (lines ++ breaks).getLast?.all isBreak then .keep else .clip := by
      rw [all_getLast?]
      cases breaks with
      | nil =>
        rw [List.append_nil, hends, Bool.or_false]
        cases lines <;> rfl
      | cons b breaks =>
        have hbefore : endsInBreak (lines ++ b :: breaks) = true :=
          endsInBreak_append (endsInBreak_of_breaks
            (fun d hd => hbreaks d (by rw [List.concat_eq_append]; exact List.mem_append_left _ hd))
            (List.cons_ne_nil b breaks))
        rw [hbefore, Bool.or_true, if_pos rfl]
        cases lines <;> cases breaks <;> rfl
    rw [hchomp, List.concat_eq_append, ← List.append_assoc, literalHeader_concat, hlast]
    rfl

/-- The indentation is found by looking at the first line. -/
theorem leadingIndent_spaces (more : List Char) (widest n : Nat) (hspace : c ≠ ' ')
    (htab : c ≠ '\t') (hbreak : isBreak c = false) (hwidest : widest ≤ k.col) :
    leadingIndent widest (k.place (spaces n ++ c :: more))
      = some (if n = 0 then widest else k.col + n) := by
  induction n generalizing k widest with
  | zero =>
    rw [spaces, List.replicate_zero, List.nil_append, Cursor.place_cons, leadingIndent,
      if_neg (by simp [hspace]), if_neg (by simp [hbreak]), if_neg (by simp [htab])]
    rfl
  | succ n ih =>
    have hcol : (k.after ' ').col = k.col + 1 := Cursor.after_col rfl
    have hmax : max widest (k.col + 1) = k.col + 1 := by omega
    have hrest := ih (k := k.after ' ') (k.col + 1) (by omega)
    rw [spaces, List.replicate_succ, List.cons_append, Cursor.place_cons, leadingIndent,
      if_pos (by simp), Cursor.glyph_col, hmax]
    refine hrest.trans ?_
    rw [hcol]
    split <;> simp <;> omega

theorem indentOf_eq (hcs : cs ≠ []) (htab : '\t' ∉ cs) (hindent : indent = floor + 1)
    (hfloor : 0 < floor) (hk : k.IsFresh) (chomping : Chomping) (more : List Char) :
    indentOf (headerOf (needsHint cs) chomping) floor (k.place (linesOf indent true cs ++ more))
      = some indent := by
  by_cases hhint : needsHint cs = true
  · rw [headerOf, indentOf, if_pos hhint]
    exact congrArg some (by omega)
  · obtain ⟨c, cs, rfl⟩ := List.exists_cons_of_ne_nil hcs
    simp only [needsHint, List.head?_cons, Option.any_some, Bool.or_eq_true, beq_iff_eq,
      not_or] at hhint
    obtain ⟨hspace, hbreak⟩ := hhint
    have htab : c ≠ '\t' := fun heq => htab (heq ▸ List.mem_cons_self)
    have hline : linesOf indent true (c :: cs) = spaces indent ++ c :: linesOf indent false cs := by
      rw [linesOf, indented, if_neg hbreak, if_pos rfl, List.append_assoc]
      rfl
    have hleading := leadingIndent_spaces (k := k) (linesOf indent false cs ++ more) 0
      indent hspace htab (eq_false_of_ne_true hbreak) (Nat.zero_le _)
    have hhint : needsHint (c :: cs) = false := by simp [needsHint, hspace, hbreak]
    rw [headerOf, indentOf, hhint, hline, List.append_assoc, List.cons_append]
    rw [if_neg (by omega), hk.col, Nat.zero_add] at hleading
    have hmax : max (max indent floor) 1 = indent := by omega
    rw [hleading]
    exact congrArg some hmax

/-- Behind the header the indentation is found, and the lines are read. -/
theorem read_eq (hint : Bool) (chomping : Chomping) :
    read floor (k.place ('|' :: indicatorsOf hint chomping ++ ['\n'] ++ more))
      = (indentOf (headerOf hint chomping) floor
          ((k.past ('|' :: indicatorsOf hint chomping ++ ['\n'])).place more)).bind fun indent =>
        scan (headerOf hint chomping) indent (.inr {})
          ((k.past ('|' :: indicatorsOf hint chomping ++ ['\n'])).place more) := by
  have hfolded : ((k.glyph '|').char == '>') = false := rfl
  rw [List.append_assoc, List.cons_append, List.singleton_append, Cursor.place_cons, read, hfolded,
    indicators_eq]
  simp only [Option.bind_eq_bind, Option.bind_some, afterHeader_eq, List.cons_append,
    Cursor.past_cons, Cursor.past_append, Cursor.past_nil]

/-- **A text on lines of its own is read back**, if it needs no escapes. -/
theorem read_yields {allowed : Nat → Char → Prop} (hcs : cs ≠ [])
    (hescapes : needsEscapes cs = false) (hindent : indent = floor + 1) (hfloor : 0 < floor)
    (hmore : Follows allowed more) (hallowed : ∀ col c, allowed col c → col < floor) :
    Yields (read floor (k.place (writeLiteral indent cs ++ more))) cs
      ((k.past (writeLiteral indent cs)).place more) := by
  obtain ⟨lines, breaks, rfl, hbreaks, hends⟩ := exists_trailing cs
  simp only [needsEscapes, Bool.or_eq_false_iff, Bool.not_eq_false', List.all_eq_true] at hescapes
  have htab : '\t' ∉ lines ++ breaks := fun hmem => nomatch hescapes.1 _ hmem
  generalize hhint : needsHint (lines ++ breaks) = hint
  have hwrite : writeLiteral indent (lines ++ breaks)
      = '|' :: indicatorsOf hint (chompingOf lines breaks) ++ ['\n']
        ++ (linesOf indent true (lines ++ breaks) ++ closing (lines ++ breaks)) := by
    rw [writeLiteral, literalHeader_eq hbreaks hends hcs, hhint]
    simp [linesOf, closing]
  have hfresh : (k.past ('|' :: indicatorsOf hint (chompingOf lines breaks) ++ ['\n'])).IsFresh :=
    Cursor.past_isFresh (endsInBreak_append rfl)
  have hindentOf := indentOf_eq hcs htab hindent hfloor hfresh (chompingOf lines breaks)
    (closing (lines ++ breaks) ++ more)
  rw [hhint] at hindentOf
  have hread := scan_yields (h := headerOf hint (chompingOf lines breaks)) rfl rfl hbreaks hends hcs
    hfresh hmore fun col c hc => Nat.lt_trans (hallowed col c hc) (by omega : floor < indent)
  rw [← List.append_assoc] at hindentOf
  rw [hwrite, Cursor.past_append, List.append_assoc _ _ more, read_eq, hindentOf]
  exact hread

end PluginArbiter.Yaml.BlockText
