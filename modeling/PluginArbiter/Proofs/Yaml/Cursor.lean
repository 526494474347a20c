/-
# Cursors

A reader sees characters with their places, a writer knows characters only.  A cursor is the place
of the next character; `k.place cs` are the characters of `cs` with their places from the cursor on,
and `k.past cs` is the cursor behind them.  With these, what is read of a text can be stated of its
parts.

What a reader takes depends on what comes after it.  After a value nothing comes, or the next token
at the start of a line (`Follows`); readers may stop anywhere before that token, since all of them
skip to it first (`Yields`).

Main statements:
* `Cursor.past_append`: a text is passed part by part;
* `skip_place_indented`: what is skipped before a token on a line of its own is its indentation;
* `Follows.skip_eq`: skipping leads to the next token.
-/
import PluginArbiter.Proofs.Document.Regular
import PluginArbiter.Yaml.Style

namespace PluginArbiter.Yaml

/-! ## 1. Cursors -/

/-- The place of the next character. -/
structure Cursor where
  line : Nat
  col : Nat
  offset : Nat
  leads : Bool

namespace Cursor

/-- A character at the cursor. -/
def glyph (k : Cursor) (c : Char) : Glyph :=
  { char := c, line := k.line, col := k.col, offset := k.offset, leads := k.leads }

/-- The cursor behind a character. -/
def after (k : Cursor) (c : Char) : Cursor :=
  if isBreak c then
    { line := k.line + 1, col := 0, offset := k.offset + c.utf8Size, leads := true }
  else
    { line := k.line, col := k.col + 1, offset := k.offset + c.utf8Size,
      leads := k.leads && (c == ' ' || isMarkAt k.col c) }

/-- The cursor behind a text. -/
def past (k : Cursor) (cs : List Char) : Cursor := cs.foldl after k

/-- A text at the cursor. -/
def place (k : Cursor) (cs : List Char) : List Glyph := locate k.line k.col k.offset k.leads cs

/-- A line begins here. -/
structure IsFresh (k : Cursor) : Prop where
  col : k.col = 0
  leads : k.leads = true

variable {k : Cursor} {c : Char}

@[simp] theorem glyph_char : (k.glyph c).char = c := rfl

@[simp] theorem glyph_col : (k.glyph c).col = k.col := rfl

@[simp] theorem glyph_leads : (k.glyph c).leads = k.leads := rfl

@[simp] theorem place_nil : k.place [] = [] := rfl

theorem place_cons {r : List Char} : k.place (c :: r) = k.glyph c :: (k.after c).place r := by
  simp only [place, locate, after]
  split <;> rfl

@[simp] theorem past_nil : k.past [] = k := rfl

@[simp] theorem past_cons {r : List Char} : k.past (c :: r) = (k.after c).past r := rfl

/-- **A text is passed part by part.** -/
theorem past_append {cs ds : List Char} : k.past (cs ++ ds) = (k.past cs).past ds :=
  List.foldl_append

theorem length_place {cs : List Char} : (k.place cs).length = cs.length := by
  induction cs generalizing k with
  | nil => rfl
  | cons c cs ih => rw [place_cons, List.length_cons, ih, List.length_cons]

/-! ### Within a line and at its end -/

theorem after_of_break (h : isBreak c = true) : (k.after c).IsFresh := by
  rw [after, if_pos h]
  exact ⟨rfl, rfl⟩

theorem after_col (h : isBreak c = false) : (k.after c).col = k.col + 1 := by simp [after, h]

theorem after_line (h : isBreak c = false) : (k.after c).line = k.line := by simp [after, h]

theorem after_space_leads : (k.after ' ').leads = k.leads := by
  simp [after, show isBreak ' ' = false from rfl]

/-- A line that has begun is led by no other character. -/
theorem after_leads (h : isBreak c = false) (hk : k.leads = false) : (k.after c).leads = false := by
  simp [after, h, hk]

/-- What is neither a space nor a mark begins its line. -/
theorem after_leads_of_visible (h : isBreak c = false) (hspace : c ≠ ' ')
    (hmark : c ≠ byteOrderMark) : (k.after c).leads = false := by
  simp [after, h, hspace, hmark, isMarkAt]

/-- A text without line breaks stays in its line. -/
theorem past_line_col {cs : List Char} (h : ∀ c ∈ cs, isBreak c = false) :
    (k.past cs).line = k.line ∧ (k.past cs).col = k.col + cs.length := by
  induction cs generalizing k with
  | nil => exact ⟨rfl, rfl⟩
  | cons c cs ih =>
    have hc := h c List.mem_cons_self
    obtain ⟨hline, hcol⟩ := ih (k := k.after c) fun d hd => h d (List.mem_cons_of_mem c hd)
    rw [past_cons, hline, hcol, after_line hc, after_col hc, List.length_cons]
    exact ⟨rfl, by omega⟩

theorem past_leads {cs : List Char} (h : ∀ c ∈ cs, isBreak c = false) (hk : k.leads = false) :
    (k.past cs).leads = false := by
  induction cs generalizing k with
  | nil => exact hk
  | cons c cs ih =>
    exact ih (fun d hd => h d (List.mem_cons_of_mem c hd)) (after_leads (h c List.mem_cons_self) hk)

theorem past_spaces (n : Nat) :
    (k.past (Style.spaces n)).col = k.col + n ∧ (k.past (Style.spaces n)).leads = k.leads := by
  induction n generalizing k with
  | zero => exact ⟨rfl, rfl⟩
  | succ n ih =>
    obtain ⟨hcol, hleads⟩ := ih (k := k.after ' ')
    rw [Style.spaces, List.replicate_succ, past_cons]
    rw [Style.spaces] at hcol hleads
    rw [hcol, hleads, after_space_leads, after_col rfl]
    exact ⟨by omega, rfl⟩

/-- Where a line begins, the column is the number of spaces. -/
theorem IsFresh.past_spaces (hk : k.IsFresh) (n : Nat) :
    (k.past (Style.spaces n)).col = n ∧ (k.past (Style.spaces n)).leads = true := by
  obtain ⟨hcol, hleads⟩ := k.past_spaces n
  rw [hcol, hleads, hk.col, hk.leads, Nat.zero_add]
  exact ⟨rfl, rfl⟩

/-- Behind a text that ends a line a line begins. -/
theorem past_isFresh {cs : List Char} (h : Style.endsInBreak cs = true) : (k.past cs).IsFresh := by
  rcases List.eq_nil_or_concat cs with rfl | ⟨cs, c, rfl⟩
  · exact absurd h Bool.false_ne_true
  · rw [List.concat_eq_append, Style.endsInBreak, List.getLast?_concat, Option.any_some] at h
    rw [List.concat_eq_append, past_append]
    exact after_of_break h

end Cursor

/-! ## 2. Tokens -/

/-- A token of the layout begins here: the name of a field, or a dash before a space. -/
inductive StartsToken : List Char → Prop
  | name {c : Char} {r : List Char} (isLetter : Document.isLetter c = true) : StartsToken (c :: r)
  | dash {r : List Char} : StartsToken ('-' :: ' ' :: r)

/-- What readers pass over, or take for a comment. -/
def isPassedOver (c : Char) : Bool := isSpace c || c == '#' || c == byteOrderMark

variable {k : Cursor} {c : Char} {r : List Char}

theorem isBreak_of_not_isPassedOver (h : isPassedOver c = false) : isBreak c = false := by
  simp only [isPassedOver, isSpace, Bool.or_eq_false_iff] at h
  exact h.1.1.2

/-- Nothing is skipped where a token begins. -/
theorem skip_place_cons {inBrackets : Bool} (h : isPassedOver c = false) :
    skip inBrackets (k.place (c :: r)) = k.place (c :: r) := by
  simp only [isPassedOver, isSpace, isBlank, Bool.or_eq_false_iff, beq_eq_false_iff_ne] at h
  obtain ⟨⟨⟨⟨hspace, htab⟩, hbreak⟩, hcomment⟩, hmark⟩ := h
  rw [Cursor.place_cons, skip, skipFrom]
  simp [hspace, htab, hbreak, hcomment, hmark, isMarkAt]

theorem skip_place_space :
    skip false (k.place (' ' :: r)) = skip false ((k.after ' ').place r) := by
  rw [Cursor.place_cons, skip, skipFrom]
  rfl

theorem skip_place_break (h : isBreak c = true) :
    skip false (k.place (c :: r)) = skip false ((k.after c).place r) := by
  have hcomment : c ≠ '#' := fun heq => by rw [heq] at h; exact absurd h (by decide)
  rw [Cursor.place_cons, skip, skipFrom]
  simp [hcomment, h, skip]

theorem skip_place_spaces (n : Nat) :
    skip false (k.place (Style.spaces n ++ r))
      = skip false ((k.past (Style.spaces n)).place r) := by
  induction n generalizing k with
  | zero => rfl
  | succ n ih =>
    rw [Style.spaces, List.replicate_succ, List.cons_append, skip_place_space, Cursor.past_cons]
    exact ih

/-- What is skipped before a token on a line of its own is its indentation. -/
theorem skip_place_indented {n : Nat} (h : isPassedOver c = false) :
    skip false (k.place (Style.spaces n ++ c :: r)) = (k.past (Style.spaces n)).place (c :: r) := by
  rw [skip_place_spaces, skip_place_cons h]

/-- A document marker stands at the start of a line. -/
theorem col_char_of_atMarker {mark : Char} (h : atMarker mark (k.place (c :: r)) = true) :
    k.col = 0 ∧ c = mark := by
  rw [Cursor.place_cons] at h
  unfold atMarker at h
  split at h
  · rename_i heq
    obtain ⟨rfl, -⟩ := List.cons.inj heq
    simp only [Cursor.glyph_col, Cursor.glyph_char, Bool.and_eq_true, beq_iff_eq] at h
    exact ⟨h.1.1.1.1, h.1.1.1.2⟩
  · exact absurd h Bool.false_ne_true

theorem not_atMarker_of_char {mark : Char} (h : c ≠ mark) :
    atMarker mark (k.place (c :: r)) = false :=
  eq_false_of_ne_true fun hmarker => h (col_char_of_atMarker hmarker).2

theorem not_atEnd_of_col (h : k.col ≠ 0) : atEnd (k.place (c :: r)) = false := by
  have hmarker : ∀ mark, atMarker mark (k.place (c :: r)) = false := fun _ =>
    eq_false_of_ne_true fun hmarker => h (col_char_of_atMarker hmarker).1
  rw [atEnd, hmarker, hmarker, Bool.or_false]

/-- A class of characters tells a character in it from one outside. -/
theorem ne_of_class {p : Char → Bool} {c d : Char} (hc : p c = true) (hd : p d = false) : c ≠ d :=
  fun heq => Bool.false_ne_true (hd.symm.trans (heq ▸ hc))

theorem isPassedOver_of_isLetter (h : Document.isLetter c = true) : isPassedOver c = false := by
  have hne : ∀ d, Document.isLetter d = false → c ≠ d := fun d => ne_of_class h
  simp [isPassedOver, isSpace, isBlank, isBreak, hne ' ' rfl, hne '\t' rfl, hne '\n' rfl,
    hne '\u2028' rfl, hne '\u2029' rfl, hne '#' rfl, hne byteOrderMark rfl]

namespace StartsToken

theorem isPassedOver (h : StartsToken (c :: r)) : isPassedOver c = false := by
  cases h with
  | name isLetter => exact isPassedOver_of_isLetter isLetter
  | dash => rfl

theorem isSpace (h : StartsToken (c :: r)) : isSpace c = false := by
  have hpassed := h.isPassedOver
  simp only [Yaml.isPassedOver, Bool.or_eq_false_iff] at hpassed
  exact hpassed.1.1

theorem ne_colon (h : StartsToken (c :: r)) : c ≠ ':' := by
  cases h with
  | name isLetter => exact ne_of_class isLetter rfl
  | dash => decide

/-- A token is no document marker. -/
theorem not_atEnd (h : StartsToken (c :: r)) : atEnd (k.place (c :: r)) = false := by
  cases h with
  | name isLetter =>
    rw [atEnd, not_atMarker_of_char (ne_of_class isLetter rfl),
      not_atMarker_of_char (ne_of_class isLetter rfl), Bool.or_false]
  | @dash r =>
    have hdot : atMarker '.' (k.place ('-' :: ' ' :: r)) = false :=
      not_atMarker_of_char (by decide)
    rw [atEnd, hdot, Bool.or_false, Cursor.place_cons, Cursor.place_cons]
    unfold atMarker
    split
    · rename_i heq
      obtain ⟨-, hspace⟩ := List.cons.inj heq
      obtain ⟨rfl, -⟩ := List.cons.inj hspace
      simp
    · rfl

end StartsToken

/-! ## 3. What follows -/

/-- Nothing follows, or a token at the start of a line, in a column where it is allowed. -/
inductive Follows (allowed : Nat → Char → Prop) : List Char → Prop
  | nothing : Follows allowed []
  | token {col : Nat} {c : Char} {r : List Char} (isAllowed : allowed col c)
    (starts : StartsToken (c :: r)) : Follows allowed (Style.spaces col ++ c :: r)

/-- Outside of a record or list: further left than its column. -/
def outside (col : Nat) : Nat → Char → Prop := fun m _ => m < col

/-- After the value of a field: a key may come next in the column of the field. -/
def afterValue (col : Nat) : Nat → Char → Prop := fun m c => m < col ∨ m = col ∧ c ≠ '-'

/-- After an item: a dash or a key may come next in the column of the dash. -/
def afterItem (col : Nat) : Nat → Char → Prop := fun m _ => m ≤ col

namespace Follows

variable {allowed allowed' : Nat → Char → Prop} {more : List Char}

theorem mono (h : Follows allowed more) (hsub : ∀ m c, allowed m c → allowed' m c) :
    Follows allowed' more := by
  cases h with
  | nothing => exact .nothing
  | token isAllowed starts => exact .token (hsub _ _ isAllowed) starts

/-- **Skipping leads to the next token**, if there is one. -/
theorem skip_eq (h : Follows allowed more) (hk : k.IsFresh) :
    skip false (k.place more) = [] ∨ ∃ (k' : Cursor) (c : Char) (r : List Char),
      skip false (k.place more) = k'.place (c :: r) ∧ k'.leads = true ∧ allowed k'.col c
        ∧ StartsToken (c :: r) := by
  cases h with
  | nothing => exact .inl rfl
  | @token col c r isAllowed starts =>
    obtain ⟨hcol, hleads⟩ := hk.past_spaces col
    refine .inr ⟨k.past (Style.spaces col), c, r, ?_, hleads, ?_, starts⟩
    · exact skip_place_indented starts.isPassedOver
    · rwa [hcol]

end Follows

/-! ## 4. What is read -/

/-- Something is read, and what is left differs from the given rest at most by what is skipped. -/
def Yields {α : Type} (result : Option (α × List Glyph)) (a : α) (next : List Glyph) : Prop :=
  ∃ rest, result = some (a, rest) ∧ skip false rest = skip false next

namespace Yields

variable {α β : Type} {result : Option (α × List Glyph)} {a : α} {next next' : List Glyph}

theorem of_some (a : α) (next : List Glyph) : Yields (some (a, next)) a next := ⟨next, rfl, rfl⟩

theorem map (h : Yields result a next) (f : α → β) :
    Yields (result.map fun (x, rest) => (f x, rest)) (f a) next := by
  obtain ⟨rest, rfl, hrest⟩ := h
  exact ⟨rest, rfl, hrest⟩

theorem bind {f : α × List Glyph → Option (β × List Glyph)} {b : β} (h : Yields result a next)
    (hf : ∀ rest, skip false rest = skip false next → Yields (f (a, rest)) b next') :
    Yields (result.bind f) b next' := by
  obtain ⟨rest, rfl, hrest⟩ := h
  exact hf rest hrest

end Yields

end PluginArbiter.Yaml
