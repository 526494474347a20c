/-
# What is written

A written document consists of whole lines and of characters that can be seen.  So a line begins
behind it, and the text has no line breaks but those that were meant: nothing in it is made uniform
when it is read.

Main statements:
* `isLines_inColumn`: what is written of a document are whole lines;
* `IsLines.uniform_eq`, `IsLines.isAdmitted`: such a text is read as it is.
-/
import PluginArbiter.Proofs.Yaml.BlockText
import PluginArbiter.Proofs.Yaml.Plain
import PluginArbiter.Proofs.Yaml.Quoted
import PluginArbiter.Yaml.Printer

namespace PluginArbiter.Yaml

open Style

/-! ## 1. Whole lines -/

/-- Characters that can be seen, of which the last ends a line. -/
structure IsLines (cs : List Char) : Prop where
  printable : ∀ c ∈ cs, isPrintable c = true
  ends : endsInBreak cs = true

namespace IsLines

variable {cs ds : List Char}

theorem prepend (hcs : ∀ c ∈ cs, isPrintable c = true) (h : IsLines ds) : IsLines (cs ++ ds) where
  printable c hc := (List.mem_append.mp hc).elim (hcs c) (h.printable c)
  ends := endsInBreak_append h.ends

theorem append (hcs : IsLines cs) (h : ds = [] ∨ IsLines ds) : IsLines (cs ++ ds) := by
  rcases h with rfl | h
  · rwa [List.append_nil]
  · exact prepend hcs.printable h

theorem newline (hcs : ∀ c ∈ cs, isPrintable c = true) : IsLines (cs ++ ['\n']) :=
  prepend hcs ⟨List.all_eq_true.mp rfl, rfl⟩

/-- No character has to be made uniform. -/
theorem uniform_eq (h : IsLines cs) : uniform cs = cs := by
  have hall := h.printable
  clear h
  induction cs with
  | nil => rfl
  | cons c cs ih =>
    have hreturn : c ≠ '\r' := ne_of_class (hall c List.mem_cons_self) rfl
    have hnext : c ≠ '\u0085' := ne_of_class (hall c List.mem_cons_self) rfl
    have hrest := ih fun d hd => hall d (List.mem_cons_of_mem c hd)
    unfold uniform
    split
    · exact nomatch ‹c :: cs = []›
    · rename_i heq
      exact absurd (List.cons.inj heq).1 hreturn
    · rename_i heq
      obtain ⟨rfl, rfl⟩ := List.cons.inj heq
      rw [hrest, if_neg (by simp [hreturn, hnext])]

/-- Every character may stand in a text. -/
theorem isAdmitted (h : IsLines cs) : cs.all isAdmitted = true := by
  rw [List.all_eq_true]
  intro c hc
  have hprintable := h.printable c hc
  simp only [isPrintable, Bool.or_eq_true, Bool.and_eq_true, beq_iff_eq, decide_eq_true_eq]
    at hprintable
  rcases hprintable with ((rfl | hascii) | hplane) | hhigh
  · rfl
  · simp [Yaml.isAdmitted, hascii]
  · simp [Yaml.isAdmitted, hplane]
  · simp [Yaml.isAdmitted, hhigh]

end IsLines

/-! ## 2. Scalars -/

section Scalars

variable {indent : Nat} {c : Char} {cs : List Char}

theorem printable_spaces {n : Nat} (h : c ∈ spaces n) : isPrintable c = true := by
  rw [List.eq_of_mem_replicate h]
  rfl

theorem printable_indented {write : Char → List Char} {fresh : Bool}
    (hcs : ∀ d ∈ cs, isPrintable d = true ∧ ∀ e ∈ write d, isPrintable e = true)
    (h : c ∈ indented indent write fresh cs) : isPrintable c = true := by
  induction cs generalizing fresh with
  | nil => exact absurd h List.not_mem_nil
  | cons d cs ih =>
    obtain ⟨⟨hd, hwrite⟩, hcs⟩ := List.forall_mem_cons.mp hcs
    rw [indented] at h
    split at h
    · rcases List.mem_cons.mp h with rfl | h
      · exact hd
      · exact ih hcs h
    · rcases List.mem_append.mp h with h | h
      · rcases List.mem_append.mp h with h | h
        · split at h
          · exact printable_spaces h
          · exact absurd h List.not_mem_nil
        · exact hwrite c h
      · exact ih hcs h

theorem printable_of_not_needsEscapes (h : needsEscapes cs = false) :
    ∀ d ∈ cs, isPrintable d = true := by
  simp only [needsEscapes, Bool.or_eq_false_iff, Bool.not_eq_false', List.all_eq_true] at h
  exact h.1

theorem printable_writeSingle (hcs : ∀ d ∈ cs, isPrintable d = true)
    (h : c ∈ writeSingle indent cs) : isPrintable c = true := by
  have hquote : isPrintable '\x27' = true := rfl
  rcases List.mem_append.mp h with h | h
  · rcases List.mem_append.mp h with h | h
    · rcases List.mem_cons.mp h with rfl | h
      · exact hquote
      · refine printable_indented (fun d hd => ⟨hcs d hd, fun e he => ?_⟩) h
        have hedge : e = d := by
          split at he <;> simpa using he
        exact hedge ▸ hcs d hd
    · split at h
      · exact printable_spaces h
      · exact nomatch h
  · rw [List.mem_singleton.mp h]
    exact hquote

theorem printable_literalHeader (h : c ∈ literalHeader cs) : isPrintable c = true := by
  have hindicators : ∀ hint chomping, ∀ d ∈ '|' :: BlockText.indicatorsOf hint chomping,
      isPrintable d = true := by
    intro hint chomping
    refine List.all_eq_true.mp ?_
    cases hint <;> cases chomping <;> rfl
  rcases List.eq_nil_or_concat cs with rfl | ⟨cs, last, rfl⟩
  · exact hindicators false .strip c h
  · rw [List.concat_eq_append, BlockText.literalHeader_concat] at h
    exact hindicators _ _ c h

theorem isLines_writeLiteral (hcs : ∀ d ∈ cs, isPrintable d = true) :
    IsLines (writeLiteral indent cs) := by
  have hlines : IsLines (BlockText.linesOf indent true cs ++ BlockText.closing cs) := by
    refine ⟨fun d hd => ?_, BlockText.endsInBreak_linesOf indent true cs⟩
    rcases List.mem_append.mp hd with hd | hd
    · refine printable_indented (fun e he => ⟨hcs e he, fun f hf => ?_⟩) hd
      exact List.mem_singleton.mp hf ▸ hcs e he
    · unfold BlockText.closing at hd
      split at hd
      · exact nomatch hd
      · rw [List.mem_singleton.mp hd]
        rfl
  have hwrite : writeLiteral indent cs = (literalHeader cs ++ ['\n'])
      ++ (BlockText.linesOf indent true cs ++ BlockText.closing cs) := by
    simp [writeLiteral, BlockText.linesOf, BlockText.closing]
  rw [hwrite]
  exact (IsLines.newline fun _ => printable_literalHeader).append (.inr hlines)

theorem isLines_writeLine (indent : Nat) (s : String) : IsLines (writeLine indent s) := by
  have hsuits := choose_suits s
  rw [writeLine]
  cases hchoose : choose s with
  | plain =>
    rw [hchoose] at hsuits
    exact .newline (flows_of_isPlainSafe hsuits).printable
  | single =>
    rw [hchoose] at hsuits
    exact .newline fun c => printable_writeSingle (printable_of_not_needsEscapes hsuits.2.1)
  | double =>
    refine .newline fun c hc => ?_
    rw [DoubleQuoted.writeDouble_eq, List.cons_append, List.mem_cons, List.mem_append,
      List.mem_flatMap, List.mem_singleton] at hc
    rcases hc with rfl | ⟨d, -, hd⟩ | rfl
    · rfl
    · exact (DoubleQuoted.printable_writeChar hd).1
    · rfl
  | literal =>
    rw [hchoose] at hsuits
    exact isLines_writeLiteral (printable_of_not_needsEscapes hsuits.2)

end Scalars

/-! ## 3. Documents -/

open Document

theorem isHarmless_of_isWord {name : String} (h : isWord name = true) :
    name.toList ≠ [] ∧ name.toList.all isHarmless = true := by
  simp only [isWord, Bool.and_eq_true, Bool.not_eq_true', List.isEmpty_eq_false_iff,
    List.all_eq_true] at h
  exact ⟨h.1.1, List.all_eq_true.mpr fun c hc => by simp [isHarmless, h.2 c hc]⟩

theorem printable_of_harmless {cs : List Char} (h : cs.all isHarmless = true) :
    ∀ c ∈ cs, isPrintable c = true := fun c hc =>
  isPrintable_of_isHarmless (List.all_eq_true.mp h c hc)

theorem isHarmless_decimal (n : Nat) : (Text.decimal n).all isHarmless = true :=
  List.all_eq_true.mpr fun c hc => by simp [isHarmless, Text.isDigit_of_mem_decimal hc]

theorem printable_margin {col : Nat} {begun : Bool} {c : Char}
    (h : c ∈ Printer.margin col begun) : isPrintable c = true := by
  cases begun with
  | true => exact nomatch h
  | false => exact printable_spaces h

/-- Whether a document is written in the line where it begins, or is a text. -/
def isInline : Document → Bool
  | .list (_ :: _) | .record (_ :: _) => false
  | _ => true

/-- After a key such a document is written as it is behind a dash. -/
theorem afterKey_of_isInline {col : Nat} {d : Document} (h : isInline d = true) :
    Printer.afterKey col d = ' ' :: Printer.inColumn (col + 2) true d := by
  cases d with
  | flag b => cases b <;> rfl
  | list xs =>
    cases xs with
    | nil => rfl
    | cons x xs => exact nomatch h
  | record fs =>
    cases fs with
    | nil => rfl
    | cons f fs => exact nomatch h
  | _ => rfl

theorem isLines_inline (col : Nat) (begun : Bool) : ∀ d : Document, d.Regular → isInline d = true →
    IsLines (Printer.inColumn col begun d)
  | .flag true, _, _ => ⟨List.all_eq_true.mp rfl, rfl⟩
  | .flag false, _, _ => ⟨List.all_eq_true.mp rfl, rfl⟩
  | .integer (.ofNat n), _, _ => .newline (printable_of_harmless (isHarmless_decimal n))
  | .text s, _, _ => isLines_writeLine col s
  | .list [], _, _ => ⟨List.all_eq_true.mp rfl, rfl⟩
  | .record [], _, _ => ⟨List.all_eq_true.mp rfl, rfl⟩

theorem isLines_afterKey_inline (col : Nat) {d : Document} (hd : d.Regular)
    (h : isInline d = true) : IsLines (Printer.afterKey col d) := by
  have hspace : ∀ c ∈ [' '], isPrintable c = true := List.all_eq_true.mp rfl
  rw [afterKey_of_isInline h]
  exact .prepend hspace (isLines_inline (col + 2) true d hd h)

mutual

/-- **What is written of a document are whole lines.** -/
theorem isLines_inColumn (col : Nat) (begun : Bool) : ∀ d : Document, d.Regular →
    IsLines (Printer.inColumn col begun d)
  | .list (x :: xs), h =>
    (isLines_items col begun (x :: xs) h).resolve_left (List.cons_ne_nil x xs)
  | .record (f :: fs), h =>
    (isLines_fields col begun (f :: fs) h.2).resolve_left (List.cons_ne_nil f fs)
  | .list [], h | .record [], h | .flag _, h | .integer _, h | .text _, h =>
    isLines_inline col begun _ h rfl

theorem isLines_afterKey (col : Nat) : ∀ d : Document, d.Regular →
    IsLines (Printer.afterKey col d)
  | .list (x :: xs), h =>
    .prepend (List.all_eq_true.mp rfl : ∀ c ∈ ['\n'], isPrintable c = true)
      ((isLines_items col false (x :: xs) h).resolve_left (List.cons_ne_nil x xs))
  | .record (f :: fs), h =>
    .prepend (List.all_eq_true.mp rfl : ∀ c ∈ ['\n'], isPrintable c = true)
      ((isLines_fields (col + 2) false (f :: fs) h.2).resolve_left (List.cons_ne_nil f fs))
  | .list [], h | .record [], h | .flag _, h | .integer _, h | .text _, h =>
    isLines_afterKey_inline col h rfl

theorem isLines_items (col : Nat) (begun : Bool) : ∀ xs : List Document, RegularItems xs →
    xs = [] ∨ IsLines (Printer.items col begun xs)
  | [], _ => .inl rfl
  | x :: xs, ⟨hx, hxs⟩ => by
    have hfirst := isLines_inColumn (col + 2) true x hx
    have hrest : Printer.items col false xs = [] ∨ IsLines (Printer.items col false xs) :=
      (isLines_items col false xs hxs).imp_left fun hnil => by rw [hnil, Printer.items_nil]
    have hdash : ∀ c ∈ ['-', ' '], isPrintable c = true := List.all_eq_true.mp rfl
    rw [Printer.items_cons]
    exact .inr (.append (.prepend (fun _ => printable_margin) (.prepend hdash hfirst)) hrest)

theorem isLines_fields (col : Nat) (begun : Bool) : ∀ fs : List (String × Document),
    RegularFields fs → fs = [] ∨ IsLines (Printer.fields col begun fs)
  | [], _ => .inl rfl
  | (name, x) :: fs, ⟨hname, hx, hfs⟩ => by
    have hvalue := isLines_afterKey col x hx
    have hrest : Printer.fields col false fs = [] ∨ IsLines (Printer.fields col false fs) :=
      (isLines_fields col false fs hfs).imp_left fun hnil => by rw [hnil, Printer.fields_nil]
    have hcolon : ∀ c ∈ [':'], isPrintable c = true := List.all_eq_true.mp rfl
    have hkey := printable_of_harmless (isHarmless_of_isWord hname).2
    rw [Printer.fields_cons, List.append_assoc (Printer.margin col begun)]
    exact .inr (.append (.prepend (fun _ => printable_margin)
      (.prepend hkey (.prepend hcolon hvalue))) hrest)

end

end PluginArbiter.Yaml
