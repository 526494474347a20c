/-
# Keys and what is written in one piece

The parts from which records and lists are put together: the names of fields, scalars, empty lists
and records.  Each is read where it begins, and each begins with a character that is not passed
over, so a reader that skips to the next token finds it.

Main statements:
* `leaf_key`, `canBeKey_name`: a name before a colon is read as a key;
* `node_inline`: a document without items and fields is read back;
* `nodeAt_begun`: a node on a line that has begun is read where it begins.
-/
import PluginArbiter.Proofs.Yaml.Node
import PluginArbiter.Proofs.Yaml.Scalar
import PluginArbiter.Proofs.Yaml.Written
namespace PluginArbiter.Yaml

open Style Document Node

variable {site : Site} {floor fuel col : Nat} {k : Cursor} {c : Char} {r more : List Char}
  {allowed : Nat → Char → Prop}

/-! ## 1. Keys -/

section Keys

variable {name : String}

theorem isLetter_of_isWord (h : isWord name = true) :
    name.toList.length ≤ 1024 ∧ ∀ c ∈ name.toList, isLetter c = true := by
  simp only [isWord, Bool.and_eq_true, List.all_eq_true, decide_eq_true_eq] at h
  exact ⟨h.1.2, h.2⟩

theorem utf8Size_of_isLetter (h : isLetter c = true) : c.utf8Size = 1 := by
  rw [Char.utf8Size_eq_one_iff]
  simp only [isLetter, Bool.or_eq_true, Bool.and_eq_true, decide_eq_true_eq, beq_iff_eq] at h
  rcases h with ⟨-, h⟩ | rfl
  · exact Nat.le_trans h (by decide)
  · decide

/-- A letter takes one octet. -/
theorem past_offset {cs : List Char} (h : ∀ c ∈ cs, isLetter c = true) :
    (k.past cs).offset = k.offset + cs.length := by
  induction cs generalizing k with
  | nil => rfl
  | cons c cs ih =>
    obtain ⟨hc, hcs⟩ := List.forall_mem_cons.mp h
    have hoffset : (k.after c).offset = k.offset + 1 := by
      rw [Cursor.after, utf8Size_of_isLetter hc]
      split <;> rfl
    rw [Cursor.past_cons, ih hcs, hoffset, List.length_cons]
    omega

/-- A name begins with a letter. -/
theorem exists_first_of_isWord (h : isWord name = true) :
    ∃ c cs, name.toList = c :: cs ∧ isLetter c = true := by
  obtain ⟨c, cs, hcs⟩ := List.exists_cons_of_ne_nil (isHarmless_of_isWord h).1
  exact ⟨c, cs, hcs, (isLetter_of_isWord h).2 c (hcs ▸ List.mem_cons_self)⟩

/-- **A name before a colon is read as a key.** -/
theorem leaf_key (fuel : Nat) (hname : isWord name = true) (hfloor : floor ≤ k.col + 1)
    (hc : isSpace c = true) :
    Yields (leaf floor (fuel + 2) none (k.place (name.toList ++ ':' :: c :: r)))
      (.scalar true name) ((k.past name.toList).place (':' :: c :: r)) := by
  obtain ⟨hne, hharmless⟩ := isHarmless_of_isWord hname
  have hsafe := isPlainSafe_of_harmless hne hharmless
  have hread := (Plain.read_yields (k := k) hsafe hfloor
    (Plain.scan_colon hc r)).scalarOf true
  obtain ⟨d, cs, hcs, hd⟩ := exists_first_of_isWord hname
  rw [String.ofList_toList] at hread
  rw [hcs] at hsafe hread ⊢
  rw [leaf_none, List.cons_append, atom_plain hsafe (StartsToken.name hd).not_atEnd]
  exact hread

/-- The colon stands on the line of the name and near enough to it. -/
theorem canBeKey_name (hname : isWord name = true) :
    canBeKey (k.glyph c) ((k.past name.toList).glyph ':') = true := by
  obtain ⟨hlength, hletters⟩ := isLetter_of_isWord hname
  have hline := (k.past_line_col fun c hc =>
    isBreak_of_not_isPassedOver (isPassedOver_of_isLetter (hletters c hc))).1
  have hoffset := past_offset (k := k) hletters
  simp only [canBeKey, Cursor.glyph, hline, hoffset, beq_self_eq_true, Bool.true_and,
    decide_eq_true_eq]
  omega

end Keys

/-! ## 2. Scalars and empty brackets -/

section Inline

variable {n : Node String} {opening close : Char}

/-- Empty brackets are read as soon as they are closed. -/
theorem members_closed (h : isPassedOver close = false) :
    members floor close (fuel + 1) (k.place (close :: r)) = some ([], (k.after close).place r) := by
  have hskip : skip true (k.place (close :: r)) = k.place (close :: r) := skip_place_cons h
  rw [Cursor.place_cons] at hskip ⊢
  rw [members, hskip]
  simp

/-- Brackets with nothing in them, and what they stand for. -/
inductive Brackets : Char → Char → Node String → Prop
  | list : Brackets '[' ']' (.list [])
  | record : Brackets '\x7b' '\x7d' (.record [])

theorem atom_brackets (h : Brackets opening close n) (hk : k.col ≠ 0) :
    atom false floor (fuel + 2) (k.place (opening :: close :: r))
      = some (n, (k.past [opening, close]).place r) := by
  have hend : atEnd (k.place (opening :: close :: r)) = false := not_atEnd_of_col hk
  have hclose : isPassedOver close = false := by cases h <;> rfl
  have hmembers : members floor close (fuel + 1) ((k.after opening).place (close :: r))
      = some ([], ((k.after opening).after close).place r) := members_closed hclose
  rw [Cursor.place_cons] at hend ⊢
  rw [atom, if_neg (by simp [hend])]
  cases h with
  | list =>
    rw [if_neg (by simp), if_neg (by simp), if_neg (by simp), if_pos (by simp), hmembers]
    rfl
  | record =>
    rw [if_neg (by simp), if_neg (by simp), if_neg (by simp), if_neg (by simp),
      if_pos (by simp), hmembers]
    rfl

theorem Brackets.startsLeaf (h : Brackets opening close n) : StartsLeaf k opening r := by
  cases h with
  | list => exact ⟨by rw [Cursor.place_cons]; rfl, by decide, rfl, rfl⟩
  | record => exact ⟨by rw [Cursor.place_cons]; rfl, by decide, rfl, rfl⟩

/-- **Empty brackets** at the end of a line are an empty list or record. -/
theorem node_brackets (h : Brackets opening close n) (hk : k.col ≠ 0)
    (hmore : Follows allowed more) :
    Yields (node site (fuel + 4) (k.place ([opening, close, '\n'] ++ more))) n
      ((k.past [opening, close, '\n']).place more) := by
  have hfresh : (k.past [opening, close, '\n']).IsFresh := Cursor.past_isFresh rfl
  refine node_atom h.startsLeaf (fun _ _ => hmore.ne_colon hfresh) ?_
  refine ⟨(k.past [opening, close]).place ('\n' :: more), atom_brackets h hk, ?_⟩
  rw [skip_place_break rfl]
  rfl

/-- **What is written in one piece is read back.** -/
theorem node_inline {begun : Bool} {d : Document} (hd : d.Regular) (hinline : isInline d = true)
    (hk : k.col ≠ 0) (hfloor : site.floor ≤ k.col + 1) (hpos : 0 < site.floor)
    (hmore : Follows allowed more) (hallowed : ∀ col c, allowed col c → col < site.floor) :
    Yields (node site (fuel + 4) (k.place (Printer.inColumn (site.floor + 1) begun d ++ more)))
      (ofDocument d) ((k.past (Printer.inColumn (site.floor + 1) begun d)).place more) := by
  match d with
  | .flag b =>
    have hsafe : isPlainSafe (if b then "true" else "false").toList = true := by
      cases b <;> decide
    cases b <;> exact node_plain hsafe hk hfloor hmore hallowed
  | .integer (.ofNat n) =>
    have hsafe := isPlainSafe_of_harmless (Text.decimal_ne_nil n) (isHarmless_decimal n)
    exact node_plain hsafe hk hfloor hmore hallowed
  | .text s => exact node_writeLine s hk hfloor hpos hmore hallowed
  | .list [] => exact node_brackets .list hk hmore
  | .record [] => exact node_brackets .record hk hmore

end Inline

/-! ## 3. Where nodes begin -/

section Begins

variable {name : String} {x : Document}

/-- The text begins with something that is not passed over. -/
def Begins (cs : List Char) : Prop := ∃ c r, cs = c :: r ∧ isPassedOver c = false

theorem Begins.append {cs ds : List Char} (h : Begins cs) : Begins (cs ++ ds) := by
  obtain ⟨c, r, rfl, hc⟩ := h
  exact ⟨c, r ++ ds, List.cons_append, hc⟩

theorem Begins.length_pos {cs : List Char} (h : Begins cs) : 0 < cs.length := by
  obtain ⟨c, r, rfl, -⟩ := h
  exact Nat.succ_pos r.length

/-- The text begins with a space or a line break. -/
def Spaced (cs : List Char) : Prop := ∃ c r, cs = c :: r ∧ isSpace c = true

theorem Spaced.append {cs ds : List Char} (h : Spaced cs) : Spaced (cs ++ ds) := by
  obtain ⟨c, r, rfl, hc⟩ := h
  exact ⟨c, r ++ ds, List.cons_append, hc⟩

theorem begins_of_harmless {cs : List Char} (hne : cs ≠ []) (hcs : cs.all isHarmless = true) :
    Begins cs := by
  obtain ⟨c, r, rfl⟩ := List.exists_cons_of_ne_nil hne
  have hc := (Bool.and_eq_true_iff.mp hcs).1
  have hne : ∀ d, isHarmless d = false → c ≠ d := fun d => ne_of_class hc
  refine ⟨c, r, rfl, ?_⟩
  simp [isPassedOver, isSpace_of_isHarmless hc, hne '#' rfl, hne byteOrderMark rfl]

theorem begins_writeLine (indent : Nat) (s : String) : Begins (writeLine indent s) := by
  have hsuits := choose_suits s
  rw [writeLine]
  cases hchoose : choose s with
  | plain =>
    rw [hchoose] at hsuits
    have hne : s.toList ≠ [] := by
      intro hnil
      rw [hnil] at hsuits
      exact Bool.noConfusion hsuits
    obtain ⟨c, cs, hcs⟩ := List.exists_cons_of_ne_nil hne
    rw [hcs] at hsuits ⊢
    exact ⟨c, cs ++ ['\n'], rfl, isPassedOver_of_isPlainSafe hsuits⟩
  | single => exact ⟨_, _, rfl, rfl⟩
  | double => exact ⟨_, _, rfl, rfl⟩
  | literal => exact ⟨_, _, rfl, rfl⟩

/-- What stands behind a dash begins at once. -/
theorem begins_inColumn (col : Nat) : ∀ {d : Document}, d.Regular →
    Begins (Printer.inColumn col true d)
  | .flag true, _ => ⟨'t', _, rfl, rfl⟩
  | .flag false, _ => ⟨'f', _, rfl, rfl⟩
  | .integer (.ofNat n), _ =>
    (begins_of_harmless (Text.decimal_ne_nil n) (isHarmless_decimal n)).append
  | .text s, _ => begins_writeLine col s
  | .list [], _ => ⟨'[', _, rfl, rfl⟩
  | .list (_ :: _), _ => ⟨'-', _, rfl, rfl⟩
  | .record [], _ => ⟨'\x7b', _, rfl, rfl⟩
  | .record ((name, x) :: fs), ⟨_, hname, _⟩ => by
    obtain ⟨hne, hharmless⟩ := isHarmless_of_isWord hname
    have hbegins := begins_of_harmless hne hharmless
    rw [Printer.inColumn_record, Printer.fields_begun]
    exact hbegins.append

/-- A space or a line break stands behind the colon of a key. -/
theorem spaced_afterKey : ∀ d : Document, Spaced (Printer.afterKey col d)
  | .flag true | .flag false | .list [] | .list (_ :: _) | .record [] | .record (_ :: _) | .null
  | .integer _ | .real .. | .text _ => ⟨_, _, rfl, rfl⟩

/-- **A node behind a space** on a line that has begun is read where it begins. -/
theorem nodeAt_begun {cs : List Char} (hcs : Begins cs) (hk : k.leads = false) :
    nodeAt site (fuel + 1) (k.place (' ' :: cs)) = node site fuel ((k.after ' ').place cs) := by
  obtain ⟨c, r, rfl, hc⟩ := hcs
  have hskip : skip false (k.place (' ' :: c :: r)) = (k.after ' ').place (c :: r) := by
    rw [skip_place_space, skip_place_cons hc]
  have hcol : (k.after ' ').col ≠ 0 := by
    rw [Cursor.after_col rfl]
    exact Nat.succ_ne_zero k.col
  have hend : atEnd ((k.after ' ').place (c :: r)) = false := not_atEnd_of_col hcol
  have hleads : (k.after ' ').leads = false := Cursor.after_leads rfl hk
  rw [Cursor.place_cons] at hend
  rw [nodeAt, hskip, Cursor.place_cons]
  simp [hend, hleads]

end Begins

end PluginArbiter.Yaml
