/-
# Scalars among the nodes

Reading a node tries one thing after the other: a dash, an anchor, a block scalar, an atom, and a
colon after it that would make a record.  A written scalar gets through to its own reader, because
its first character excludes the others, and it stays a scalar, because no colon follows.

Main statements:
* `node_eq_leaf`: how a node is read that begins with none of the special characters;
* `node_plain`, `node_writeLine`: a scalar is read as the node that was written.
-/
import PluginArbiter.Proofs.Yaml.BlockText
import PluginArbiter.Proofs.Yaml.Plain
import PluginArbiter.Proofs.Yaml.Quoted
import PluginArbiter.Yaml.Layout

namespace PluginArbiter.Yaml

variable {site : Site} {floor fuel : Nat} {k : Cursor} {c : Char} {cs r more : List Char}
  {next : List Glyph}

/-! ## 1. What begins a node -/

/-- No dash, anchor or block scalar begins here, and nothing that is passed over. -/
structure StartsLeaf (k : Cursor) (c : Char) (r : List Char) : Prop where
  not_dash : atIndicator '-' (k.place (c :: r)) = false
  not_anchor : c ≠ '&'
  not_block : isBlockIndicator c = false
  not_passedOver : isPassedOver c = false

/-- A leaf without an anchor is an atom. -/
theorem leaf_none (s : List Glyph) : leaf floor (fuel + 1) none s = atom false floor fuel s := by
  rw [leaf]
  cases atom false floor fuel s <;> rfl

/-- No anchor stands before another character. -/
theorem anchor?_place (h : c ≠ '&') :
    anchor? (k.place (c :: r)) = some (none, k.place (c :: r)) := by
  rw [Cursor.place_cons, anchor?, if_neg (by simp [h])]

/-- **A node that begins with none of the special characters** is a leaf, or a record if a colon
follows. -/
theorem node_eq_leaf (h : StartsLeaf k c r) :
    node site (fuel + 1) (k.place (c :: r)) =
      (leaf site.floor fuel none (k.place (c :: r))).bind fun (first, rest) =>
        match skip false rest with
        | [] => some (first, rest)
        | h :: after =>
          if atIndicator ':' (h :: after) && canBeKey (k.glyph c) h then
            if site.opens then
              (nodeAt (.ofValue k.col) fuel after).bind fun (value, rest) =>
                (fields k.col fuel rest).map fun (fs, rest) =>
                  (.record ((first, value) :: fs), rest)
            else none
          else some (first, rest) := by
  have hskip : skip false (k.place (c :: r)) = k.place (c :: r) := skip_place_cons h.not_passedOver
  have hdash := h.not_dash
  have hanchor := anchor?_place (k := k) (r := r) h.not_anchor
  rw [Cursor.place_cons] at hskip hdash hanchor ⊢
  rw [node, if_neg (by simp [hdash]), hanchor]
  simp only [Option.bind_some, hskip]
  rw [if_neg (by simp), if_neg (by simp [h.not_block])]
  rfl

/-- No colon follows that would make a key of what comes before it. -/
theorem Follows.ne_colon {allowed : Nat → Char → Prop} (h : Follows allowed more) (hk : k.IsFresh)
    {g : Glyph} {after : List Glyph} (hskip : skip false (k.place more) = g :: after) :
    g.char ≠ ':' := by
  rcases h.skip_eq hk with hnone | ⟨k', c, r', htoken, -, -, hstarts⟩
  · rw [hskip] at hnone
    exact nomatch hnone
  · rw [hskip, Cursor.place_cons] at htoken
    obtain ⟨rfl, -⟩ := List.cons.inj htoken
    exact hstarts.ne_colon

/-- **An atom that no colon follows** is the node. -/
theorem node_atom {n : Node String} (h : StartsLeaf k c r)
    (hnext : ∀ g after, skip false next = g :: after → g.char ≠ ':')
    (hatom : Yields (atom false site.floor fuel (k.place (c :: r))) n next) :
    Yields (node site (fuel + 2) (k.place (c :: r))) n next := by
  rw [node_eq_leaf h, leaf_none]
  refine hatom.bind fun rest hrest => ⟨rest, ?_, hrest⟩
  rw [← hrest] at hnext
  cases hskip : skip false rest with
  | nil => simp only [hskip]
  | cons g after =>
    have hcolon : atIndicator ':' (g :: after) = false := by
      simp [atIndicator, hnext g after hskip]
    simp only [hskip, hcolon, Bool.false_and, Bool.false_eq_true, if_false]

/-- What is read as a text becomes a scalar. -/
theorem Yields.scalarOf {result : Option (List Char × List Glyph)} (plain : Bool)
    (h : Yields result cs next) :
    Yields (result.map (scalarOf plain)) (.scalar plain (String.ofList cs)) next := by
  obtain ⟨rest, rfl, hrest⟩ := h
  exact ⟨rest, rfl, hrest⟩

/-! ## 2. Plain scalars -/

section Plain

open Style

variable {tail : List Char}

theorem startsLeaf_of_isPlainSafe (hsafe : isPlainSafe (c :: cs) = true) :
    StartsLeaf k c (cs ++ tail) := by
  have hne : ∀ d, indicators.contains d = true → d ≠ '-' ∧ d ≠ '?' ∧ d ≠ ':' → c ≠ d := fun d =>
    ne_of_isPlainSafe hsafe
  have hstarts : Plain.starts false (k.place (c :: cs ++ tail)) = true :=
    Plain.starts_of_isPlainSafe hsafe
  rw [List.cons_append, Cursor.place_cons, Plain.starts, Cursor.glyph_char] at hstarts
  refine ⟨?_, hne '&' rfl (by decide), ?_, isPassedOver_of_isPlainSafe hsafe⟩
  · rw [Cursor.place_cons, atIndicator, Cursor.glyph_char]
    by_cases hdash : c = '-'
    · subst hdash
      simpa [isSpace_of_isPlainSafe hsafe] using hstarts
    · simp [hdash]
  · simp [isBlockIndicator, hne '|' rfl (by decide), hne '>' rfl (by decide)]

theorem atom_plain (hsafe : isPlainSafe (c :: cs) = true)
    (hend : atEnd (k.place (c :: (cs ++ tail))) = false) :
    atom false floor (fuel + 1) (k.place (c :: (cs ++ tail)))
      = (Plain.read false floor (k.place (c :: cs ++ tail))).map (scalarOf true) := by
  have hne : ∀ d, indicators.contains d = true → d ≠ '-' ∧ d ≠ '?' ∧ d ≠ ':' → c ≠ d := fun d =>
    ne_of_isPlainSafe hsafe
  rw [List.cons_append]
  rw [Cursor.place_cons] at hend ⊢
  rw [atom, if_neg (by simp [hend]), if_neg (by simp [hne '*' rfl (by decide)]),
    if_neg (by simp [hne '\x22' rfl (by decide)]), if_neg (by simp [hne '\x27' rfl (by decide)]),
    if_neg (by simp [hne '[' rfl (by decide)]), if_neg (by simp [hne '\x7b' rfl (by decide)])]

/-- **A text without quotes is a plain scalar.** -/
theorem node_plain {allowed : Nat → Char → Prop} (hsafe : isPlainSafe cs = true) (hk : k.col ≠ 0)
    (hfloor : site.floor ≤ k.col + 1) (hmore : Follows allowed more)
    (hallowed : ∀ col c, allowed col c → col < site.floor) :
    Yields (node site (fuel + 3) (k.place (cs ++ ['\n'] ++ more)))
      (.scalar true (String.ofList cs)) ((k.past (cs ++ ['\n'])).place more) := by
  have hne : cs ≠ [] := by
    rintro rfl
    exact absurd hsafe (by decide)
  have hfeed : isBreak '\n' = true := rfl
  have hfresh : ((k.past cs).after '\n').IsFresh := Cursor.after_of_break hfeed
  have hread := (Plain.read_yields (k := k) hsafe hfloor
    (Plain.scan_break hmore hallowed)).scalarOf true
  obtain ⟨c, cs, rfl⟩ := List.exists_cons_of_ne_nil hne
  rw [Cursor.past_append, List.append_assoc, List.cons_append]
  refine node_atom (startsLeaf_of_isPlainSafe hsafe) (fun g after => hmore.ne_colon hfresh) ?_
  rw [atom_plain hsafe (not_atEnd_of_col hk)]
  exact hread

end Plain

/-! ## 3. Other styles -/

section Styles

open Style

variable {indent : Nat} {allowed : Nat → Char → Prop}

/-- A quote begins a leaf. -/
theorem startsLeaf_of_quote (hc : c = '\x27' ∨ c = '\x22') : StartsLeaf k c r := by
  have hdash : c ≠ '-' := by rcases hc with rfl | rfl <;> decide
  refine ⟨?_, ?_, ?_, ?_⟩
  · rw [Cursor.place_cons]
    simp [atIndicator, hdash]
  all_goals rcases hc with rfl | rfl <;> decide

theorem isFresh_newline : (k.past (cs ++ ['\n'])).IsFresh :=
  Cursor.past_isFresh (endsInBreak_append rfl)

/-- **What stands between quotes** is a scalar that is not plain. -/
theorem node_quoted {quote : Char} {written : List Char}
    {read : List Glyph → Option (List Char × List Glyph)} (hquote : quote = '\x27' ∨ quote = '\x22')
    (hatom : ∀ r, atom false site.floor (fuel + 1) (k.place (quote :: r))
      = (read ((k.after quote).place r)).map (scalarOf false))
    (hread : read ((k.after quote).place (written ++ '\n' :: more))
      = some (cs, ((k.after quote).past written).place ('\n' :: more)))
    (hmore : Follows allowed more) :
    Yields (node site (fuel + 3) (k.place (quote :: written ++ ['\n'] ++ more)))
      (.scalar false (String.ofList cs)) ((k.past (quote :: written ++ ['\n'])).place more) := by
  rw [List.append_assoc, List.cons_append]
  refine node_atom (startsLeaf_of_quote hquote) (fun _ _ => hmore.ne_colon isFresh_newline) ?_
  rw [hatom, List.singleton_append, hread]
  refine ⟨_, rfl, ?_⟩
  rw [skip_place_break rfl, Cursor.past_append]
  rfl

theorem atom_single (hk : k.col ≠ 0) :
    atom false floor (fuel + 1) (k.place ('\x27' :: r))
      = (SingleQuoted.read ((k.after '\x27').place r)).map (scalarOf false) := by
  have hend : atEnd (k.place ('\x27' :: r)) = false := not_atEnd_of_col hk
  rw [Cursor.place_cons] at hend ⊢
  rw [atom, if_neg (by simp [hend]), if_neg (by simp), if_neg (by simp), if_pos (by simp)]

theorem atom_double (hk : k.col ≠ 0) :
    atom false floor (fuel + 1) (k.place ('\x22' :: r))
      = (DoubleQuoted.read ((k.after '\x22').place r)).map (scalarOf false) := by
  have hend : atEnd (k.place ('\x22' :: r)) = false := not_atEnd_of_col hk
  rw [Cursor.place_cons] at hend ⊢
  rw [atom, if_neg (by simp [hend]), if_neg (by simp), if_pos (by simp)]

/-- **A text on lines of its own** is a scalar that is not plain, too. -/
theorem node_literal (hcs : cs ≠ []) (hescapes : needsEscapes cs = false) (hfloor : 0 < site.floor)
    (hmore : Follows allowed more) (hallowed : ∀ col c, allowed col c → col < site.floor) :
    Yields (node site (fuel + 1) (k.place (writeLiteral (site.floor + 1) cs ++ more)))
      (.scalar false (String.ofList cs))
      ((k.past (writeLiteral (site.floor + 1) cs)).place more) := by
  have hread := (BlockText.read_yields (k := k) hcs hescapes rfl hfloor hmore hallowed).scalarOf
    false
  obtain ⟨r, hr⟩ : ∃ r, writeLiteral (site.floor + 1) cs = '|' :: r := ⟨_, rfl⟩
  have hskip : skip false (k.place ('|' :: (r ++ more))) = k.place ('|' :: (r ++ more)) :=
    skip_place_cons (by decide)
  have hanchor : anchor? (k.place ('|' :: (r ++ more)))
      = some (none, k.place ('|' :: (r ++ more))) := anchor?_place (by decide)
  rw [hr, List.cons_append] at hread ⊢
  rw [Cursor.place_cons] at hskip hread hanchor ⊢
  rw [node, if_neg (by simp [atIndicator]), hanchor]
  simp only [Option.bind_some, hskip]
  rw [if_neg (by simp), if_pos (by simp [isBlockIndicator])]
  obtain ⟨rest, hsome, hrest⟩ := hread
  obtain ⟨⟨ds, rest'⟩, hblock, hscalar⟩ := Option.map_eq_some_iff.mp hsome
  rw [hblock]
  exact ⟨rest, congrArg some hscalar, hrest⟩

/-- **Every text is read back as it was**, and as plain only where it was written so. -/
theorem node_writeLine (s : String) (hk : k.col ≠ 0) (hfloor : site.floor ≤ k.col + 1)
    (hpos : 0 < site.floor) (hmore : Follows allowed more)
    (hallowed : ∀ col c, allowed col c → col < site.floor) :
    Yields (node site (fuel + 3) (k.place (writeLine (site.floor + 1) s ++ more)))
      (.scalar (choose s == .plain) s) ((k.past (writeLine (site.floor + 1) s)).place more) := by
  have hs : String.ofList s.toList = s := String.ofList_toList
  have hcol : ∀ c, isBreak c = false → (k.after c).col ≠ 0 := fun c hc => by
    rw [Cursor.after_col hc]
    exact Nat.succ_ne_zero k.col
  have hsuits := choose_suits s
  have hread : Yields (node site (fuel + 3) (k.place (writeLine (site.floor + 1) s ++ more)))
      (.scalar (choose s == .plain) (String.ofList s.toList))
      ((k.past (writeLine (site.floor + 1) s)).place more) := by
    rw [writeLine]
    cases hchoose : choose s with
    | plain =>
      rw [hchoose] at hsuits
      exact node_plain hsuits hk hfloor hmore hallowed
    | single =>
      rw [hchoose] at hsuits
      obtain ⟨hfeed, hescapes, hafter⟩ := hsuits
      simp only [SingleQuoted.writeSingle_eq, List.cons_append]
      refine node_quoted (.inl rfl) (fun _ => atom_single hk) ?_ hmore
      rw [List.append_assoc]
      exact SingleQuoted.read_eq (Nat.succ_pos _) hescapes hfeed hafter (hcol _ rfl) (by decide)
    | double =>
      simp only [DoubleQuoted.writeDouble_eq, List.cons_append]
      refine node_quoted (.inr rfl) (fun _ => atom_double hk) ?_ hmore
      rw [List.append_assoc]
      exact DoubleQuoted.read_eq (hcol _ rfl)
    | literal =>
      rw [hchoose] at hsuits
      exact node_literal hsuits.1 hsuits.2 hpos hmore hallowed
  rwa [hs] at hread

end Styles

end PluginArbiter.Yaml
