/-
# Documents are read back from their text

A written document is read by mutual induction on it: what stands behind a key, what stands behind a
dash, the items of a list, the fields of a record.  Each of these statements says what may follow,
since a part ends where the next token is not indented far enough, and how much fuel the reader
needs, which is six for each character.

The induction itself only puts the parts together.  What one part needs of the others is said
before, one lemma for each way in which a part is written.

Main statements:
* `readsValue`, `readsItem`, `readsItems`, `readsFields`, `readsRecord`: the parts of any document;
* `parse_write`: a written record is parsed as the node of the document.
-/
import PluginArbiter.Proofs.Yaml.Layout

namespace PluginArbiter.Yaml

open Style Document Node

variable {col : Nat} {k : Cursor} {more : List Char}

/-! ## 1. What is written, part by part -/

section Parts

variable {closed : Bool} {name : String} {d x : Document} {xs : List Document}
  {f : String × Document} {fs : List (String × Document)}

/-- After an item comes a dash in its column, or what follows the list. -/
theorem follows_items (xs : List Document)
    (hmore : Follows (if closed then outside col else afterValue col) more) :
    Follows (afterItem col) (Printer.items col false xs ++ more) := by
  cases xs with
  | nil =>
    refine hmore.mono fun m c hallowed => ?_
    cases closed with
    | true => exact Nat.le_of_lt hallowed
    | false => exact hallowed.elim Nat.le_of_lt fun h => Nat.le_of_eq h.1
  | cons x xs =>
    rw [Printer.items_indented, Printer.items_begun, List.append_assoc]
    exact .token (Nat.le_refl col) .dash

/-- After a field comes a key in its column, or what follows the record. -/
theorem follows_fields (hfs : RegularFields fs) (hmore : Follows (outside col) more) :
    Follows (afterValue col) (Printer.fields col false fs ++ more) := by
  match fs, hfs with
  | [], _ => exact hmore.mono fun _ _ => .inl
  | (name, x) :: fs, ⟨hname, _⟩ =>
    obtain ⟨c, cs, hcs, hc⟩ := exists_first_of_isWord hname
    rw [Printer.fields_indented, Printer.fields_begun, hcs, List.append_assoc]
    exact .token (.inr ⟨rfl, ne_of_class hc rfl⟩) (.name hc)

/-! ## 2. One part read back -/

/-- What stands behind the colon of a key is read back. -/
def ReadsValue (d : Document) : Prop :=
  ∀ (fuel : Nat) ⦃col : Nat⦄ ⦃k : Cursor⦄ ⦃more : List Char⦄, k.leads = false → col ≤ k.col →
    Follows (afterValue col) more → 6 * (Printer.afterKey col d).length ≤ fuel →
    Yields (nodeAt (.ofValue col) fuel (k.place (Printer.afterKey col d ++ more))) (ofDocument d)
      ((k.past (Printer.afterKey col d)).place more)

/-- What stands behind a dash is read back. -/
def ReadsItem (d : Document) : Prop :=
  ∀ (fuel : Nat) ⦃col : Nat⦄ ⦃k : Cursor⦄ ⦃more : List Char⦄, k.leads = false → k.col = col + 1 →
    Follows (afterItem col) more → 6 * (Printer.inColumn (col + 2) true d).length + 2 ≤ fuel →
    Yields (nodeAt (.ofItem col) fuel (k.place (' ' :: Printer.inColumn (col + 2) true d ++ more)))
      (ofDocument d) ((k.past (' ' :: Printer.inColumn (col + 2) true d)).place more)

/-- The items of a list are read back from the first dash on. -/
def ReadsItems (xs : List Document) : Prop :=
  ∀ (closed : Bool) (fuel : Nat) ⦃col : Nat⦄ ⦃k : Cursor⦄ ⦃more : List Char⦄, k.col = col →
    Follows (if closed then outside col else afterValue col) more →
    6 * (Printer.items col true xs).length ≤ fuel →
    Yields (items closed col fuel (k.place (Printer.items col true xs ++ more))) (ofItems xs)
      ((k.past (Printer.items col true xs)).place more)

/-- Fields are read back from lines of their own. -/
def ReadsFields (fs : List (String × Document)) : Prop :=
  ∀ (fuel : Nat) ⦃col : Nat⦄ ⦃k : Cursor⦄ ⦃more : List Char⦄ ⦃s : List Glyph⦄, k.IsFresh →
    Follows (outside col) more → 6 * (Printer.fields col false fs).length < fuel →
    skip false s = skip false (k.place (Printer.fields col false fs ++ more)) →
    Yields (fields col fuel s) (ofFields fs) ((k.past (Printer.fields col false fs)).place more)

/-- A record is read back from its first key on. -/
def ReadsRecord (fs : List (String × Document)) : Prop :=
  ∀ (fuel : Nat) ⦃site : Site⦄ ⦃col : Nat⦄ ⦃k : Cursor⦄ ⦃more : List Char⦄, site.opens = true →
    site.floor ≤ k.col + 1 → k.col = col → Follows (outside col) more →
    6 * (Printer.fields col true fs).length ≤ fuel →
    Yields (node site fuel (k.place (Printer.fields col true fs ++ more))) (.record (ofFields fs))
      ((k.past (Printer.fields col true fs)).place more)

/-! ### Documents in one piece -/

theorem ReadsItem.of_isInline (hd : d.Regular) (hinline : isInline d = true) : ReadsItem d := by
  intro fuel col k more hk hcol hmore hfuel
  have hpos := (begins_inColumn (col + 2) hd).length_pos
  obtain ⟨fuel, rfl⟩ : ∃ n, fuel = n + 5 := ⟨fuel - 5, by omega⟩
  have hspace : (k.after ' ').col = col + 2 := by rw [Cursor.after_col rfl, hcol]
  rw [List.cons_append, nodeAt_begun (begins_inColumn (col + 2) hd).append hk]
  refine node_inline hd hinline ?_ ?_ (Nat.succ_pos col) hmore fun m c => Nat.lt_succ_of_le
  · rw [hspace]
    exact Nat.succ_ne_zero (col + 1)
  · rw [hspace]
    exact Nat.le_add_right (col + 1) 2

theorem ReadsValue.of_isInline (hd : d.Regular) (hinline : isInline d = true) : ReadsValue d := by
  intro fuel col k more hk hcol hmore hfuel
  have hpos := (begins_inColumn (col + 2) hd).length_pos
  rw [afterKey_of_isInline hinline] at hfuel ⊢
  rw [List.length_cons] at hfuel
  obtain ⟨fuel, rfl⟩ : ∃ n, fuel = n + 5 := ⟨fuel - 5, by omega⟩
  have hspace : (k.after ' ').col = k.col + 1 := Cursor.after_col rfl
  have hallowed : ∀ m c, afterValue col m c → m < col + 1 := fun m c hallowed =>
    hallowed.elim Nat.lt_succ_of_lt fun h => Nat.lt_succ_of_le (Nat.le_of_eq h.1)
  rw [List.cons_append, nodeAt_begun (begins_inColumn (col + 2) hd).append hk]
  refine node_inline hd hinline ?_ ?_ (Nat.succ_pos col) hmore hallowed
  · rw [hspace]
    exact Nat.succ_ne_zero k.col
  · rw [hspace]
    exact Nat.succ_le_succ (Nat.le_succ_of_le hcol)

/-! ### Lists -/

theorem ReadsItems.toValue (h : ReadsItems (x :: xs)) : ReadsValue (.list (x :: xs)) := by
  intro fuel col k more hk hcol hmore hfuel
  have hfresh : (k.after '\n').IsFresh := Cursor.after_of_break rfl
  obtain ⟨hdash, hleads⟩ := hfresh.past_spaces col
  rw [Printer.afterKey_list, Printer.items_indented, List.length_cons, List.length_append] at hfuel
  obtain ⟨fuel, rfl⟩ : ∃ n, fuel = n + 1 := ⟨fuel - 1, by omega⟩
  have hitems := h false fuel hdash hmore (by omega)
  rw [Printer.items_begun] at hitems
  rw [Printer.afterKey_list, Printer.items_indented, Printer.items_begun, Cursor.past_cons,
    Cursor.past_append, List.cons_append, List.append_assoc]
  refine nodeAt_items ?_ hdash hleads hitems
  rw [skip_place_break rfl]
  exact skip_place_indented rfl

theorem ReadsItems.toItem (h : ReadsItems (x :: xs)) : ReadsItem (.list (x :: xs)) := by
  intro fuel col k more hk hcol hmore hfuel
  have hdash : (k.after ' ').col = col + 2 := by rw [Cursor.after_col rfl, hcol]
  have hmore : Follows (outside (col + 2)) more :=
    hmore.mono fun m c hle => Nat.lt_succ_of_le (Nat.le_succ_of_le hle)
  rw [Printer.inColumn_list] at hfuel ⊢
  obtain ⟨fuel, rfl⟩ : ∃ n, fuel = n + 2 := ⟨fuel - 2, by omega⟩
  have hitems := h true fuel hdash hmore (by omega)
  have hbegins : Begins (Printer.items (col + 2) true (x :: xs) ++ more) := ⟨'-', _, rfl, rfl⟩
  rw [List.cons_append, nodeAt_begun hbegins hk]
  exact node_items rfl hdash hitems

theorem ReadsItems.cons (hx : x.Regular) (h : ReadsItem x) (hxs : xs ≠ [] → ReadsItems xs) :
    ReadsItems (x :: xs) := by
  intro closed fuel col k more hcol hmore hfuel
  have hleads : (k.after '-').leads = false :=
    Cursor.after_leads_of_visible rfl (by decide) (by decide)
  have hspace : (k.after '-').col = col + 1 := by rw [Cursor.after_col rfl, hcol]
  have hends : endsInBreak ([' '] ++ Printer.inColumn (col + 2) true x) = true :=
    endsInBreak_append (isLines_inColumn (col + 2) true x hx).ends
  have hfresh := Cursor.past_isFresh (k := k.after '-') hends
  have hbegins : ∀ ds, Begins (Printer.inColumn (col + 2) true x ++ ds) := fun ds =>
    (begins_inColumn (col + 2) hx).append
  rw [Printer.items_begun, List.length_cons, List.length_append, List.length_cons] at hfuel
  obtain ⟨fuel, rfl⟩ : ∃ n, fuel = n + 1 := ⟨fuel - 1, by omega⟩
  have hitem := h fuel hleads hspace (follows_items xs hmore) (by omega)
  rw [Printer.items_begun, List.cons_append, List.append_assoc, Cursor.past_cons,
    Cursor.past_append]
  -- the reader decides at the next token whether there are more items
  cases xs with
  | nil => exact items_last (hbegins _) hfresh hitem hmore
  | cons y ys =>
    obtain ⟨hdash, hlead⟩ := hfresh.past_spaces col
    rw [Printer.items_indented, List.length_append] at hfuel
    have hitems := hxs (List.cons_ne_nil y ys) closed fuel hdash hmore (by omega)
    rw [Printer.items_indented] at hitem ⊢
    rw [Cursor.past_append]
    refine items_cons (hbegins _) hitem ?_ hdash hlead hitems
    rw [List.append_assoc]
    exact skip_place_indented rfl

/-! ### Records -/

/-- A record begins with the name of its first field. -/
theorem starts_fields (hfs : RegularFields (f :: fs)) (col : Nat) (more : List Char) :
    ∃ c r, Printer.fields col true (f :: fs) ++ more = c :: r ∧ StartsToken (c :: r) := by
  obtain ⟨name, x⟩ := f
  obtain ⟨c, cs, hcs, hc⟩ := exists_first_of_isWord hfs.1
  rw [Printer.fields_begun, hcs]
  exact ⟨c, _, rfl, .name hc⟩

theorem ReadsRecord.toValue (hfs : RegularFields (f :: fs)) (h : ReadsRecord (f :: fs)) :
    ReadsValue (.record (f :: fs)) := by
  intro fuel col k more hk hcol hmore hfuel
  have hfresh : (k.after '\n').IsFresh := Cursor.after_of_break rfl
  obtain ⟨hkey, hlead⟩ := hfresh.past_spaces (col + 2)
  obtain ⟨c, r, hcr, hstarts⟩ := starts_fields hfs (col + 2) more
  have hmore : Follows (outside (col + 2)) more := hmore.mono fun m c hallowed =>
    hallowed.elim (fun hlt => Nat.lt_succ_of_lt (Nat.lt_succ_of_lt hlt))
      fun heq => Nat.lt_succ_of_le (Nat.le_succ_of_le (Nat.le_of_eq heq.1))
  rw [Printer.afterKey_record, Printer.fields_indented, List.length_cons,
    List.length_append] at hfuel
  obtain ⟨fuel, rfl⟩ : ∃ n, fuel = n + 1 := ⟨fuel - 1, by omega⟩
  have hskip : skip false (k.place ('\n' :: (spaces (col + 2) ++ (c :: r))))
      = ((k.after '\n').past (spaces (col + 2))).place (c :: r) := by
    rw [skip_place_break rfl]
    exact skip_place_indented hstarts.isPassedOver
  have hfloor : (Site.ofValue col).floor ≤ ((k.after '\n').past (spaces (col + 2))).col := by
    rw [hkey]
    exact Nat.le_succ (col + 1)
  rw [Printer.afterKey_record, Printer.fields_indented, Cursor.past_cons, Cursor.past_append,
    List.cons_append, List.append_assoc, hcr, nodeAt_indented hskip hlead hstarts hfloor, ← hcr]
  exact h fuel rfl (Nat.le_succ_of_le hfloor) hkey hmore (by omega)

theorem ReadsRecord.toItem (hfs : RegularFields (f :: fs)) (h : ReadsRecord (f :: fs)) :
    ReadsItem (.record (f :: fs)) := by
  intro fuel col k more hk hcol hmore hfuel
  have hkey : (k.after ' ').col = col + 2 := by rw [Cursor.after_col rfl, hcol]
  have hmore : Follows (outside (col + 2)) more :=
    hmore.mono fun m c hle => Nat.lt_succ_of_le (Nat.le_succ_of_le hle)
  obtain ⟨c, r, hcr, hstarts⟩ := starts_fields hfs (col + 2) more
  rw [Printer.inColumn_record] at hfuel ⊢
  obtain ⟨fuel, rfl⟩ : ∃ n, fuel = n + 1 := ⟨fuel - 1, by omega⟩
  have hbegins : Begins (Printer.fields (col + 2) true (f :: fs) ++ more) :=
    ⟨c, r, hcr, hstarts.isPassedOver⟩
  have hfloor : (Site.ofItem col).floor ≤ (k.after ' ').col + 1 := by
    rw [hkey]
    exact Nat.le_add_right (col + 1) 2
  rw [List.cons_append, nodeAt_begun hbegins hk]
  exact h fuel rfl hfloor hkey hmore (by omega)

/-- A value behind its key and the fields after it are read, be the key the first of its record or
not. -/
theorem field_yields (fuel : Nat) (hname : isWord name = true) (hx : x.Regular)
    (hfs : RegularFields fs) (hvalue : ReadsValue x) (hrest : ReadsFields fs)
    (hcol : k.col = col) (hmore : Follows (outside col) more)
    (hfuel : 6 * ((Printer.afterKey col x).length + (Printer.fields col false fs).length) < fuel) :
    Yields (nodeAt (.ofValue col) fuel ((k.past (name.toList ++ [':'])).place
        (Printer.afterKey col x ++ (Printer.fields col false fs ++ more)))) (ofDocument x)
      (((k.past (name.toList ++ [':'])).past (Printer.afterKey col x)).place
        (Printer.fields col false fs ++ more)) ∧
    ∀ s, skip false s = skip false
        (((k.past (name.toList ++ [':'])).past (Printer.afterKey col x)).place
          (Printer.fields col false fs ++ more)) →
      Yields (fields col fuel s) (ofFields fs)
        ((k.past (Printer.fields col true ((name, x) :: fs))).place more) := by
  obtain ⟨hleads, hspace⟩ := past_key (k := k) hname
  have hfresh : ((k.past (name.toList ++ [':'])).past (Printer.afterKey col x)).IsFresh :=
    Cursor.past_isFresh (isLines_afterKey col x hx).ends
  have hpast : k.past (Printer.fields col true ((name, x) :: fs))
      = ((k.past (name.toList ++ [':'])).past (Printer.afterKey col x)).past
        (Printer.fields col false fs) := by
    rw [Printer.fields_begun, ← Cursor.past_append, ← Cursor.past_append]
    simp
  refine ⟨hvalue fuel hleads ?_ (follows_fields hfs hmore) (by omega), fun s hs => ?_⟩
  · exact hcol ▸ Nat.le_of_lt hspace
  · rw [hpast]
    exact hrest fuel hfresh hmore (by omega) hs

theorem ReadsFields.nil : ReadsFields [] := by
  intro fuel col k more s hk hmore hfuel hs
  obtain ⟨fuel, rfl⟩ : ∃ n, fuel = n + 1 := ⟨fuel - 1, by omega⟩
  exact fields_nil hs hk hmore

theorem ReadsFields.cons (hname : isWord name = true) (hx : x.Regular) (hfs : RegularFields fs)
    (hvalue : ReadsValue x) (hrest : ReadsFields fs) : ReadsFields ((name, x) :: fs) := by
  intro fuel col k more s hk hmore hfuel hs
  obtain ⟨hcol, hlead⟩ := hk.past_spaces col
  obtain ⟨c, r, hcr, hstarts⟩ := starts_fields (f := (name, x)) ⟨hname, hx, hfs⟩ col more
  rw [Printer.fields_indented, List.append_assoc, hcr, skip_place_indented hstarts.isPassedOver,
    ← hcr, Printer.fields_begun, List.append_assoc, List.cons_append, List.append_assoc] at hs
  rw [Printer.fields_indented, Printer.fields_begun, List.length_append, List.length_append,
    List.length_cons, List.length_append] at hfuel
  obtain ⟨fuel, rfl⟩ : ∃ n, fuel = n + 3 := ⟨fuel - 3, by omega⟩
  obtain ⟨hvalue, hrest⟩ := field_yields (fuel + 2) hname hx hfs hvalue hrest hcol hmore
    (by omega)
  rw [Printer.fields_indented, Cursor.past_append]
  exact fields_cons hs hname hlead hcol (spaced_afterKey x).append hvalue hrest

theorem ReadsRecord.cons (hname : isWord name = true) (hx : x.Regular) (hfs : RegularFields fs)
    (hvalue : ReadsValue x) (hrest : ReadsFields fs) : ReadsRecord ((name, x) :: fs) := by
  intro fuel site col k more hopens hfloor hcol hmore hfuel
  have hlength := List.length_pos_of_ne_nil (isHarmless_of_isWord hname).1
  rw [Printer.fields_begun, List.length_append, List.length_cons, List.length_append] at hfuel
  obtain ⟨fuel, rfl⟩ : ∃ n, fuel = n + 3 := ⟨fuel - 3, by omega⟩
  obtain ⟨hvalue, hrest⟩ := field_yields (fuel + 2) hname hx hfs hvalue hrest hcol hmore
    (by omega)
  have htext : Printer.fields col true ((name, x) :: fs) ++ more
      = name.toList ++
        ':' :: (Printer.afterKey col x ++ (Printer.fields col false fs ++ more)) := by
    rw [Printer.fields_begun, List.append_assoc, List.cons_append, List.append_assoc]
  rw [htext]
  exact node_record hname hopens hfloor hcol (spaced_afterKey x).append hvalue hrest

end Parts

/-! ## 3. All documents -/

mutual

/-- **Every value is read back.** -/
theorem readsValue : ∀ d : Document, d.Regular → ReadsValue d
  | .list (x :: xs), h => (readsItems (x :: xs) h (List.cons_ne_nil x xs)).toValue
  | .record (f :: fs), h => (readsRecord (f :: fs) h.2 (List.cons_ne_nil f fs)).toValue h.2
  | .list [], h | .record [], h | .flag _, h | .integer _, h | .text _, h => .of_isInline h rfl

/-- **Every item is read back.** -/
theorem readsItem : ∀ d : Document, d.Regular → ReadsItem d
  | .list (x :: xs), h => (readsItems (x :: xs) h (List.cons_ne_nil x xs)).toItem
  | .record (f :: fs), h => (readsRecord (f :: fs) h.2 (List.cons_ne_nil f fs)).toItem h.2
  | .list [], h | .record [], h | .flag _, h | .integer _, h | .text _, h => .of_isInline h rfl

theorem readsItems : ∀ xs : List Document, RegularItems xs → xs ≠ [] → ReadsItems xs
  | [], _, hne => absurd rfl hne
  | x :: xs, ⟨hx, hxs⟩, _ => .cons hx (readsItem x hx) (readsItems xs hxs)

theorem readsFields : ∀ fs : List (String × Document), RegularFields fs → ReadsFields fs
  | [], _ => .nil
  | (_, x) :: fs, ⟨hname, hx, hfs⟩ =>
    .cons hname hx hfs (readsValue x hx) (readsFields fs hfs)

theorem readsRecord : ∀ fs : List (String × Document), RegularFields fs → fs ≠ [] →
    ReadsRecord fs
  | [], _, hne => absurd rfl hne
  | (_, x) :: fs, ⟨hname, hx, hfs⟩, _ =>
    .cons hname hx hfs (readsValue x hx) (readsFields fs hfs)

end

/-! ## 4. The whole text -/

/-- The place where a text begins. -/
def Cursor.start : Cursor := { line := 0, col := 0, offset := 0, leads := true }

variable {f : String × Document} {fs : List (String × Document)}

/-- A text of fields is a document, of which nothing is left. -/
theorem document_fields (hfs : RegularFields (f :: fs)) :
    document (Cursor.start.place (Printer.fields 0 true (f :: fs)))
      = some (.record (ofFields (f :: fs))) := by
  obtain ⟨c, r, hcr, hstarts⟩ := starts_fields hfs 0 []
  rw [List.append_nil] at hcr
  have hskip : skip false (Cursor.start.place (c :: r)) = Cursor.start.place (c :: r) :=
    skip_place_cons hstarts.isPassedOver
  have hend : atEnd (Cursor.start.place (c :: r)) = false := hstarts.not_atEnd
  obtain ⟨hdash, hdot⟩ := Bool.or_eq_false_iff.mp hend
  have hyields : Yields (node { floor := 0 } (6 * (Printer.fields 0 true (f :: fs)).length + 5)
      (Cursor.start.place (Printer.fields 0 true (f :: fs) ++ []))) _ _ :=
    readsRecord (f :: fs) hfs (List.cons_ne_nil f fs) _ rfl (Nat.zero_le 1) rfl .nothing
      (Nat.le_add_right _ 5)
  obtain ⟨rest, hnode, hrest⟩ := hyields
  have hread : nodeAt { floor := 0 } (6 * (Printer.fields 0 true (f :: fs)).length + 6)
      (Cursor.start.place (Printer.fields 0 true (f :: fs)))
        = some (.record (ofFields (f :: fs)), rest) := by
    rw [List.append_nil, hcr] at hnode
    rw [hcr, nodeAt_indented hskip rfl hstarts (Nat.zero_le _)]
    exact hnode
  have hclosed : isClosed (6 * (Printer.fields 0 true (f :: fs)).length + 6) rest = true := by
    rw [isClosed, hrest]
    rfl
  rw [document, Cursor.length_place]
  rw [← hcr] at hskip hdash hdot
  rw [hskip, if_neg (by simp [hdot]), if_neg (by simp [hdash]), hread]
  exact if_pos hclosed

/-- **A written record is parsed as its own node.** -/
theorem parse_write (hd : (Document.record (f :: fs)).Regular) :
    parse (write (.record (f :: fs)))
      = some { targets := [], node := ofDocument (.record (f :: fs)) } := by
  have hlines := isLines_inColumn 0 false (.record (f :: fs)) hd
  have htext : Printer.inColumn 0 false (.record (f :: fs)) = Printer.fields 0 true (f :: fs) := by
    rw [Printer.inColumn_record, Printer.fields_indented]
    rfl
  rw [htext] at hlines
  have hglyphs : glyphs (Printer.fields 0 true (f :: fs))
      = Cursor.start.place (Printer.fields 0 true (f :: fs)) := by
    rw [glyphs, hlines.uniform_eq]
    rfl
  have hlink : Source.ofNode (.record (ofFields (f :: fs)))
      = some { targets := [], node := ofDocument (.record (f :: fs)) } :=
    Source.ofNode_ofDocument (.record (f :: fs))
  rw [parse, write, htext, String.toList_ofList, if_pos hlines.isAdmitted, hglyphs,
    document_fields hd.2, Option.bind_some, hlink]

end PluginArbiter.Yaml
