/-
# Reading items and fields

How the reader goes on from one item or field to the next, and where it stops.  A list ends before a
token that does not belong to it, a record before a token further left; both are stated of what the
reader leaves, because it looks for the next token before it decides.

Main statements:
* `node_record`, `fields_cons`, `fields_nil`: one field of a record, and its end;
* `items_cons`, `items_last`: one item of a list, and the last one;
* `nodeAt_items`, `nodeAt_indented`: what begins on a line of its own.
-/
import PluginArbiter.Proofs.Yaml.Inline

namespace PluginArbiter.Yaml

open Style Document Node

variable {site : Site} {fuel col : Nat} {k k' : Cursor} {c : Char} {cs r more : List Char}
  {next next' : List Glyph}

/-! ## 1. One field -/

section Fields

variable {name : String} {value : Node String} {fs : List (Node String × Node String)}
  {s : List Glyph}

/-- Behind the colon of a key its line has begun. -/
theorem past_key (hname : isWord name = true) :
    (k.past (name.toList ++ [':'])).leads = false ∧
      k.col < (k.past (name.toList ++ [':'])).col := by
  obtain ⟨d, cs, hcs, hd⟩ := exists_first_of_isWord hname
  have hunbroken : ∀ c ∈ d :: (cs ++ [':']), isBreak c = false := by
    intro c hc
    rw [← List.cons_append, ← hcs] at hc
    rcases List.mem_append.mp hc with hc | hc
    · exact isBreak_of_not_isPassedOver
        (isPassedOver_of_isLetter ((isLetter_of_isWord hname).2 c hc))
    · exact List.mem_singleton.mp hc ▸ rfl
  obtain ⟨hfirst, hrest⟩ := List.forall_mem_cons.mp hunbroken
  have hleads := Cursor.after_leads_of_visible (k := k) hfirst (ne_of_class hd rfl)
    (ne_of_class hd rfl)
  have hcol := (k.past_line_col hunbroken).2
  rw [hcs, List.cons_append]
  refine ⟨Cursor.past_leads (k := k.after d) hrest hleads, ?_⟩
  rw [hcol, List.length_cons]
  omega

/-- The colon is the next token behind the name. -/
theorem skip_colon {rest : List Glyph}
    (hrest : skip false rest = skip false ((k.past name.toList).place (':' :: c :: r))) :
    skip false rest =
      (k.past name.toList).glyph ':' :: (k.past (name.toList ++ [':'])).place (c :: r) := by
  rw [hrest, skip_place_cons rfl, Cursor.place_cons, Cursor.past_append]
  rfl

/-- With it the name is a key. -/
theorem isKey (hname : isWord name = true) (hc : isSpace c = true) (first : Char) :
    (atIndicator ':'
        ((k.past name.toList).glyph ':' :: (k.past (name.toList ++ [':'])).place (c :: r))
      && canBeKey (k.glyph first) ((k.past name.toList).glyph ':')) = true := by
  rw [canBeKey_name hname, Cursor.place_cons, Bool.and_true]
  exact hc

/-- **A record is read** if its first value is, and its further fields are. -/
theorem node_record (hname : isWord name = true) (hopens : site.opens = true)
    (hfloor : site.floor ≤ k.col + 1) (hcol : k.col = col) (hcs : Spaced cs)
    (hvalue : Yields (nodeAt (.ofValue col) (fuel + 2)
      ((k.past (name.toList ++ [':'])).place cs)) value next)
    (hfields : ∀ s, skip false s = skip false next → Yields (fields col (fuel + 2) s) fs next') :
    Yields (node site (fuel + 3) (k.place (name.toList ++ ':' :: cs)))
      (.record ((.scalar true name, value) :: fs)) next' := by
  subst hcol
  obtain ⟨c, r, rfl, hc⟩ := hcs
  have hkey := leaf_key fuel (r := r) hname hfloor hc
  obtain ⟨hne, hharmless⟩ := isHarmless_of_isWord hname
  have hsafe := isPlainSafe_of_harmless hne hharmless
  obtain ⟨d, cs, hcs, -⟩ := exists_first_of_isWord hname
  have htext : name.toList ++ ':' :: c :: r = d :: (cs ++ ':' :: c :: r) := by
    rw [hcs, List.cons_append]
  rw [hcs] at hsafe
  rw [htext, node_eq_leaf (startsLeaf_of_isPlainSafe hsafe), ← htext]
  refine hkey.bind fun rest hrest => ?_
  simp only [skip_colon hrest, isKey hname hc, hopens, if_true]
  refine hvalue.bind fun rest hrest => ?_
  exact (hfields rest hrest).map fun fs => Node.record ((.scalar true name, value) :: fs)

/-- **Further fields are read** one after the other. -/
theorem fields_cons (hs : skip false s = k.place (name.toList ++ ':' :: cs))
    (hname : isWord name = true) (hk : k.leads = true) (hcol : k.col = col) (hcs : Spaced cs)
    (hvalue : Yields (nodeAt (.ofValue col) (fuel + 2)
      ((k.past (name.toList ++ [':'])).place cs)) value next)
    (hfields : ∀ s, skip false s = skip false next → Yields (fields col (fuel + 2) s) fs next') :
    Yields (fields col (fuel + 3) s) ((.scalar true name, value) :: fs) next' := by
  subst hcol
  obtain ⟨c, r, rfl, hc⟩ := hcs
  have hkey := leaf_key fuel (r := r) hname (Nat.le_refl (k.col + 1)) hc
  obtain ⟨d, cs, hcs, hd⟩ := exists_first_of_isWord hname
  have hstarts : StartsToken (d :: (cs ++ ':' :: c :: r)) := .name hd
  have htext : k.place (name.toList ++ ':' :: c :: r)
      = k.glyph d :: (k.after d).place (cs ++ ':' :: c :: r) := by
    rw [hcs, List.cons_append, Cursor.place_cons]
  have hend : atEnd (k.glyph d :: (k.after d).place (cs ++ ':' :: c :: r)) = false := by
    rw [← Cursor.place_cons]
    exact hstarts.not_atEnd
  have hskip : skip false (k.glyph d :: (k.after d).place (cs ++ ':' :: c :: r))
      = k.place (name.toList ++ ':' :: c :: r) := by
    rw [htext, ← Cursor.place_cons]
    exact skip_place_cons hstarts.isPassedOver
  have hanchor : anchor? (k.glyph d :: (k.after d).place (cs ++ ':' :: c :: r))
      = some (none, k.glyph d :: (k.after d).place (cs ++ ':' :: c :: r)) := by
    rw [← Cursor.place_cons]
    exact anchor?_place (ne_of_class hd rfl)
  rw [htext] at hs
  rw [fields, hs]
  simp only [Cursor.glyph_leads, Cursor.glyph_col, hk, hend, hanchor, hskip, Option.bind_some,
    Nat.lt_irrefl, Bool.not_true, Bool.false_eq_true, if_false, decide_false, Bool.or_self]
  refine hkey.bind fun rest hrest => ?_
  simp only [skip_colon hrest, isKey hname hc, if_true]
  refine hvalue.bind fun rest hrest => ?_
  exact (hfields rest hrest).map fun fs => (.scalar true name, value) :: fs

/-- Fields end before a token further left. -/
theorem fields_nil (hs : skip false s = skip false (k.place more)) (hk : k.IsFresh)
    (hmore : Follows (outside col) more) : Yields (fields col (fuel + 1) s) [] (k.place more) := by
  rcases hmore.skip_eq hk with hnone | ⟨k', c, r, htoken, hleads, hcol, hstarts⟩
  · rw [hnone] at hs
    rw [fields, hs]
    exact ⟨[], rfl, hnone.symm⟩
  · rw [htoken, Cursor.place_cons] at hs
    have hcol : k'.col < col := hcol
    rw [fields, hs]
    simp only [Cursor.glyph_leads, hleads, Cursor.glyph_col, hcol]
    refine ⟨s, by simp, ?_⟩
    rw [hs, htoken, Cursor.place_cons]

end Fields

/-! ## 2. One item -/

section Items

variable {closed : Bool} {item : Node String} {xs : List (Node String)}

theorem atIndicator_dash : atIndicator '-' (k.place ('-' :: ' ' :: r)) = true := by
  rw [Cursor.place_cons, Cursor.place_cons]
  rfl

/-- No tab separates a dash from what is written behind it. -/
theorem not_tabFollows (hcs : Begins cs) : tabFollows (k.place (' ' :: cs)) = false := by
  obtain ⟨c, r, rfl, hc⟩ := hcs
  have hspace : c ≠ ' ' := by
    rintro rfl
    exact absurd hc (by decide)
  have htab : c ≠ '\t' := by
    rintro rfl
    exact absurd hc (by decide)
  rw [Cursor.place_cons, Cursor.place_cons, tabFollows]
  simp [hspace, htab]

/-- **A list ends** with an item before a token that does not belong to it. -/
theorem items_last (hcs : Begins cs) (hk : k'.IsFresh)
    (hitem : Yields (nodeAt (.ofItem col) fuel ((k.after '-').place (' ' :: cs))) item
      (k'.place more))
    (hmore : Follows (if closed then outside col else afterValue col) more) :
    Yields (items closed col (fuel + 1) (k.place ('-' :: ' ' :: cs))) [item] (k'.place more) := by
  rw [Cursor.place_cons, items, not_tabFollows hcs, if_neg (by simp)]
  refine hitem.bind fun rest hrest => ?_
  rcases hmore.skip_eq hk with hnone | ⟨k'', c, r, htoken, hleads, hallowed, hstarts⟩
  · rw [hnone] at hrest
    simp only [hrest]
    exact ⟨[], rfl, hnone.symm⟩
  · have hend : atEnd (k''.place (c :: r)) = false := hstarts.not_atEnd
    rw [htoken] at hrest
    refine ⟨rest, ?_, by rw [hrest, htoken]⟩
    rw [Cursor.place_cons] at hrest hend
    simp only [hrest, Cursor.glyph_leads, Cursor.glyph_col, hleads, hend]
    cases closed with
    | true =>
      have hcol : k''.col < col := hallowed
      simp [hcol]
    | false =>
      rcases hallowed with hcol | ⟨hcol, hdash⟩
      · simp [hcol]
      · simp [hcol, atIndicator, hdash]

/-- **A list goes on** with a dash in its column. -/
theorem items_cons (hcs : Begins cs)
    (hitem : Yields (nodeAt (.ofItem col) fuel ((k.after '-').place (' ' :: cs))) item next)
    (hnext : skip false next = k'.place ('-' :: ' ' :: r)) (hcol : k'.col = col)
    (hleads : k'.leads = true)
    (hitems : Yields (items closed col fuel (k'.place ('-' :: ' ' :: r))) xs next') :
    Yields (items closed col (fuel + 1) (k.place ('-' :: ' ' :: cs))) (item :: xs) next' := by
  have hend : atEnd (k'.place ('-' :: ' ' :: r)) = false := StartsToken.dash.not_atEnd
  have hdash := atIndicator_dash (k := k') (r := r)
  rw [Cursor.place_cons] at hnext hend hdash hitems
  rw [Cursor.place_cons, items, not_tabFollows hcs, if_neg (by simp)]
  refine hitem.bind fun rest hrest => ?_
  simp only [hrest, hnext, Cursor.glyph_leads, Cursor.glyph_col, hleads, hend, hdash, hcol,
    Nat.lt_irrefl, Bool.not_true, Bool.false_eq_true, if_false, decide_false, Bool.or_self, if_true]
  exact hitems.map fun xs => item :: xs

/-- Behind a dash a list may begin at once. -/
theorem node_items (hopens : site.opens = true) (hcol : k.col = col)
    (hitems : Yields (items true col fuel (k.place ('-' :: ' ' :: r))) xs next) :
    Yields (node site (fuel + 1) (k.place ('-' :: ' ' :: r))) (.list xs) next := by
  subst hcol
  have hdash := atIndicator_dash (k := k) (r := r)
  rw [Cursor.place_cons] at hdash hitems ⊢
  rw [node, if_pos hdash, if_pos hopens]
  exact hitems.map fun xs => Node.list xs

end Items

/-! ## 3. On a line of its own -/

/-- The list of a key is found in the column of the key. -/
theorem nodeAt_items {s : List Glyph} {xs : List (Node String)}
    (hs : skip false s = k.place ('-' :: ' ' :: r)) (hcol : k.col = col) (hk : k.leads = true)
    (hitems : Yields (items false col fuel (k.place ('-' :: ' ' :: r))) xs next) :
    Yields (nodeAt (.ofValue col) (fuel + 1) s) (.list xs) next := by
  subst hcol
  have hend : atEnd (k.place ('-' :: ' ' :: r)) = false := StartsToken.dash.not_atEnd
  have hdash := atIndicator_dash (k := k) (r := r)
  rw [Cursor.place_cons] at hs hend hdash hitems
  rw [nodeAt, hs]
  simp only [hend, Cursor.glyph_leads, Cursor.glyph_col, hk, hdash, Site.ofValue]
  rw [if_neg (by simp), if_neg (by simp), if_neg (by simp), if_neg (by simp [isBlockIndicator]),
    if_pos (by simp)]
  exact hitems.map fun xs => Node.list xs

/-- What is indented far enough is read where it begins, and may be a list or a record. -/
theorem nodeAt_indented {s : List Glyph} (hs : skip false s = k.place (c :: r))
    (hk : k.leads = true) (hstarts : StartsToken (c :: r)) (hfloor : site.floor ≤ k.col) :
    nodeAt site (fuel + 1) s = node { site with opens := true } fuel (k.place (c :: r)) := by
  have hend : atEnd (k.place (c :: r)) = false := hstarts.not_atEnd
  rw [Cursor.place_cons] at hs hend ⊢
  rw [nodeAt, hs]
  simp [hend, hk, hfloor]

end PluginArbiter.Yaml
