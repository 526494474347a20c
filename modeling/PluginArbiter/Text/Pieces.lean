/-
# Cutting a text into pieces

A text is cut at every separator; between two separators lies a piece, possibly an empty one.

Main statements:
* `join_pieces`: putting the separators back gives the text;
* `pieces_join`: pieces without the separator are found again;
* `getLast?_pieces_append`: the last piece is what follows the last separator.
-/
namespace PluginArbiter.Text

/-- The pieces of a text between the separators. -/
def pieces (sep : Char) : List Char → List (List Char)
  | [] => [[]]
  | c :: r =>
    if c = sep then [] :: pieces sep r
    else
      match pieces sep r with
      | [] => [[c]]
      | p :: ps => (c :: p) :: ps

/-- The pieces with a separator between each two. -/
def join (sep : Char) : List (List Char) → List Char
  | [] => []
  | [p] => p
  | p :: q :: ps => p ++ sep :: join sep (q :: ps)

/-- There is always a piece. -/
theorem pieces_ne_nil (sep : Char) (cs : List Char) : pieces sep cs ≠ [] := by
  cases cs with
  | nil => simp [pieces]
  | cons c r =>
    simp only [pieces]
    split
    · simp
    · split <;> simp

/-- Putting the separators back gives the text. -/
theorem join_pieces (sep : Char) (cs : List Char) : join sep (pieces sep cs) = cs := by
  induction cs with
  | nil => rfl
  | cons c r ih =>
    obtain ⟨p, ps, hp⟩ := List.exists_cons_of_ne_nil (pieces_ne_nil sep r)
    rw [hp] at ih
    simp only [pieces, hp]
    split
    · rename_i h
      rw [join, ih, h]
      rfl
    · cases ps with
      | nil => simpa [join] using ih
      | cons q qs => simpa [join] using ih

/-- A text without a separator is one piece. -/
theorem pieces_of_not_mem {sep : Char} {cs : List Char} (h : sep ∉ cs) : pieces sep cs = [cs] := by
  induction cs with
  | nil => rfl
  | cons c r ih =>
    obtain ⟨hc, hr⟩ := not_or.mp (mt List.mem_cons.mpr h)
    rw [pieces, if_neg (Ne.symm hc), ih hr]

/-- The pieces on both sides of a separator. -/
theorem pieces_append (sep : Char) (before after : List Char) :
    pieces sep (before ++ sep :: after) = pieces sep before ++ pieces sep after := by
  induction before with
  | nil => simp [pieces]
  | cons c r ih =>
    obtain ⟨p, ps, hp⟩ := List.exists_cons_of_ne_nil (pieces_ne_nil sep r)
    rw [List.cons_append, pieces, pieces, ih, hp]
    split <;> rfl

/-- The last piece is what follows the last separator. -/
theorem getLast?_pieces_append {sep : Char} {last : List Char} (h : sep ∉ last)
    (before : List Char) : (pieces sep (before ++ sep :: last)).getLast? = some last := by
  rw [pieces_append, pieces_of_not_mem h, List.getLast?_concat]

/-- A text with a separator has a last one. -/
theorem exists_last_separator {sep : Char} {cs : List Char} (h : sep ∈ cs) :
    ∃ before last, cs = before ++ sep :: last ∧ sep ∉ last := by
  obtain ⟨after, before, heq, hlast⟩ := List.eq_append_cons_of_mem (List.mem_reverse.mpr h)
  refine ⟨before.reverse, after.reverse, ?_, by simpa using hlast⟩
  simpa using congrArg List.reverse heq

theorem mem_join {sep c : Char} {ps : List (List Char)} (h : c ∈ join sep ps) :
    c = sep ∨ ∃ p ∈ ps, c ∈ p := by
  induction ps with
  | nil => exact absurd h List.not_mem_nil
  | cons p ps ih =>
    cases ps with
    | nil => exact Or.inr ⟨p, List.mem_singleton_self p, h⟩
    | cons q qs =>
      rcases List.mem_append.mp h with hp | hrest
      · exact Or.inr ⟨p, List.mem_cons_self, hp⟩
      · rcases List.mem_cons.mp hrest with rfl | hrest
        · exact Or.inl rfl
        · rcases ih hrest with hsep | ⟨p', hp', hc⟩
          · exact Or.inl hsep
          · exact Or.inr ⟨p', List.mem_cons_of_mem _ hp', hc⟩

theorem mem_join_of_mem {sep c : Char} {ps : List (List Char)} {p : List Char} (hp : p ∈ ps)
    (hc : c ∈ p) : c ∈ join sep ps := by
  induction ps with
  | nil => exact absurd hp List.not_mem_nil
  | cons q qs ih =>
    cases qs with
    | nil =>
      rw [List.mem_singleton.mp hp] at hc
      exact hc
    | cons r rs =>
      rcases List.mem_cons.mp hp with rfl | hp
      · exact List.mem_append_left _ hc
      · exact List.mem_append_right _ (List.mem_cons_of_mem _ (ih hp))

/-- Pieces are parts of the text. -/
theorem mem_of_mem_pieces {sep c : Char} {cs p : List Char} (hp : p ∈ pieces sep cs) (hc : c ∈ p) :
    c ∈ cs := by
  rw [← join_pieces sep cs]
  exact mem_join_of_mem hp hc

/-- Pieces without the separator are found again. -/
theorem pieces_join {sep : Char} {ps : List (List Char)} (hne : ps ≠ []) (h : ∀ p ∈ ps, sep ∉ p) :
    pieces sep (join sep ps) = ps := by
  induction ps with
  | nil => exact absurd rfl hne
  | cons p ps ih =>
    have hp : pieces sep p = [p] := pieces_of_not_mem (h p List.mem_cons_self)
    cases ps with
    | nil => exact hp
    | cons q qs =>
      rw [join, pieces_append, hp, ih (by simp) fun p' hp' => h p' (List.mem_cons_of_mem _ hp')]
      rfl

end PluginArbiter.Text
