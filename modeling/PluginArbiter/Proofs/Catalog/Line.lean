/-
# The line before a kept value

Those who ask for a kept value that is not there yet form a line.  Its first member has the turn;
the others wait behind him.  A line is orderly when nobody stands in it twice, nobody waits while
the turn is free, and nobody stands in it at all once the value is there.

Every operation keeps a line orderly, and says who stands in it afterwards: whoever asks goes to the
end unless he stands in it, whoever leaves is taken out wherever he stands, and whoever had the turn
and comes back empty-handed leaves the others in their places.

Main statements:
* `Orderly.ask`, `Orderly.finish`, `Orderly.leave`: lines stay orderly;
* `Orderly.callers_ask`, `callers_finish_error`, `Orderly.callers_leave`: who stands in them.
-/
import Mathlib.Data.List.Nodup
import PluginArbiter.Catalog.Cache

namespace PluginArbiter.Cache

variable {α ε : Type} {c : Cache α}

/-- Those who stand in line, the one who has the turn first. -/
def callers (c : Cache α) : List Nat := c.holder.toList ++ c.waiting

/-- What holds of the line at any time. -/
structure Orderly (c : Cache α) : Prop where
  served : c.stored.isSome → c.callers = []
  turn : c.holder = none → c.waiting = []
  nodup : c.callers.Nodup

/-- Before anybody has asked the line is empty. -/
theorem orderly_empty : ({} : Cache α).Orderly :=
  ⟨fun h => absurd h (by simp), fun _ => rfl, List.nodup_nil⟩

/-! ## 1. What is kept -/

theorem stored_ask (c : Cache α) (caller : Nat) : (c.ask caller).2.stored = c.stored := by
  unfold ask
  split
  · rfl
  · rfl
  · split
    · rfl
    · split <;> rfl

theorem stored_leave (c : Cache α) (caller : Nat) : (c.leave caller).stored = c.stored := by
  unfold leave
  split <;> rfl

/-- What is kept when a fetch has ended was kept before or is what was fetched. -/
theorem stored_finish {result : Except ε α} {value : α}
    (h : (c.finish result).stored = some value) : c.stored = some value ∨ result = .ok value := by
  cases result with
  | ok v => exact Or.inr (congrArg Except.ok (Option.some.inj h))
  | error fault => exact Or.inl h

/-! ## 2. Who stands in line -/

theorem callers_of_holder {caller : Nat} (h : c.holder = some caller) :
    c.callers = caller :: c.waiting := by
  simp [callers, h]

/-- Passing the turn leaves those who waited, in their order. -/
theorem callers_pass (c : Cache α) : c.pass.callers = c.waiting := by
  unfold callers pass
  cases c.waiting <;> rfl

/-- A failure takes nobody out of the line but the one who had the turn. -/
theorem callers_finish_error (c : Cache α) (fault : ε) :
    (c.finish (.error fault : Except ε α)).callers = c.waiting :=
  callers_pass c

/-- After a success nobody stands in line. -/
theorem callers_finish_ok (c : Cache α) (value : α) :
    (c.finish (.ok value : Except ε α)).callers = [] := rfl

/-- Whoever has come back stands in line no longer, and nobody has joined. -/
theorem Orderly.mem_callers_finish (h : c.Orderly) {caller : Nat} (hholder : c.holder = some caller)
    (result : Except ε α) {x : Nat} (hx : x ∈ (c.finish result).callers) :
    x ∈ c.callers ∧ x ≠ caller := by
  cases result with
  | ok value =>
    rw [callers_finish_ok] at hx
    exact absurd hx List.not_mem_nil
  | error fault =>
    rw [callers_finish_error] at hx
    have hnodup := h.nodup
    rw [callers_of_holder hholder] at hnodup ⊢
    refine ⟨List.mem_cons_of_mem _ hx, ?_⟩
    rintro rfl
    exact (List.nodup_cons.mp hnodup).1 hx

/-- Where the turn is free the line is empty. -/
theorem Orderly.callers_eq_nil (h : c.Orderly) (hholder : c.holder = none) : c.callers = [] := by
  simp [callers, hholder, h.turn hholder]

/-- **Asking.**  One who finds the value does not join; one who stands in line keeps his place;
everybody else goes to the end. -/
theorem Orderly.callers_ask (h : c.Orderly) (caller : Nat) :
    (c.ask caller).2.callers =
      if c.stored.isSome ∨ caller ∈ c.callers then c.callers else c.callers ++ [caller] := by
  unfold ask
  split
  · rename_i hstored
    simp [hstored]
  · rename_i hstored hholder
    rw [h.callers_eq_nil hholder]
    simp [hstored, callers, h.turn hholder]
  · rename_i x hstored hholder
    rw [callers_of_holder hholder]
    split
    · rename_i he
      simp [callers_of_holder hholder, he]
    · rename_i hne
      split
      · rename_i hin
        simp [callers_of_holder hholder, List.contains_iff_mem.mp hin]
      · rename_i hout
        rw [List.contains_iff_mem] at hout
        simp [callers, hholder, hstored, hout, Ne.symm hne]

/-- Asking takes the turn from nobody. -/
theorem holder_ask {x : Nat} (hholder : c.holder = some x) (caller : Nat) :
    (c.ask caller).2.holder = some x := by
  unfold ask
  split
  · exact hholder
  · rename_i hnone
    exact absurd (hholder.symm.trans hnone) (by simp)
  · split
    · exact hholder
    · split <;> exact hholder

/-- Who is told that it is his turn has it now, and nobody else had it before. -/
theorem holder_of_ask_turn {caller : Nat} (h : (c.ask caller).1 = .turn) :
    (c.ask caller).2.holder = some caller ∧ (c.holder = none ∨ c.holder = some caller) := by
  revert h
  unfold ask
  split
  · exact fun h => absurd h (by simp)
  · rename_i hnone
    exact fun _ => ⟨rfl, Or.inl hnone⟩
  · rename_i x _ hholder
    split
    · rename_i he
      subst he
      exact fun _ => ⟨hholder, Or.inr hholder⟩
    · split <;> exact fun h => absurd h (by simp)

/-- Who is given the value finds it, and asking for it changes nothing. -/
theorem ask_of_stored {caller : Nat} {value : α} (h : (c.ask caller).1 = .stored value) :
    c.stored = some value ∧ (c.ask caller).2 = c := by
  revert h
  unfold ask
  split
  · rename_i hstored
    intro h
    exact ⟨hstored.trans (congrArg some (Admission.stored.inj h)), rfl⟩
  · exact fun h => absurd h (by simp)
  · split
    · exact fun h => absurd h (by simp)
    · split <;> exact fun h => absurd h (by simp)

/-- Only where somebody else has the turn one has to wait. -/
theorem ask_ne_wait {caller : Nat} (hfree : c.holder = none ∨ c.holder = some caller) :
    (c.ask caller).1 ≠ .wait := by
  unfold ask
  split
  · simp
  · simp
  · rename_i x _ hholder
    have he : x = caller := by
      rcases hfree with hnone | hsome
      · exact absurd (hholder.symm.trans hnone) (by simp)
      · exact Option.some.inj (hholder.symm.trans hsome)
    simp [he]

/-- **Leaving.**  Whoever gives up stands in line no longer; the others keep their order. -/
theorem Orderly.callers_leave (h : c.Orderly) (caller : Nat) :
    (c.leave caller).callers = c.callers.filter (· ≠ caller) := by
  have hnodup := h.nodup
  unfold leave
  split
  · rename_i hholder
    rw [callers_of_holder hholder] at hnodup ⊢
    have hout : ∀ x ∈ c.waiting, x ≠ caller := by
      rintro x hx rfl
      exact (List.nodup_cons.mp hnodup).1 hx
    rw [callers_pass, List.filter_cons, if_neg (by simp)]
    exact (List.filter_eq_self.mpr fun x hx => by simpa using hout x hx).symm
  · rename_i hne
    cases hholder : c.holder with
    | none => simp [callers, hholder]
    | some x =>
      rw [hholder, Option.some_inj] at hne
      simp [callers, hholder, hne]

/-- Who leaves takes the turn from nobody else. -/
theorem holder_leave {x caller : Nat} (hholder : c.holder = some x) (hne : x ≠ caller) :
    (c.leave caller).holder = some x := by
  unfold leave
  split
  · rename_i he
    exact absurd (Option.some.inj (hholder.symm.trans he)) hne
  · exact hholder

/-! ## 3. Lines stay orderly -/

theorem Orderly.pass (h : c.Orderly) (hstored : c.stored = none) : c.pass.Orderly where
  served hs := absurd hs (by simp [Cache.pass, hstored])
  turn hnone := by
    have hempty : c.waiting = [] := List.head?_eq_none_iff.mp hnone
    simp [Cache.pass, hempty]
  nodup := by
    rw [callers_pass]
    exact h.nodup.sublist (List.sublist_append_right _ _)

/-- Who has the turn has not got the value. -/
theorem Orderly.stored_eq_none (h : c.Orderly) {caller : Nat} (hholder : c.holder = some caller) :
    c.stored = none := by
  cases hs : c.stored with
  | none => rfl
  | some value =>
    have := h.served (by simp [hs])
    rw [callers_of_holder hholder] at this
    exact absurd this (by simp)

theorem Orderly.finish (h : c.Orderly) {caller : Nat} (hholder : c.holder = some caller)
    (result : Except ε α) : (c.finish result).Orderly := by
  cases result with
  | ok value => exact ⟨fun _ => rfl, fun _ => rfl, List.nodup_nil⟩
  | error fault => exact h.pass (h.stored_eq_none hholder)

theorem Orderly.ask (h : c.Orderly) (caller : Nat) : (c.ask caller).2.Orderly := by
  have hcallers := h.callers_ask caller
  have hnodup : (c.ask caller).2.callers.Nodup := by
    rw [hcallers]
    split
    · exact h.nodup
    · rename_i hnot
      refine List.Nodup.append h.nodup (List.nodup_singleton _) ?_
      rw [List.disjoint_singleton]
      exact fun hm => hnot (Or.inr hm)
  refine ⟨fun hs => ?_, ?_, hnodup⟩
  · rw [stored_ask] at hs
    rw [hcallers, if_pos (Or.inl hs)]
    exact h.served hs
  · unfold Cache.ask
    split
    · exact h.turn
    · exact fun hnone => absurd hnone (by simp)
    · rename_i hholder
      intro hnone
      split at hnone
      · exact absurd (hholder.symm.trans hnone) (by simp)
      · split at hnone <;> exact absurd (hholder.symm.trans hnone) (by simp)

theorem Orderly.leave (h : c.Orderly) (caller : Nat) : (c.leave caller).Orderly := by
  have hcallers := h.callers_leave caller
  refine ⟨fun hs => ?_, ?_, ?_⟩
  · rw [stored_leave] at hs
    rw [hcallers, h.served hs]
    rfl
  · unfold Cache.leave
    split
    · rename_i hholder
      exact (h.pass (h.stored_eq_none hholder)).turn
    · intro hnone
      simp [h.turn hnone]
  · rw [hcallers]
    exact h.nodup.filter _

end PluginArbiter.Cache
