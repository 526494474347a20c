/-
# Whatever is open has a task

A row is taken out of the table by the call that cancels its submission, or by the task that works
on it.  So it would stay for ever if the task ended and left it there.  This cannot happen: a task
that ends takes out the row under its token if the row has its number (`Backed.release`), and so no
row is left that could have been its own.

The argument does not ask whether numbers tell all submissions apart.  It holds as well where they
have started over and two submissions bear the same token and number; all that is asked is that no
token has two rows.

Main statements:
* `Backed.release`: when a task ends no row is left that was its own;
* `Course.backed`: at every point of a course every row is that of a submission that has a task.
-/
import PluginArbiter.Proofs.Dispatch.Course

namespace PluginArbiter

open Dispatcher

/-- Every row is that of a submission that has a task, also where numbers have started over. -/
structure Backed (d : Dispatcher) (jobs : List Submission) : Prop where
  tokens : (d.pending.map (·.1)).Nodup
  rows : ∀ row ∈ d.pending, ∃ s ∈ jobs, s.ticket = Row.ticket row

namespace Backed

variable {d d' : Dispatcher} {jobs before after : List Submission} {s : Submission}

theorem of_sublist (h : Backed d jobs) (hsub : d'.pending.Sublist d.pending) : Backed d' jobs :=
  ⟨h.tokens.sublist (hsub.map _), fun row hrow => h.rows row (hsub.subset hrow)⟩

theorem accept (h : Backed d jobs) (token : Token) (request : Request) :
    Backed (d.accept token request).2 (jobs ++ admitted (d.accept token request).1) := by
  rcases d.accept_cases token request with ⟨e, he⟩ | he | ⟨-, hnone, he⟩
  · rw [he]
    simpa [admitted] using h
  · rw [he]
    have hspend : Backed d.spend jobs := h.of_sublist (List.Sublist.refl _)
    simpa [admitted] using hspend
  · rw [he]
    refine ⟨?_, fun row hrow => ?_⟩
    · have hnew : ∀ row ∈ d.pending, row.1 ≠ token := token_ne_of_lookup_eq_none hnone
      simp only [List.map_append, List.map_singleton]
      refine List.nodup_append.mpr ⟨h.tokens, List.nodup_singleton _, ?_⟩
      intro x hx y hy
      obtain ⟨row, hrow, rfl⟩ := List.mem_map.mp hx
      rw [List.mem_singleton.mp hy]
      exact hnew row hrow
    · rcases List.mem_append.mp hrow with hold | hnew
      · obtain ⟨s, hs, hticket⟩ := h.rows row hold
        exact ⟨s, List.mem_append_left _ hs, hticket⟩
      · refine ⟨_, List.mem_append_right _ (List.mem_singleton_self _), ?_⟩
        rw [List.mem_singleton.mp hnew]
        rfl

/-- **When a task ends no row is left that was its own.** -/
theorem release (h : Backed d (before ++ s :: after)) :
    Backed (d.release s).2 (before ++ after) := by
  obtain ⟨hsub, hnot⟩ : (d.release s).2.pending.Sublist d.pending ∧
      ∀ row ∈ (d.release s).2.pending, Row.ticket row ≠ s.ticket := by
    unfold Dispatcher.release
    split
    · rename_i hnone
      exact ⟨List.Sublist.refl _, fun row hrow he =>
        token_ne_of_lookup_eq_none hnone row hrow (congrArg Ticket.token he)⟩
    · rename_i entry hsome
      split
      · refine ⟨List.filter_sublist, fun row hrow he => ?_⟩
        have hne : row.1 ≠ s.token := by simpa using (List.mem_filter.mp hrow).2
        exact hne (congrArg Ticket.token he)
      · rename_i hseq
        refine ⟨List.Sublist.refl _, fun row hrow he => hseq ?_⟩
        have htoken : row.1 = s.token := congrArg Ticket.token he
        have hentry := lookup_eq_some_of_mem h.tokens hrow
        rw [htoken, hsome] at hentry
        rw [Option.some.inj hentry]
        exact congrArg Ticket.seq he
  refine ⟨h.tokens.sublist (hsub.map _), fun row hrow => ?_⟩
  obtain ⟨s', hs', hticket⟩ := h.rows row (hsub.subset hrow)
  refine ⟨s', ?_, hticket⟩
  rcases List.mem_append.mp hs' with hbefore | hafter
  · exact List.mem_append_left _ hbefore
  · rcases List.mem_cons.mp hafter with rfl | hafter
    · exact absurd hticket.symm (hnot row hrow)
    · exact List.mem_append_right _ hafter

end Backed

namespace Hub

variable {d d' : Dispatcher} {jobs jobs' : List Submission}
  {as : List (Except DispatchError Submission)} {es : List (Fate × Ticket)}

theorem Move.backed (m : Move d jobs as es d' jobs') (h : Backed d jobs) : Backed d' jobs' := by
  cases m with
  | rest same => exact h.of_sublist (same.pending ▸ List.Sublist.refl _)
  | submit token request => exact h.accept token request
  | cancel token =>
    refine h.of_sublist ?_
    unfold Dispatcher.cancel
    split
    · exact List.Sublist.refl _
    · exact List.filter_sublist
  | cancelFrame frame => exact h.of_sublist List.filter_sublist
  | shut same =>
    refine h.of_sublist ?_
    unfold Dispatcher.shut
    split
    · exact same.pending ▸ List.Sublist.refl _
    · exact List.nil_sublist _
  | conclude live verdict =>
    refine h.release.of_sublist ?_
    simp only [Dispatcher.conclude]
    split
    · exact List.Sublist.refl _
    · rw [(SameBooks.tell _ _ _).pending]
  | withdraw cancelled => exact h.release

/-- Every row is that of a submission whose task has not ended. -/
theorem Course.backed (c : Course d jobs as es) : Backed d jobs := by
  induction c with
  | made process handlers => exact ⟨List.nodup_nil, fun row hrow => absurd hrow List.not_mem_nil⟩
  | move course step ih => exact step.backed ih

end Hub

end PluginArbiter
