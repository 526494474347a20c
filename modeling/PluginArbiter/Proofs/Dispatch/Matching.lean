/-
# Rows and tasks match

The table of a dispatcher and the tasks at work for it are two lists that only meet through numbers.
This module ties them together.  `Matched d jobs` says that the rows of `d` are, in order, those of
the submissions in `jobs` that were not cancelled, that no token has two rows, and that numbers and
children of the root have been given out in step and never twice.

Everything that can happen to a dispatcher and its tasks keeps this up.  Rows leave the table in
two ways.  Users `strike` rows, and then the children of exactly these rows are cancelled, so the
submissions leave the live ones too.  A task takes its own row, and then the task is gone.  The one
step that needs an argument is the end of a task that was cancelled: under its token there may be a
row of a later submission, and this row stays because no two submissions that still have a task
share a number (`Matched.seq_inj`).  Numbers are 64 bits wide, so this asks that no more than 2^64
of them were given out.

Main statements:
* `Matched.accept`, `Matched.strike`, `Matched.shut`, `Matched.conclude`, `Matched.withdraw`;
* `Matched.release_of_live`, `Matched.release_of_cancelled`: what a task finds of its own row.
-/
import Mathlib.Data.List.Nodup
import PluginArbiter.Dispatch.Dispatcher

namespace PluginArbiter.Dispatcher

/-- The submission that the answer to a request to accept one brings in. -/
def admitted : Except DispatchError Submission → List Submission
  | .ok s => [s]
  | .error _ => []

/-- Numbers that have not started over tell what they count. -/
theorem ofNat_inj {m n : Nat} (hm : m < UInt64.size) (hn : n < UInt64.size)
    (h : UInt64.ofNat m = UInt64.ofNat n) : m = n := by
  have hnat := congrArg UInt64.toNat h
  rwa [UInt64.toNat_ofNat_of_lt' hm, UInt64.toNat_ofNat_of_lt' hn] at hnat

/-! ## 1. Looking up in a table without repeated tokens -/

/-- Where no two members share a value, a member is alone with its value. -/
theorem filter_eq_singleton {α β : Type} [DecidableEq β] (f : α → β) {l : List α}
    (hn : (l.map f).Nodup) {x : α} (hx : x ∈ l) : (l.filter fun y => f y = f x) = [x] := by
  have hnd : (l.filter fun y => f y = f x).Nodup := (hn.of_map _).filter _
  refine List.perm_singleton.mp ((List.perm_ext_iff_of_nodup hnd (List.nodup_singleton _)).mpr ?_)
  intro y
  simp only [List.mem_filter, decide_eq_true_eq, List.mem_singleton]
  constructor
  · rintro ⟨hy, he⟩
    exact List.inj_on_of_nodup_map hn hy hx he
  · rintro rfl
    exact ⟨hx, rfl⟩

/-- Under a token that has one row, that row is found. -/
theorem lookup_eq_some_of_mem {table : List Row} (hn : (table.map (·.1)).Nodup) {row : Row}
    (h : row ∈ table) : table.lookup row.1 = some row.2 := by
  induction table with
  | nil => exact absurd h (by simp)
  | cons first rest ih =>
    simp only [List.map_cons, List.nodup_cons] at hn
    rcases List.mem_cons.mp h with rfl | hr
    · exact List.lookup_cons_self
    · have hne : row.1 ≠ first.1 := by
        intro he
        exact hn.1 (he ▸ List.mem_map_of_mem hr)
      rw [List.lookup_cons, show (row.1 == first.1) = false by simpa using hne]
      exact ih hn.2 hr

/-- What is found under a token is a row of the table. -/
theorem mem_of_lookup {table : List Row} {token : Token} {entry : Entry}
    (h : table.lookup token = some entry) : (token, entry) ∈ table := by
  obtain ⟨before, after, rfl, -⟩ := List.lookup_eq_some_iff.mp h
  simp

/-- Where nothing is found, no row has the token. -/
theorem token_ne_of_lookup_eq_none {table : List Row} {token : Token}
    (h : table.lookup token = none) : ∀ row ∈ table, row.1 ≠ token := by
  intro row hrow he
  have := List.lookup_eq_none_iff.mp h row hrow
  simp [he] at this

/-! ## 2. The live submissions -/

/-- Whether a submission was not cancelled. -/
def isLive (d : Dispatcher) (s : Submission) : Bool := !d.cancels.isCancelled s.cancel

/-- Those of some submissions that were not cancelled. -/
def live (d : Dispatcher) (jobs : List Submission) : List Submission := jobs.filter d.isLive

theorem mem_live {d : Dispatcher} {jobs : List Submission} {s : Submission} :
    s ∈ d.live jobs ↔ s ∈ jobs ∧ d.cancels.isCancelled s.cancel = false := by
  simp [live, isLive]

/-- The rows of a dispatcher are those of the live ones among the submissions that have a task. -/
structure Matched (d : Dispatcher) (jobs : List Submission) : Prop where
  table : d.pending = (d.live jobs).map Submission.row
  tokens : (d.pending.map (·.1)).Nodup
  nextSeq : d.nextSeq = .ofNat d.cancels.made
  seq : ∀ s ∈ jobs, s.seq = .ofNat s.cancel
  made : ∀ s ∈ jobs, s.cancel < d.cancels.made
  distinct : (jobs.map (·.cancel)).Nodup
  spent : ∀ n ∈ d.cancels.childrenCancelled, n < d.cancels.made

/-- Two states of a dispatcher that differ in nothing a submission depends on. -/
structure SameBooks (d d' : Dispatcher) : Prop where
  process : d'.process = d.process
  nextSeq : d'.nextSeq = d.nextSeq
  pending : d'.pending = d.pending
  cancels : d'.cancels = d.cancels

theorem SameBooks.refl (d : Dispatcher) : SameBooks d d := ⟨rfl, rfl, rfl, rfl⟩

theorem SameBooks.dropSink (d : Dispatcher) : SameBooks d d.dropSink := ⟨rfl, rfl, rfl, rfl⟩

theorem SameBooks.closeReceiver (d : Dispatcher) : SameBooks d d.closeReceiver :=
  ⟨rfl, rfl, rfl, rfl⟩

/-- Who looks for his own row cancels nothing. -/
theorem release_cancels (d : Dispatcher) (s : Submission) : (d.release s).2.cancels = d.cancels := by
  unfold release
  split
  · rfl
  · split <;> rfl

/-- Telling the sink leaves the books alone. -/
theorem SameBooks.tell (d : Dispatcher) (token : Token) (verdict : Verdict) :
    SameBooks d (d.tell token verdict).2 := by
  unfold Dispatcher.tell
  split <;> exact ⟨rfl, rfl, rfl, rfl⟩

/-- Who concludes a submission cancels nothing. -/
theorem conclude_cancels (d : Dispatcher) (s : Submission) (verdict : Verdict) :
    (d.conclude s verdict).2.cancels = d.cancels := by
  simp only [conclude]
  split
  · exact release_cancels d s
  · exact (SameBooks.tell _ _ _).cancels.trans (release_cancels d s)

namespace Matched

variable {d d' : Dispatcher} {jobs before after : List Submission} {s : Submission}

/-- A dispatcher that was just made matches no tasks. -/
theorem fresh (process : ProcessId) (handlers : Handlers) :
    Matched { process, handlers } [] := by
  constructor <;> simp [Dispatcher.live]

theorem congr (hs : SameBooks d d') (h : Matched d jobs) : Matched d' jobs := by
  have hlive : d'.live jobs = d.live jobs := by
    refine List.filter_congr fun t _ => ?_
    rw [isLive, isLive, hs.cancels]
  obtain ⟨h1, h2, h3, h4, h5, h6, h7⟩ := h
  exact ⟨by rw [hs.pending, hlive, h1], by rw [hs.pending]; exact h2,
    by rw [hs.nextSeq, hs.cancels, h3], h4, by rw [hs.cancels]; exact h5, h6,
    by rw [hs.cancels]; exact h7⟩

/-! ## 3. What matching says of one submission -/

/-- The row of a live submission is in the table. -/
theorem row_mem (h : Matched d jobs) (hs : s ∈ d.live jobs) : s.row ∈ d.pending := by
  rw [h.table]
  exact List.mem_map_of_mem hs

/-- Every row is that of a live submission. -/
theorem exists_of_mem (h : Matched d jobs) {row : Row} (hr : row ∈ d.pending) :
    ∃ s ∈ d.live jobs, s.row = row := by
  rw [h.table] at hr
  exact List.mem_map.mp hr

/-- Two submissions that have a task are one if they share a child of the root. -/
theorem cancel_inj (h : Matched d jobs) {s s' : Submission} (hs : s ∈ jobs) (hs' : s' ∈ jobs)
    (he : s.cancel = s'.cancel) : s = s' :=
  List.inj_on_of_nodup_map h.distinct hs hs' he

/-- **Two submissions that have a task are one if they share a number**, as long as numbers have not
started over. -/
theorem seq_inj (h : Matched d jobs) (few : d.cancels.made ≤ UInt64.size) {s s' : Submission}
    (hs : s ∈ jobs) (hs' : s' ∈ jobs) (he : s.seq = s'.seq) : s = s' := by
  refine h.cancel_inj hs hs' ?_
  have hlt := h.made s hs
  have hlt' := h.made s' hs'
  rw [h.seq s hs, h.seq s' hs'] at he
  exact ofNat_inj (by omega) (by omega) he

/-- Submissions that have a task have numbers of their own. -/
theorem nodup_seq (h : Matched d jobs) (few : d.cancels.made ≤ UInt64.size) :
    (jobs.map (·.seq)).Nodup :=
  (List.nodup_map_iff_inj_on (h.distinct.of_map _)).mpr fun _ hs _ ht he => h.seq_inj few hs ht he

/-- Their numbers are below the next one. -/
theorem seq_lt (h : Matched d jobs) (few : d.cancels.made < UInt64.size) (hs : s ∈ jobs) :
    s.seq < d.nextSeq := by
  have hmade := h.made s hs
  have hcancel : s.cancel < UInt64.size := Nat.lt_trans hmade few
  rw [h.seq s hs, h.nextSeq, UInt64.lt_iff_toNat_lt, UInt64.toNat_ofNat_of_lt' hcancel,
    UInt64.toNat_ofNat_of_lt' few]
  exact hmade

/-- Two live submissions are one if they share a token. -/
theorem token_inj (h : Matched d jobs) {s s' : Submission} (hs : s ∈ d.live jobs)
    (hs' : s' ∈ d.live jobs) (he : s.token = s'.token) : s = s' := by
  have hn : ((d.live jobs).map (·.token)).Nodup := by
    have := h.tokens
    rwa [h.table, List.map_map] at this
  exact List.inj_on_of_nodup_map hn hs hs' he

/-- Under the token of a live submission its own row is found. -/
theorem lookup_of_live (h : Matched d jobs) (hs : s ∈ d.live jobs) :
    d.pending.lookup s.token = some s.row.2 :=
  lookup_eq_some_of_mem h.tokens (h.row_mem hs)

/-! ## 4. Submitting -/

/-- Using up a number and a child leaves the match. -/
theorem spend (h : Matched d jobs) : Matched d.spend jobs where
  table := h.table
  tokens := h.tokens
  nextSeq := by
    change d.nextSeq + 1 = .ofNat (d.cancels.made + 1)
    rw [h.nextSeq, UInt64.ofNat_add]
    rfl
  seq := h.seq
  made t ht := Nat.lt_succ_of_lt (h.made t ht)
  distinct := h.distinct
  spent n hn := Nat.lt_succ_of_lt (h.spent n hn)

end Matched

/-- The three ways in which a submission goes: it is refused at no cost, it is refused for its token
and costs a number, or it is entered under a token that had no row. -/
theorem accept_cases (d : Dispatcher) (token : Token) (request : Request) :
    (∃ e, d.accept token request = (.error e, d)) ∨
      d.accept token request = (.error (.duplicateToken token), d.spend) ∨
      (d.isShut = false ∧ d.pending.lookup token = none ∧
        d.accept token request =
          (.ok ⟨token, d.nextSeq, d.cancels.made, request⟩,
            { d.spend with
              pending := d.pending ++ [(token, ⟨d.nextSeq, request.frame, d.cancels.made⟩)] })) := by
  unfold accept
  split
  · exact Or.inl ⟨_, rfl⟩
  · rename_i hopen
    split
    · exact Or.inl ⟨_, rfl⟩
    · split
      · exact Or.inr (Or.inl rfl)
      · rename_i hnone
        exact Or.inr (Or.inr ⟨by simpa using hopen, Option.not_isSome_iff_eq_none.mp hnone, rfl⟩)

namespace Matched

variable {d d' : Dispatcher} {jobs before after : List Submission} {s : Submission}

/-- The child of the root that is made next was not cancelled. -/
theorem isCancelled_made (h : Matched d jobs) (hopen : d.isShut = false) :
    d.cancels.isCancelled d.cancels.made = false := by
  have hnot : d.cancels.made ∉ d.cancels.childrenCancelled :=
    fun hm => Nat.lt_irrefl _ (h.spent _ hm)
  have hroot : d.cancels.rootCancelled = false := hopen
  simp [Cancellation.isCancelled, hroot, hnot]

/-- Entering a submission under a token that has no row adds it at the end of both lists. -/
theorem enter (h : Matched d jobs) (hopen : d.isShut = false) (hs : s.cancel = d.cancels.made)
    (hseq : s.seq = d.nextSeq) (hnone : d.pending.lookup s.token = none) :
    Matched { d.spend with pending := d.pending ++ [s.row] } (jobs ++ [s]) := by
  have hlive : d.isLive s = true := by simp [isLive, hs, h.isCancelled_made hopen]
  have hspend := h.spend
  refine ⟨?_, ?_, hspend.nextSeq, ?_, ?_, ?_, hspend.spent⟩
  · change d.pending ++ [s.row] = ((jobs ++ [s]).filter d.isLive).map Submission.row
    rw [List.filter_append, List.map_append, h.table]
    simp [hlive, Dispatcher.live]
  · rw [List.map_append]
    refine List.Nodup.append h.tokens (List.nodup_singleton _) ?_
    rw [List.map_singleton, List.disjoint_singleton]
    intro hm
    obtain ⟨row, hrow, he⟩ := List.mem_map.mp hm
    exact token_ne_of_lookup_eq_none hnone row hrow he
  · intro t ht
    rcases List.mem_append.mp ht with hold | hnew
    · exact h.seq t hold
    · rw [List.mem_singleton.mp hnew, hseq, hs]
      exact h.nextSeq
  · intro t ht
    rcases List.mem_append.mp ht with hold | hnew
    · exact hspend.made t hold
    · rw [List.mem_singleton.mp hnew, hs]
      exact Nat.lt_succ_self _
  · rw [List.map_append]
    refine List.Nodup.append h.distinct (List.nodup_singleton _) ?_
    rw [List.map_singleton, List.disjoint_singleton]
    intro hm
    obtain ⟨t, ht, he⟩ := List.mem_map.mp hm
    have hlt := h.made t ht
    omega

/-- **Submitting.**  What is accepted comes in at the end of both lists. -/
theorem accept (h : Matched d jobs) (token : Token) (request : Request) :
    Matched (d.accept token request).2 (jobs ++ admitted (d.accept token request).1) := by
  rcases d.accept_cases token request with ⟨e, he⟩ | he | ⟨hopen, hnone, he⟩
  · rw [he]
    simpa [admitted] using h
  · rw [he]
    simpa [admitted] using h.spend
  · rw [he]
    exact h.enter (s := ⟨token, d.nextSeq, d.cancels.made, request⟩) hopen rfl rfl hnone

end Matched

/-! ## 5. Striking rows -/

/-- Takes rows out of the table and cancels the children that belong to them. -/
def strike (d : Dispatcher) (p : Row → Bool) : Dispatcher :=
  { d with
    pending := d.pending.filter fun row => !p row
    cancels := d.cancels.cancelAll ((d.pending.filter p).map (·.2.cancel)) }

/-- To cancel the submissions of a frame is to strike the rows of that frame. -/
theorem cancelFrame_eq (d : Dispatcher) (frame : FrameId) :
    d.cancelFrame frame
      = (d.pending.filter fun row => row.2.frame = frame, d.strike fun row => row.2.frame = frame) := by
  simp [cancelFrame, strike]

/-- To cancel the submission under a token is to strike the one row under it. -/
theorem cancel_eq_of_mem {d : Dispatcher} (hn : (d.pending.map (·.1)).Nodup) {row : Row}
    (hr : row ∈ d.pending) :
    d.cancel row.1 = (some row.2, d.strike fun r => r.1 = row.1) := by
  rw [cancel, lookup_eq_some_of_mem hn hr]
  simp [strike, filter_eq_singleton (·.1) hn hr, without]

/-- Where a token has no row there is nothing to cancel. -/
theorem cancel_eq_of_lookup {d : Dispatcher} {token : Token}
    (h : d.pending.lookup token = none) : d.cancel token = (none, d) := by
  rw [cancel, h]

/-- Where no token has two rows, to cancel under a token is to look it up and to strike its rows. -/
theorem cancel_eq {d : Dispatcher} (hn : (d.pending.map (·.1)).Nodup) (token : Token) :
    d.cancel token = (d.pending.lookup token, d.strike fun r => r.1 = token) := by
  cases hl : d.pending.lookup token with
  | none =>
    have hnot : ∀ row ∈ d.pending, ¬ row.1 = token := token_ne_of_lookup_eq_none hl
    have hkeep : (d.pending.filter fun row => !decide (row.1 = token)) = d.pending :=
      List.filter_eq_self.mpr fun row hrow => by simpa using hnot row hrow
    have hgone : (d.pending.filter fun row => decide (row.1 = token)) = [] :=
      List.filter_eq_nil_iff.mpr fun row hrow => by simpa using hnot row hrow
    rw [cancel_eq_of_lookup hl, strike, hkeep, hgone]
    rfl
  | some entry => rw [cancel_eq_of_mem hn (mem_of_lookup hl)]

namespace Matched

variable {d d' : Dispatcher} {jobs before after : List Submission} {s : Submission}

/-- **Striking rows cancels exactly the submissions in these rows.** -/
theorem isCancelled_strike (h : Matched d jobs) (p : Row → Bool) (hs : s ∈ jobs) :
    (d.strike p).cancels.isCancelled s.cancel
      = (d.cancels.isCancelled s.cancel || p s.row) := by
  rw [Dispatcher.strike, Cancellation.isCancelled_cancelAll, Bool.or_comm]
  cases hc : d.cancels.isCancelled s.cancel with
  | true => rfl
  | false =>
    have hmem : s ∈ d.live jobs := mem_live.mpr ⟨hs, hc⟩
    have hiff : s.cancel ∈ (d.pending.filter p).map (·.2.cancel) ↔ p s.row = true := by
      rw [List.mem_map]
      constructor
      · rintro ⟨row, hrow, he⟩
        obtain ⟨hr, hp⟩ := List.mem_filter.mp hrow
        obtain ⟨t, ht, rfl⟩ := h.exists_of_mem hr
        rwa [← h.cancel_inj (mem_live.mp ht).1 hs he]
      · intro hp
        exact ⟨s.row, List.mem_filter.mpr ⟨h.row_mem hmem, hp⟩, rfl⟩
    rw [Bool.false_or, Bool.false_or, Bool.eq_iff_iff, List.contains_iff_mem]
    exact hiff

theorem live_strike (h : Matched d jobs) (p : Row → Bool) :
    (d.strike p).live jobs = (d.live jobs).filter fun s => !p s.row := by
  rw [Dispatcher.live, Dispatcher.live, List.filter_filter]
  refine List.filter_congr fun t ht => ?_
  rw [isLive, isLive, h.isCancelled_strike p ht, Bool.not_or, Bool.and_comm]

/-- **Striking rows.**  The tasks stay, the rows go. -/
theorem strike (h : Matched d jobs) (p : Row → Bool) : Matched (d.strike p) jobs where
  table := by
    rw [h.live_strike p]
    change d.pending.filter _ = _
    rw [h.table, List.filter_map]
    rfl
  tokens := h.tokens.sublist (List.filter_sublist.map _)
  nextSeq := h.nextSeq
  seq := h.seq
  made := h.made
  distinct := h.distinct
  spent n hn := by
    rcases List.mem_append.mp hn with hnew | hold
    · obtain ⟨row, hrow, rfl⟩ := List.mem_map.mp hnew
      obtain ⟨t, ht, rfl⟩ := h.exists_of_mem (List.mem_filter.mp hrow).1
      exact h.made t (mem_live.mp ht).1
    · exact h.spent n hold

/-- Cancelling what is under a token. -/
theorem cancel (h : Matched d jobs) (token : Token) : Matched (d.cancel token).2 jobs := by
  rw [cancel_eq h.tokens]
  exact h.strike _

/-- Cancelling a frame. -/
theorem cancelFrame (h : Matched d jobs) (frame : FrameId) :
    Matched (d.cancelFrame frame).2 jobs := by
  rw [cancelFrame_eq]
  exact h.strike _

/-- **Shutting down.**  The table is empty, and no submission is live. -/
theorem shut (h : Matched d jobs) : Matched d.shut.2 jobs := by
  unfold Dispatcher.shut
  split
  · exact h
  · refine ⟨?_, List.nodup_nil, h.nextSeq, h.seq, h.made, h.distinct, h.spent⟩
    simp [Dispatcher.live, isLive]

/-- Who shuts down clears all rows; where that was done before there are none. -/
theorem length_shut (h : Matched d jobs) : d.shut.1.length = d.pending.length := by
  unfold Dispatcher.shut
  split
  · rename_i hshut
    have hnobody : d.live jobs = [] := List.filter_eq_nil_iff.mpr fun s _ => by
      simp [isLive, Cancellation.isCancelled_of_root hshut]
    rw [h.table, hnobody]
    rfl
  · rfl

/-! ## 6. The end of a task -/

/-- A live submission finds its own row and takes it out. -/
theorem release_of_live (h : Matched d jobs) (hs : s ∈ d.live jobs) :
    d.release s = (true, { d with pending := without d.pending s.token }) := by
  rw [release, h.lookup_of_live hs]
  exact if_pos rfl

/-- **A submission that was cancelled finds no row of its own**, be there a row under its token or
not. -/
theorem release_of_cancelled (h : Matched d jobs) (few : d.cancels.made ≤ UInt64.size) (hs : s ∈ jobs)
    (hc : d.cancels.isCancelled s.cancel = true) : d.release s = (false, d) := by
  rw [release]
  cases hl : d.pending.lookup s.token with
  | none => rfl
  | some entry =>
    have hne : entry.seq ≠ s.seq := by
      intro he
      obtain ⟨t, ht, hrow⟩ := h.exists_of_mem (mem_of_lookup hl)
      have hseq : t.seq = s.seq := by rw [← he, ← congrArg (·.2.seq) hrow]; rfl
      have hts : t = s := h.seq_inj few (mem_live.mp ht).1 hs hseq
      have hlive := (mem_live.mp ht).2
      rw [hts, hc] at hlive
      exact absurd hlive (by simp)
    simp [hne]

/-- When the task of a live submission ends, its row goes and no other. -/
theorem without_of_live (h : Matched d (before ++ s :: after))
    (hs : d.cancels.isCancelled s.cancel = false) :
    without d.pending s.token = (d.live (before ++ after)).map Submission.row := by
  have hmem : s ∈ d.live (before ++ s :: after) := mem_live.mpr ⟨by simp, hs⟩
  have hother : ∀ t ∈ d.live (before ++ after), t.token ≠ s.token := by
    intro t ht he
    have hsub : (before ++ after).Sublist (before ++ s :: after) :=
      (List.sublist_cons_self s after).append_left before
    have hts : t = s := h.token_inj ((hsub.filter _).subset ht) hmem he
    have hnd : (before ++ s :: after).Nodup := h.distinct.of_map _
    have hnot : s ∉ before ++ after := (List.nodup_middle.mp hnd |> List.nodup_cons.mp).1
    exact hnot (hts ▸ (mem_live.mp ht).1)
  have hrow : ∀ t ∈ d.live (before ++ after),
      ((fun row : Row => decide (row.1 ≠ s.token)) ∘ Submission.row) t = true :=
    fun t ht => decide_eq_true (hother t ht)
  have hsplit : d.live (before ++ s :: after) = d.live before ++ s :: d.live after := by
    simp [Dispatcher.live, isLive, hs]
  have hself : ¬ (s.row.1 ≠ s.token) := fun hne => hne rfl
  rw [without, h.table, hsplit, List.filter_map, List.filter_append, List.filter_cons,
    Function.comp_apply, if_neg (by simpa using hself), ← List.filter_append]
  rw [show d.live before ++ d.live after = d.live (before ++ after) from
    (List.filter_append ..).symm]
  rw [List.filter_eq_self.mpr hrow]

/-- The submissions that remain when a task ends. -/
theorem remaining (h : Matched d (before ++ s :: after)) (table : List Row)
    (ht : table = (d.live (before ++ after)).map Submission.row)
    (hsub : table.Sublist d.pending) :
    Matched { d with pending := table } (before ++ after) := by
  have hjobs : (before ++ after).Sublist (before ++ s :: after) :=
    (List.sublist_cons_self s after).append_left before
  exact ⟨ht, h.tokens.sublist (hsub.map _), h.nextSeq, fun t hm => h.seq t (hjobs.subset hm),
    fun t hm => h.made t (hjobs.subset hm), h.distinct.sublist (hjobs.map _), h.spent⟩

/-- To conclude a live submission is to take its row out and to tell the sink. -/
theorem conclude_eq (h : Matched d jobs) (hs : s ∈ d.live jobs) (verdict : Verdict) :
    d.conclude s verdict
      = ({ d with pending := without d.pending s.token } : Dispatcher).tell s.token verdict := by
  rw [Dispatcher.conclude, h.release_of_live hs]
  simp only [Bool.not_true, Bool.false_or, (mem_live.mp hs).2, Bool.false_eq_true, if_false]

/-- **Concluding.**  The task of a live submission ends and takes its row with it. -/
theorem conclude (h : Matched d (before ++ s :: after))
    (hs : d.cancels.isCancelled s.cancel = false) (verdict : Verdict) :
    Matched (d.conclude s verdict).2 (before ++ after) := by
  rw [h.conclude_eq (mem_live.mpr ⟨by simp, hs⟩)]
  exact (h.remaining _ (h.without_of_live hs) List.filter_sublist).congr (SameBooks.tell _ _ _)

/-- **Withdrawing.**  The task of a cancelled submission ends and leaves the dispatcher as it is. -/
theorem withdraw_eq (h : Matched d jobs) (few : d.cancels.made ≤ UInt64.size) (hs : s ∈ jobs)
    (hc : d.cancels.isCancelled s.cancel = true) : d.withdraw s = d := by
  rw [Dispatcher.withdraw, h.release_of_cancelled few hs hc]

theorem withdraw (h : Matched d (before ++ s :: after)) (few : d.cancels.made ≤ UInt64.size)
    (hc : d.cancels.isCancelled s.cancel = true) :
    Matched (d.withdraw s) (before ++ after) := by
  rw [h.withdraw_eq few (by simp) hc]
  refine h.remaining d.pending ?_ (List.Sublist.refl _)
  rw [h.table]
  simp [Dispatcher.live, isLive, hc]

end Matched

end PluginArbiter.Dispatcher
