/-
# Addresses as they are written

An address is read in many spellings and written in one.  Four octets are written in plain decimal
digits; eight pieces are written in hexadecimal digits, in small letters and without noughts in front,
with a gap for the longest run of zeros.  What is written is read as the address it was written from.

For eight pieces this rests on two facts about the gap.  It stands for zeros that were there
(`v6Text_cases`), and it is found again where it was put, for pieces are never empty and hold no colon
(`splitAtGap_colons`).

Main statements:
* `v4Address?_v4Text`, `v6Address?_v6Text`: what is written is read back;
* `v6Address?_toLower`: capitals are read like small letters;
* `v6Address?_sound`: whatever is read are eight pieces of sixteen bits.
-/
import Mathlib.Data.List.Induction
import PluginArbiter.Text.AsciiCase
import PluginArbiter.Url.Address

namespace PluginArbiter

namespace Url

/-! ## 1. Four octets -/

/-- An octet in plain decimal digits is read as itself. -/
theorem v4Number?_octet {o : Nat} (h : o < 256) :
    v4Number? (toString o).toList = some o ∧ (toString o).toList ≠ [] := by
  have hall : ∀ high ∈ List.range 16, ∀ low ∈ List.range 16,
      v4Number? (toString (16 * high + low)).toList = some (16 * high + low) ∧
        (toString (16 * high + low)).toList ≠ [] := by decide +kernel
  have ho := hall (o / 16) (List.mem_range.mpr (by omega)) (o % 16) (List.mem_range.mpr (by omega))
  rwa [Nat.div_add_mod] at ho

/-- Decimal numbers are digits. -/
theorem isDigit_of_mem_toString {o : Nat} {c : Char} (h : c ∈ (toString o).toList) :
    c.isDigit = true := by
  rw [Nat.toString_eq_repr, Nat.repr, String.toList_ofList] at h
  exact Nat.isDigit_of_mem_toDigits (by decide) (by decide) h

/-- The four octets of an address. -/
def octets (address : Nat) : List Nat :=
  [address / 0x1000000 % 256, address / 0x10000 % 256, address / 0x100 % 256, address % 256]

theorem v4Text_eq (address : Nat) :
    v4Text address = Text.join '.' ((octets address).map fun o => (toString o).toList) := rfl

theorem lt_of_mem_octets {address o : Nat} (h : o ∈ octets address) : o < 256 := by
  simp only [octets, List.mem_cons, List.not_mem_nil, or_false] at h
  omega

theorem mapM_v4Number? {os : List Nat} (h : ∀ o ∈ os, o < 256) :
    (os.map fun o => (toString o).toList).mapM v4Number? = some os := by
  induction os with
  | nil => rfl
  | cons o rest ih =>
    rw [List.map_cons, List.mapM_cons, (v4Number?_octet (h o List.mem_cons_self)).1,
      ih fun o' ho' => h o' (List.mem_cons_of_mem _ ho')]
    rfl

theorem labels_v4Text (address : Nat) :
    labels (v4Text address) = (octets address).map fun o => (toString o).toList := by
  have hpieces : Text.pieces '.' (v4Text address)
      = (octets address).map fun o => (toString o).toList := by
    rw [v4Text_eq]
    refine Text.pieces_join (by simp [octets]) fun p hp hdot => ?_
    obtain ⟨o, -, rfl⟩ := List.mem_map.mp hp
    exact absurd (isDigit_of_mem_toString hdot) (by decide)
  have hlast : ((octets address).map fun o => (toString o).toList).getLast? ≠ some [] := by
    intro hlast
    obtain ⟨o, ho, hempty⟩ := List.mem_map.mp (List.mem_of_getLast? hlast)
    exact (v4Number?_octet (lt_of_mem_octets ho)).2 hempty
  rw [labels, hpieces]
  exact if_neg hlast

/-- **Four octets in plain decimal digits are read as the address that is written with them.** -/
theorem v4Address?_v4Text (address : Nat) :
    ∃ same, v4Address? (v4Text address) = some same ∧ v4Text same = v4Text address := by
  obtain ⟨a, b, c, d, hoctets⟩ : ∃ a b c d, octets address = [a, b, c, d] := ⟨_, _, _, _, rfl⟩
  have hsmall : ∀ o ∈ [a, b, c, d], o < 256 := fun o ho => lt_of_mem_octets (hoctets ▸ ho)
  simp only [List.forall_mem_cons, List.not_mem_nil, false_imp_iff, implies_true, and_true] at hsmall
  obtain ⟨ha, hb, hc, hd⟩ := hsmall
  have hread : v4Address? (v4Text address) = some (((a * 256 + b) * 256 + c) * 256 + d) := by
    have hnumbers := mapM_v4Number? fun o (ho : o ∈ octets address) => lt_of_mem_octets ho
    rw [v4Address?, labels_v4Text, hnumbers, hoctets]
    simp [v4Value?, Nat.le_of_lt_succ ha, Nat.le_of_lt_succ hb, Nat.le_of_lt_succ hc, hd]
  refine ⟨_, hread, ?_⟩
  have hsame : octets (((a * 256 + b) * 256 + c) * 256 + d) = octets address := by
    rw [hoctets]
    simp only [octets, List.cons.injEq, and_true]
    omega
  rw [v4Text_eq, v4Text_eq, hsame]

/-- Four octets are written with digits and dots. -/
theorem bounds_of_mem_v4Text {address : Nat} {c : Char} (h : c ∈ v4Text address) :
    '.'.toNat ≤ c.toNat ∧ c.toNat ≤ '9'.toNat := by
  rcases Text.mem_join h with rfl | ⟨p, hp, hc⟩
  · decide
  · obtain ⟨o, -, rfl⟩ := List.mem_map.mp hp
    have hdigit := isDigit_of_mem_toString hc
    simp only [Char.isDigit, Bool.and_eq_true, decide_eq_true_eq] at hdigit
    exact ⟨Nat.le_trans (by decide : '.'.toNat ≤ '0'.toNat) hdigit.1, hdigit.2⟩

/-! ## 2. Pieces in hexadecimal digits -/

variable {ps : List Nat} {cs : List Char}

theorem hexText_ne_nil (n : Nat) : hexText n ≠ [] := by
  rw [hexText, Ne, List.reverse_eq_nil_iff, List.map_eq_nil_iff, Text.digitsBackwards]
  split <;> simp

/-- Hexadecimal numbers are written with digits. -/
theorem mem_hexText {n : Nat} {c : Char} (h : c ∈ hexText n) :
    c ∈ (List.range 16).map (Text.digit false) := by
  obtain ⟨d, hd, rfl⟩ := List.mem_map.mp (List.mem_reverse.mp h)
  exact List.mem_map_of_mem (List.mem_range.mpr (Text.lt_of_mem_digitsBackwards (by decide) hd))

theorem colon_not_mem_hexText (n : Nat) : ':' ∉ hexText n :=
  fun h => absurd (mem_hexText h) (by decide)

/-- A piece of sixteen bits is read as it is written. -/
theorem v6Piece?_hexText {n : Nat} (h : n < 0x10000) : v6Piece? (hexText n) = some n := by
  have hlength : (hexText n).length ≤ 4 := by
    rw [hexText, List.length_reverse, List.length_map]
    exact Text.length_digitsBackwards_le (k := 3) h
  have hvalue : Text.digitsValue? 16 (hexText n) = some n :=
    Text.digitsValue?_digitsBackwards (by decide) (by decide) (Nat.lt_trans h (by decide))
  have hfits : ¬ ((hexText n).isEmpty = true ∨ 4 < (hexText n).length) := by
    rw [List.isEmpty_iff]
    exact fun hor => hor.elim (hexText_ne_nil n) (by omega)
  rw [v6Piece?, if_neg hfits, hvalue]

/-- Pieces in hexadecimal digits with colons between them. -/
def colons (ps : List Nat) : List Char := Text.join ':' (ps.map hexText)

/-- With pieces there is something written, and it does not begin with a colon. -/
theorem exists_colons_eq_cons (p : Nat) (rest : List Nat) :
    ∃ c r, colons (p :: rest) = c :: r ∧ c ≠ ':' := by
  obtain ⟨c, cs, hfirst⟩ := List.exists_cons_of_ne_nil (hexText_ne_nil p)
  have hc : c ≠ ':' := by
    rintro rfl
    exact colon_not_mem_hexText p (hfirst ▸ List.mem_cons_self)
  cases rest with
  | nil => exact ⟨c, cs, hfirst, hc⟩
  | cons q qs =>
    have hjoin : colons (p :: q :: qs) = hexText p ++ ':' :: colons (q :: qs) := rfl
    exact ⟨c, cs ++ ':' :: colons (q :: qs), by rw [hjoin, hfirst, List.cons_append], hc⟩

theorem v6Pieces?_hexText (dotted : Bool) (h : ∀ p ∈ ps, p < 0x10000) :
    v6Pieces? dotted (ps.map hexText) = some ps := by
  induction ps with
  | nil => rfl
  | cons p rest ih =>
    have hp : v6Piece? (hexText p) = some p := v6Piece?_hexText (h p List.mem_cons_self)
    have hrest := ih fun q hq => h q (List.mem_cons_of_mem _ hq)
    cases rest with
    | nil =>
      have hdot : '.' ∉ hexText p := fun h => absurd (mem_hexText h) (by decide)
      simp [v6Pieces?, hdot, hp]
    | cons q qs =>
      rw [List.map_cons] at hrest
      rw [List.map_cons, List.map_cons, v6Pieces?, hp, hrest]
      rfl

/-- **One side of the gap is read as it is written.** -/
theorem v6Side?_colons (dotted : Bool) (h : ∀ p ∈ ps, p < 0x10000) :
    v6Side? dotted (colons ps) = some ps := by
  cases ps with
  | nil => rfl
  | cons p rest =>
    obtain ⟨c, r, hsome, -⟩ := exists_colons_eq_cons p rest
    have hpieces : Text.pieces ':' (colons (p :: rest)) = (p :: rest).map hexText := by
      refine Text.pieces_join (by simp) fun cs hcs => ?_
      obtain ⟨q, -, rfl⟩ := List.mem_map.mp hcs
      exact colon_not_mem_hexText q
    rw [v6Side?, if_neg (by simp [hsome]), hpieces]
    exact v6Pieces?_hexText dotted h

/-! ## 3. The gap -/

theorem splitAtGap_append (h : ':' ∉ cs) (r : List Char) :
    splitAtGap (cs ++ r) = (splitAtGap r).map fun sides => (cs ++ sides.1, sides.2) := by
  induction cs with
  | nil => simp
  | cons c cs ih =>
    obtain ⟨hc, hcs⟩ := not_or.mp (mt List.mem_cons.mpr h)
    rw [List.cons_append, splitAtGap, ih hcs, Option.map_map]
    · rfl
    · rintro r' rfl -
      exact hc rfl

/-- **Pieces with single colons hold no gap**, so the first gap is the one behind them. -/
theorem splitAtGap_colons (ps : List Nat) (r : List Char) :
    splitAtGap (colons ps ++ r) = (splitAtGap r).map fun sides => (colons ps ++ sides.1, sides.2) := by
  induction ps with
  | nil => simp [colons, Text.join]
  | cons p rest ih =>
    cases rest with
    | nil => exact splitAtGap_append (colon_not_mem_hexText p) r
    | cons q qs =>
      have hjoin : colons (p :: q :: qs) = hexText p ++ ':' :: colons (q :: qs) := rfl
      -- a single colon begins no gap, for a digit follows
      have hone : splitAtGap (':' :: (colons (q :: qs) ++ r))
          = (splitAtGap (colons (q :: qs) ++ r)).map fun sides => (':' :: sides.1, sides.2) := by
        obtain ⟨c, cs, hfirst, hc⟩ := exists_colons_eq_cons q qs
        rw [hfirst, List.cons_append, splitAtGap]
        rintro r' - heq
        exact hc (List.cons.inj heq).1
      rw [hjoin, List.append_assoc, splitAtGap_append (colon_not_mem_hexText p), List.cons_append,
        hone, ih, Option.map_map, Option.map_map]
      simp [Function.comp_def]

/-- Where the longest run of zeros is said to be, there are zeros. -/
theorem exists_zeros_of_longestZeroRun {start place size : Nat}
    (h : longestZeroRun start ps = (place, size)) (hsize : 0 < size) :
    ∃ before after, ps = before ++ List.replicate size 0 ++ after ∧ place = start + before.length := by
  induction ps generalizing start with
  | nil =>
    obtain ⟨-, rfl⟩ := Prod.mk.inj h
    exact absurd hsize (Nat.lt_irrefl 0)
  | cons p rest ih =>
    rw [longestZeroRun] at h
    split at h
    · obtain ⟨rfl, rfl⟩ := Prod.mk.inj h
      refine ⟨[], (p :: rest).dropWhile (· == 0), ?_, rfl⟩
      have hzeros : (p :: rest).takeWhile (· == 0) = List.replicate (zeroRun (p :: rest)) 0 := by
        refine List.eq_replicate_of_mem fun q hq => ?_
        simpa using List.all_eq_true.mp List.all_takeWhile q hq
      rw [List.nil_append, ← hzeros, List.takeWhile_append_dropWhile]
    · obtain ⟨before, after, rfl, rfl⟩ := ih h
      exact ⟨p :: before, after, rfl, by rw [List.length_cons]; omega⟩

/-- **How an address is written**: as its pieces, or with a gap in place of two or more zeros. -/
theorem v6Text_cases (ps : List Nat) :
    v6Text ps = colons ps ∨ ∃ before after size, 2 ≤ size ∧
      ps = before ++ List.replicate size 0 ++ after ∧
        v6Text ps = colons before ++ ':' :: ':' :: colons after := by
  rcases hrun : longestZeroRun 0 ps with ⟨place, size⟩
  by_cases hsize : size < 2
  · left
    simp only [v6Text, hrun, if_pos hsize]
    rfl
  · right
    obtain ⟨before, after, rfl, rfl⟩ := exists_zeros_of_longestZeroRun hrun (by omega)
    refine ⟨before, after, size, by omega, rfl, ?_⟩
    have htake : (before ++ List.replicate size 0 ++ after).take (0 + before.length) = before := by
      simp
    have hdrop : (before ++ List.replicate size 0 ++ after).drop (0 + before.length + size)
        = after := by
      simp
    simp only [v6Text, hrun, if_neg hsize, htake, hdrop]
    simp [colons]

theorem mem_colons {c : Char} (h : c ∈ colons ps) :
    c ∈ ':' :: (List.range 16).map (Text.digit false) := by
  rcases Text.mem_join h with rfl | ⟨p, hp, hc⟩
  · exact List.mem_cons_self
  · obtain ⟨q, -, rfl⟩ := List.mem_map.mp hp
    exact List.mem_cons_of_mem _ (mem_hexText hc)

/-- Eight pieces are written with digits and colons. -/
theorem mem_v6Text {c : Char} (h : c ∈ v6Text ps) :
    c ∈ ':' :: (List.range 16).map (Text.digit false) := by
  rcases v6Text_cases ps with htext | ⟨before, after, -, -, -, htext⟩
  · exact mem_colons (htext ▸ h)
  · rw [htext, List.mem_append, List.mem_cons, List.mem_cons] at h
    rcases h with h | rfl | rfl | h
    · exact mem_colons h
    · exact List.mem_cons_self
    · exact List.mem_cons_self
    · exact mem_colons h

/-- **Eight pieces are read as the address that is written with them.** -/
theorem v6Address?_v6Text (hlength : ps.length = 8) (hsmall : ∀ p ∈ ps, p < 0x10000) :
    v6Address? (v6Text ps) = some ps := by
  rcases v6Text_cases ps with htext | ⟨before, after, size, hsize, rfl, htext⟩
  · have hgap : splitAtGap (colons ps) = none := by
      simpa [splitAtGap] using splitAtGap_colons ps []
    rw [htext, v6Address?, hgap]
    simp [v6Side?_colons true hsmall, hlength]
  · have hgap : splitAtGap (colons before ++ ':' :: ':' :: colons after)
        = some (colons before, colons after) := by
      simpa [splitAtGap] using splitAtGap_colons before (':' :: ':' :: colons after)
    have hbefore : v6Side? false (colons before) = some before :=
      v6Side?_colons false fun p hp => hsmall p (by simp [hp])
    have hafter : v6Side? true (colons after) = some after :=
      v6Side?_colons true fun p hp => hsmall p (by simp [hp])
    simp only [List.length_append, List.length_replicate] at hlength
    have hfilled : 8 - (before.length + after.length) = size := by omega
    rw [htext, v6Address?, hgap]
    simp only [hbefore, hafter, Option.bind_eq_bind, Option.bind_some, fillGap, hfilled]
    rw [if_pos (by omega)]

/-! ## 4. Capitals -/

theorem digitValue?_toLower (c : Char) :
    Text.digitValue? c.toLower = Text.digitValue? c := by
  by_cases h : 65 ≤ c.toNat ∧ c.toNat ≤ 90
  · simp only [Text.digitValue?, Text.toNat_toLower_of_capital h]
    grind
  · rw [Text.toLower_of_not_capital h]

theorem digitsValue?_toLower (base : Nat) (cs : List Char) :
    Text.digitsValue? base (cs.map Char.toLower) = Text.digitsValue? base cs := by
  simp only [Text.digitsValue?, List.foldlM_map, digitValue?_toLower]

theorem pieces_toLower {sep : Char} (hsep : sep.toNat < 65) (cs : List Char) :
    Text.pieces sep (cs.map Char.toLower) = (Text.pieces sep cs).map (List.map Char.toLower) := by
  induction cs with
  | nil => rfl
  | cons c r ih =>
    rw [List.map_cons, Text.pieces, Text.pieces, ih]
    simp only [Text.toLower_eq_iff (.inl hsep)]
    split
    · rfl
    · cases Text.pieces sep r with
      | nil => rfl
      | cons p ps => rfl

theorem v6Piece?_toLower (cs : List Char) : v6Piece? (cs.map Char.toLower) = v6Piece? cs := by
  simp only [v6Piece?, digitsValue?_toLower, List.isEmpty_map, List.length_map]

theorem plainOctet?_toLower (cs : List Char) :
    plainOctet? (cs.map Char.toLower) = plainOctet? cs := by
  have hhead : (cs.map Char.toLower).head? = some '0' ↔ cs.head? = some '0' := by
    cases cs with
    | nil => simp
    | cons c r => simp [Text.toLower_eq_iff (d := '0') (by decide)]
  simp only [plainOctet?, digitsValue?_toLower, List.isEmpty_map, List.length_map, hhead]

theorem dottedPieces?_toLower (cs : List Char) :
    dottedPieces? (cs.map Char.toLower) = dottedPieces? cs := by
  rw [dottedPieces?, pieces_toLower (by decide), List.mapM_map]
  simp only [Function.comp_def, plainOctet?_toLower]
  rfl

theorem v6Pieces?_toLower (dotted : Bool) (texts : List (List Char)) :
    v6Pieces? dotted (texts.map (List.map Char.toLower)) = v6Pieces? dotted texts := by
  induction texts with
  | nil => rfl
  | cons text rest ih =>
    cases rest with
    | nil =>
      have hdot : (text.map Char.toLower).contains '.' = text.contains '.' := by
        rw [Bool.eq_iff_iff]
        simp [Text.toLower_eq_iff (d := '.') (by decide)]
      simp only [List.map_cons, List.map_nil, v6Pieces?, hdot, dottedPieces?_toLower,
        v6Piece?_toLower]
    | cons next others =>
      rw [List.map_cons] at ih
      rw [List.map_cons, List.map_cons, v6Pieces?, v6Pieces?, v6Piece?_toLower, ih]

theorem v6Side?_toLower (dotted : Bool) (cs : List Char) :
    v6Side? dotted (cs.map Char.toLower) = v6Side? dotted cs := by
  simp only [v6Side?, List.isEmpty_map, pieces_toLower (by decide : ':'.toNat < 65),
    v6Pieces?_toLower]

theorem splitAtGap_toLower (cs : List Char) :
    splitAtGap (cs.map Char.toLower)
      = (splitAtGap cs).map fun sides => (sides.1.map Char.toLower, sides.2.map Char.toLower) := by
  have hcolon (c : Char) : c.toLower = ':' ↔ c = ':' := Text.toLower_eq_iff (by decide)
  fun_induction splitAtGap cs with
  | case1 r => rfl
  | case2 c r hgap ih =>
    rw [List.map_cons, splitAtGap, ih, Option.map_map, Option.map_map]
    · rfl
    · intro r' hc hr
      cases r with
      | nil => exact absurd hr (by simp)
      | cons d r =>
        obtain ⟨hd, -⟩ := List.cons.inj hr
        exact hgap r ((hcolon c).mp hc) (by rw [(hcolon d).mp hd])
  | case3 => rfl

/-- **Capitals are read like small letters.** -/
theorem v6Address?_toLower (cs : List Char) :
    v6Address? (cs.map Char.toLower) = v6Address? cs := by
  rw [v6Address?, v6Address?, splitAtGap_toLower]
  cases splitAtGap cs with
  | none => simp only [Option.map_none, v6Side?_toLower]
  | some sides => simp only [Option.map_some, v6Side?_toLower]

/-! ## 5. What is read -/

/-- So many digits make no larger number. -/
theorem digitsValue?_lt {base n : Nat} (h : Text.digitsValue? base cs = some n) :
    n < Nat.pow base cs.length := by
  induction cs using List.reverseRecOn generalizing n with
  | nil =>
    obtain rfl := Option.some.inj h
    exact Nat.one_pos
  | append_singleton cs c ih =>
    rw [Text.digitsValue?_concat] at h
    simp only [Option.bind_eq_some_iff] at h
    obtain ⟨front, hfront, d, -, h⟩ := h
    split at h
    · obtain rfl := Option.some.inj h
      have hless : (front + 1) * base ≤ Nat.pow base cs.length * base :=
        Nat.mul_le_mul_right base (Nat.succ_le_of_lt (ih hfront))
      have hpow : Nat.pow base (cs ++ [c]).length = Nat.pow base cs.length * base := by
        rw [List.length_append]
        rfl
      rw [hpow]
      rw [Nat.succ_mul] at hless
      omega
    · exact absurd h (by simp)

theorem v6Piece?_lt {p : Nat} (h : v6Piece? cs = some p) : p < 0x10000 := by
  unfold v6Piece? at h
  split at h
  · exact absurd h (by simp)
  · have hpow : Nat.pow 16 cs.length ≤ Nat.pow 16 4 := Nat.pow_le_pow_right (by decide) (by omega)
    exact Nat.lt_of_lt_of_le (digitsValue?_lt h) hpow

theorem plainOctet?_le {o : Nat} (h : plainOctet? cs = some o) : o ≤ 255 := by
  unfold plainOctet? at h
  split at h
  · exact absurd h (by simp)
  · obtain ⟨n, -, h⟩ := Option.bind_eq_some_iff.mp h
    split at h
    · rename_i hn
      rwa [← Option.some.inj h]
    · exact absurd h (by simp)

theorem mapM_plainOctet?_le {texts : List (List Char)} {os : List Nat}
    (h : texts.mapM plainOctet? = some os) : ∀ o ∈ os, o ≤ 255 := by
  induction texts generalizing os with
  | nil =>
    obtain rfl := Option.some.inj h
    simp
  | cons text rest ih =>
    simp only [List.mapM_cons, bind, Option.bind_eq_some_iff, pure, Option.some.injEq] at h
    obtain ⟨o, ho, others, hothers, rfl⟩ := h
    exact List.forall_mem_cons.mpr ⟨plainOctet?_le ho, ih hothers⟩

theorem dottedPieces?_lt (h : dottedPieces? cs = some ps) : ∀ p ∈ ps, p < 0x10000 := by
  unfold dottedPieces? at h
  split at h
  · rename_i a b c d hoctets
    have hsmall : ∀ o ∈ [a, b, c, d], o ≤ 255 := mapM_plainOctet?_le hoctets
    obtain rfl := Option.some.inj h
    simp only [List.forall_mem_cons, List.not_mem_nil, false_imp_iff, implies_true, and_true]
      at hsmall ⊢
    omega
  · exact absurd h (by simp)

theorem v6Pieces?_lt {dotted : Bool} {texts : List (List Char)}
    (h : v6Pieces? dotted texts = some ps) : ∀ p ∈ ps, p < 0x10000 := by
  induction texts generalizing ps with
  | nil =>
    obtain rfl := Option.some.inj h
    simp
  | cons text rest ih =>
    cases rest with
    | nil =>
      rw [v6Pieces?] at h
      split at h
      · exact dottedPieces?_lt h
      · obtain ⟨p, hp, rfl⟩ := Option.map_eq_some_iff.mp h
        simpa using v6Piece?_lt hp
    | cons next others =>
      rw [v6Pieces?] at h
      simp only [bind, Option.bind_eq_some_iff, pure, Option.some.injEq] at h
      obtain ⟨p, hp, qs, hqs, rfl⟩ := h
      exact List.forall_mem_cons.mpr ⟨v6Piece?_lt hp, ih hqs⟩

theorem v6Side?_lt {dotted : Bool} (h : v6Side? dotted cs = some ps) : ∀ p ∈ ps, p < 0x10000 := by
  unfold v6Side? at h
  split at h
  · obtain rfl := Option.some.inj h
    simp
  · exact v6Pieces?_lt h

/-- **What is read are eight pieces of sixteen bits.** -/
theorem v6Address?_sound (h : v6Address? cs = some ps) :
    ps.length = 8 ∧ ∀ p ∈ ps, p < 0x10000 := by
  unfold v6Address? at h
  split at h
  · simp only [bind, Option.bind_eq_some_iff] at h
    obtain ⟨side, hside, h⟩ := h
    split at h
    · rename_i hlength
      obtain rfl := Option.some.inj h
      exact ⟨hlength, v6Side?_lt hside⟩
    · exact absurd h (by simp)
  · simp only [bind, Option.bind_eq_some_iff] at h
    obtain ⟨before, hbefore, after, hafter, h⟩ := h
    split at h
    · obtain rfl := Option.some.inj h
      refine ⟨length_fillGap (by omega), ?_⟩
      intro p hp
      rw [fillGap, List.mem_append, List.mem_append] at hp
      rcases hp with (hp | hp) | hp
      · exact v6Side?_lt hbefore p hp
      · rw [List.eq_of_mem_replicate hp]
        decide
      · exact v6Side?_lt hafter p hp
    · exact absurd h (by simp)

end Url

end PluginArbiter
