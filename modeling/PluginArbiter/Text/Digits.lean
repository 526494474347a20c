/-
# Digits

Digits up to base sixteen, the numbers that lists of them stand for, and back.

Main statements:
* `digitValue?_digit`: a digit reads back as its value;
* `digitsValue?_decimal`: the decimal digits of a number read back as the number;
* `decimal_eq_cons`: there are no needless noughts in front.
-/
namespace PluginArbiter.Text

/-- The digit of a value below sixteen, in the given letter case. -/
def digit (upper : Bool) (n : Nat) : Char :=
  if n < 10 then Char.ofNat (0x30 + n)
  else if upper then Char.ofNat (0x41 + (n - 10)) else Char.ofNat (0x61 + (n - 10))

/-- The value of a digit, in either letter case. -/
def digitValue? (c : Char) : Option Nat :=
  let n := c.toNat
  if 0x30 ≤ n ∧ n ≤ 0x39 then some (n - 0x30)
  else if 0x41 ≤ n ∧ n ≤ 0x46 then some (n - 0x41 + 10)
  else if 0x61 ≤ n ∧ n ≤ 0x66 then some (n - 0x61 + 10)
  else none

/-- The value of a list of digits in a base, if each is a digit of that base. -/
def digitsValue? (base : Nat) (cs : List Char) : Option Nat :=
  cs.foldlM
    (fun n c => (digitValue? c).bind fun d => if d < base then some (n * base + d) else none) 0

/-- The digits of a number in a base, the last one first; `steps` bounds their count. -/
def digitsBackwards (base : Nat) : Nat → Nat → List Nat
  | 0, _ => []
  | steps + 1, n => if n < base then [n] else n % base :: digitsBackwards base steps (n / base)

/-- The decimal digits of a number. -/
def decimal (n : Nat) : List Char := ((digitsBackwards 10 (n + 1) n).map (digit false)).reverse

/-! ## 1. Laws -/

/-- A digit reads back as its value. -/
theorem digitValue?_digit {n : Nat} (upper : Bool) (h : n < 16) :
    digitValue? (digit upper n) = some n := by
  have hall : ∀ u : Bool, ∀ m ∈ List.range 16, digitValue? (digit u m) = some m := by decide
  exact hall upper n (List.mem_range.mpr h)

/-- One more digit at the end. -/
theorem digitsValue?_concat (base : Nat) (cs : List Char) (c : Char) :
    digitsValue? base (cs ++ [c]) = (digitsValue? base cs).bind fun n =>
      (digitValue? c).bind fun d => if d < base then some (n * base + d) else none := by
  simp [digitsValue?, List.foldlM_append]

/-- The digits of a number in a base up to sixteen read back as the number. -/
theorem digitsValue?_digitsBackwards {base : Nat} (hl : 2 ≤ base) (hu : base ≤ 16) {steps n : Nat}
    (h : n < Nat.pow base steps) :
    digitsValue? base ((digitsBackwards base steps n).map (digit false)).reverse = some n := by
  induction steps generalizing n with
  | zero =>
    obtain rfl := Nat.lt_one_iff.mp h
    rfl
  | succ steps ih =>
    rw [digitsBackwards]
    split
    · rename_i hb
      have hd : digitValue? (digit false n) = some n := digitValue?_digit false (by omega)
      simp [digitsValue?, hd, hb]
    · have hlt : n / base < Nat.pow base steps :=
        Nat.div_lt_of_lt_mul (Nat.mul_comm (Nat.pow base steps) base ▸ h)
      have hm : n % base < base := Nat.mod_lt n (by omega)
      have hd : digitValue? (digit false (n % base)) = some (n % base) :=
        digitValue?_digit false (by omega)
      simp only [List.map_cons, List.reverse_cons, digitsValue?_concat, ih hlt, hd,
        Option.bind_some, if_pos hm, Option.some.injEq]
      exact Nat.div_add_mod' n base

/-- The decimal digits of a number read back as the number. -/
theorem digitsValue?_decimal (n : Nat) : digitsValue? 10 (decimal n) = some n :=
  digitsValue?_digitsBackwards (by decide) (by decide)
    (Nat.lt_trans (Nat.lt_succ_self n) (Nat.lt_pow_self (by decide)))

/-- The digits of a number are less than the base. -/
theorem lt_of_mem_digitsBackwards {base : Nat} (hbase : 0 < base) {steps n d : Nat}
    (h : d ∈ digitsBackwards base steps n) : d < base := by
  induction steps generalizing n with
  | zero => exact absurd h List.not_mem_nil
  | succ steps ih =>
    rw [digitsBackwards] at h
    split at h
    · rename_i hn
      rwa [List.mem_singleton.mp h]
    · rcases List.mem_cons.mp h with rfl | h
      · exact Nat.mod_lt n hbase
      · exact ih h

/-- A number below a power of the base has no more digits than the power says. -/
theorem length_digitsBackwards_le {base steps n k : Nat} (h : n < Nat.pow base (k + 1)) :
    (digitsBackwards base steps n).length ≤ k + 1 := by
  induction steps generalizing n k with
  | zero => exact Nat.zero_le _
  | succ steps ih =>
    rw [digitsBackwards]
    split
    · exact Nat.succ_le_succ (Nat.zero_le k)
    · rename_i hlarge
      cases k with
      | zero => exact absurd (Nat.one_mul base ▸ h) hlarge
      | succ k =>
        have hlt : n / base < Nat.pow base (k + 1) :=
          Nat.div_lt_of_lt_mul (Nat.mul_comm (Nat.pow base (k + 1)) base ▸ h)
        exact Nat.succ_le_succ (ih hlt)

/-- No number but nought has nought as its first digit. -/
theorem getLast?_digitsBackwards {base : Nat} (hbase : 2 ≤ base) {steps n : Nat} (hn : n ≠ 0)
    (hsteps : n < steps) :
    ∃ d, (digitsBackwards base steps n).getLast? = some d ∧ d ≠ 0 := by
  induction steps generalizing n with
  | zero => exact absurd hsteps (Nat.not_lt_zero n)
  | succ steps ih =>
    rw [digitsBackwards]
    split
    · exact ⟨n, rfl, hn⟩
    · rename_i hlarge
      have hless : n / base < n := Nat.div_lt_self (by omega) (by omega)
      have hpos : n / base ≠ 0 := Nat.div_ne_zero_iff.mpr ⟨by omega, by omega⟩
      obtain ⟨d, hd, hne⟩ := ih hpos (by omega)
      refine ⟨d, ?_, hne⟩
      rw [List.getLast?_cons, hd]
      rfl

/-- Decimal digits are digits. -/
theorem isDigit_of_mem_decimal {n : Nat} {c : Char} (h : c ∈ decimal n) : c.isDigit = true := by
  have hall : ∀ d ∈ List.range 10, (digit false d).isDigit = true := by decide
  obtain ⟨d, hd, rfl⟩ := List.mem_map.mp (List.mem_reverse.mp h)
  exact hall d (List.mem_range.mpr (lt_of_mem_digitsBackwards (by decide) hd))

/-- No number but nought begins with nought. -/
theorem decimal_eq_cons (n : Nat) : decimal n = ['0'] ∨ ∃ c r, decimal n = c :: r ∧ c ≠ '0' := by
  by_cases hn : n = 0
  · subst hn
    exact .inl rfl
  · have hall : ∀ d ∈ List.range 10, d ≠ 0 → digit false d ≠ '0' := by decide
    obtain ⟨d, hlast, hd⟩ := getLast?_digitsBackwards (by decide : 2 ≤ 10) hn (Nat.lt_succ_self n)
    have hsmall : d < 10 := lt_of_mem_digitsBackwards (by decide) (List.mem_of_getLast? hlast)
    have hhead : (decimal n).head? = some (digit false d) := by
      rw [decimal, List.head?_reverse, List.getLast?_map, hlast]
      rfl
    obtain ⟨r, hr⟩ := List.head?_eq_some_iff.mp hhead
    exact .inr ⟨_, r, hr, hall d (List.mem_range.mpr hsmall) hd⟩

theorem decimal_ne_nil (n : Nat) : decimal n ≠ [] := by
  rcases decimal_eq_cons n with h | ⟨c, r, h, -⟩ <;> simp [h]

end PluginArbiter.Text
