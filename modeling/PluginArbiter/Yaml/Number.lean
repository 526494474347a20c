/-
# Numbers in plain scalars

Which texts a plain scalar reads as a natural number, and which would be taken for some number when
they stand without quotes.

Main statements:
* `natural?_decimal`: the decimal digits of a number are read as the number.
-/
import PluginArbiter.Text.Digits

namespace PluginArbiter.Yaml.Number

/-! ## 1. Parts -/

/-- A text without one plus sign in front. -/
def withoutPlus : List Char → List Char
  | '+' :: r => r
  | r => r

/-- A text without one sign in front. -/
def withoutSign : List Char → List Char
  | '-' :: r => r
  | r => withoutPlus r

/-- Whether a text begins with a sign. -/
def isSigned : List Char → Bool
  | c :: _ => c == '+' || c == '-'
  | [] => false

/-- Whether a text holds decimal digits and nothing else. -/
def isDigits (cs : List Char) : Bool := !cs.isEmpty && cs.all Char.isDigit

/-- Digits with needless noughts in front, after a sign or not. -/
def hasLeadingZeros (cs : List Char) : Bool :=
  match withoutSign cs with
  | '0' :: r => isDigits r
  | _ => false

/-- The value of the digits after the mark of a base. -/
def based? : List Char → Option Nat
  | '0' :: mark :: r =>
    let base := if mark == 'x' then 16 else if mark == 'o' then 8 else if mark == 'b' then 2 else 0
    if base = 0 || r.isEmpty then none else Text.digitsValue? base r
  | _ => none

/-! ## 2. Natural numbers -/

/-- The natural number that a plain scalar stands for: digits, possibly after a plus sign, in base
ten without needless noughts, or in the base of a mark `0x`, `0o` or `0b`. -/
def natural? (cs : List Char) : Option Nat :=
  let body := withoutPlus cs
  match based? body with
  | some n => some n
  | none => if isDigits body && !hasLeadingZeros cs then Text.digitsValue? 10 body else none

/-! ## 3. Texts that look like numbers -/

/-- A decimal number: digits, with a point before, between or after them, and an exponent. -/
structure Decimal where
  whole : List Char
  fraction : List Char
  exponent : Int

/-- Reads an exponent, which begins with `e`; nothing is the exponent nought. -/
def exponent? : List Char → Option Int
  | [] => some 0
  | e :: r =>
    if (e == 'e' || e == 'E') && isDigits (withoutSign r) then
      (Text.digitsValue? 10 (withoutSign r)).map fun n =>
        if r.head? == some '-' then -(n : Int) else n
    else none

/-- Reads a decimal number without a sign. -/
def decimal? (cs : List Char) : Option Decimal :=
  let whole := cs.takeWhile Char.isDigit
  let (fraction, rest) :=
    match cs.dropWhile Char.isDigit with
    | '.' :: r => (r.takeWhile Char.isDigit, r.dropWhile Char.isDigit)
    | r => ([], r)
  if whole.isEmpty && fraction.isEmpty then none
  else (exponent? rest).map fun exponent => { whole, fraction, exponent }

/-- Whether a decimal number is less than `limit`, which lies between `10 ^ 300` and `10 ^ 310`.
Only where the count of its digits does not decide is it worked out. -/
def Decimal.isBelow (d : Decimal) (limit : Nat) : Bool :=
  let digits := (d.whole ++ d.fraction).dropWhile (· == '0')
  let shift := d.exponent - (d.fraction.length : Int)
  let size := (digits.length : Int) + shift
  if digits.isEmpty || size < 300 then true
  else if 311 < size then false
  else
    let value := (Text.digitsValue? 10 digits).getD 0
    if 0 ≤ shift then value * Nat.pow 10 shift.toNat < limit
    else value < limit * Nat.pow 10 (-shift).toNat

/-- Half a step above the greatest number of double precision. -/
def doubleLimit : Nat := Nat.pow 2 1024 - Nat.pow 2 970

/-- A decimal number that is finite in double precision. -/
def isFinite (cs : List Char) : Bool :=
  match decimal? cs with
  | some d => d.isBelow doubleLimit
  | none => false

/-- The spellings of infinity and of no number. -/
def specials : List String :=
  [".inf", ".Inf", ".INF", "+.inf", "+.Inf", "+.INF", "-.inf", "-.Inf", "-.INF", ".nan", ".NaN",
   ".NAN"]

/-- A number with the mark of a base that fits 128 bits, with a sign for negative ones. -/
def isBased (cs : List Char) : Bool :=
  match cs with
  | '-' :: r => (based? r).any (· ≤ Nat.pow 2 127)
  | _ => (based? (withoutPlus cs)).any (· < Nat.pow 2 128)

/-- A decimal number that is finite, after a sign or not. -/
def isDecimal (cs : List Char) : Bool :=
  match cs with
  | '-' :: r => !isSigned r && isFinite r
  | _ => !isSigned (withoutPlus cs) && isFinite (withoutPlus cs)

/-- Whether a text would be taken for a number. -/
def looksNumeric (s : String) : Bool :=
  let cs := s.toList
  isBased cs || hasLeadingZeros cs || isDecimal cs || specials.contains s

/-! ## 4. Laws -/

/-- **The decimal digits of a number are read as the number.** -/
theorem natural?_decimal (n : Nat) : natural? (Text.decimal n) = some n := by
  have hdigits : isDigits (Text.decimal n) = true := by
    simp only [isDigits, Bool.and_eq_true, Bool.not_eq_true', List.isEmpty_eq_false_iff,
      List.all_eq_true]
    exact ⟨Text.decimal_ne_nil n, fun c => Text.isDigit_of_mem_decimal⟩
  have hvalue := Text.digitsValue?_decimal n
  rcases Text.decimal_eq_cons n with h | ⟨c, r, h, hc⟩
  · rw [h] at hdigits hvalue ⊢
    exact hvalue
  · have hc' : c.isDigit = true := Text.isDigit_of_mem_decimal (n := n) (h ▸ List.mem_cons_self)
    have hplus : c ≠ '+' := by rintro rfl; exact absurd hc' (by decide)
    have hminus : c ≠ '-' := by rintro rfl; exact absurd hc' (by decide)
    have hbody : withoutPlus (c :: r) = c :: r := by
      unfold withoutPlus
      split <;> simp_all
    have hsign : withoutSign (c :: r) = c :: r := by
      unfold withoutSign
      split <;> simp_all
    have hbased : based? (c :: r) = none := by
      unfold based?
      split <;> simp_all
    have hzeros : hasLeadingZeros (c :: r) = false := by
      unfold hasLeadingZeros
      rw [hsign]
      split <;> simp_all
    rw [h] at hdigits hvalue ⊢
    simp only [natural?, hbody, hbased, hdigits, hzeros, hvalue]
    rfl

end PluginArbiter.Yaml.Number
