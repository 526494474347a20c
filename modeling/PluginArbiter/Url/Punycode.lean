/-
# Labels beyond ASCII

A label with characters beyond ASCII is written as its ASCII characters followed by digits that say
which other characters stand where.  The digits count in base 36 with thresholds that adapt to the
sizes seen so far.

Main statements:
* `threshold_pos`, `threshold_le`: a threshold lies between 1 and 26, so every digit loop ends.
-/
namespace PluginArbiter.Url.Punycode

/-! ## 1. Digits and thresholds -/

/-- The character of a digit below 36: letters first, then numerals. -/
def digitChar (d : Nat) : Char := if d < 26 then Char.ofNat (0x61 + d) else Char.ofNat (0x16 + d)

/-- The value of a digit; letters may be upper case. -/
def digitValue? (c : Char) : Option Nat :=
  let n := c.toNat
  if 0x61 ≤ n ∧ n ≤ 0x7A then some (n - 0x61)
  else if 0x41 ≤ n ∧ n ≤ 0x5A then some (n - 0x41)
  else if 0x30 ≤ n ∧ n ≤ 0x39 then some (n - 0x30 + 26)
  else none

/-- The threshold at a position, counted in steps of 36, under a bias. -/
def threshold (position bias : Nat) : Nat :=
  if position ≤ bias + 1 then 1 else if bias + 26 ≤ position then 26 else position - bias

theorem threshold_pos (position bias : Nat) : 1 ≤ threshold position bias := by
  unfold threshold; split <;> (try split) <;> omega

theorem threshold_le (position bias : Nat) : threshold position bias ≤ 26 := by
  unfold threshold; split <;> (try split) <;> omega

/-- Divides by 35 until at most 455 are left, counting 36 for each division. -/
def shrink (delta count : Nat) : Nat × Nat :=
  if delta ≤ 455 then (delta, count) else shrink (delta / 35) (count + 36)
termination_by delta
decreasing_by omega

/-- The bias after a step of a given size; the first step is damped more. -/
def adapt (delta points : Nat) (first : Bool) : Nat :=
  let d := if first then delta / 700 else delta / 2
  let (d, k) := shrink (d + d / points) 0
  k + 36 * d / (d + 38)

/-! ## 2. Writing -/

/-- A step size as digits, the last of which lies below its threshold. -/
def writeDigits (bias position q : Nat) : List Char :=
  let t := threshold position bias
  if q < t then [digitChar q]
  else digitChar (t + (q - t) % (36 - t)) :: writeDigits bias (position + 36) ((q - t) / (36 - t))
termination_by q
decreasing_by
  have := threshold_pos position bias
  have := Nat.div_le_self (q - threshold position bias) (36 - threshold position bias)
  omega

/-- The state of the writer: the step size so far, the bias, the number of characters written, and
the digits. -/
structure Writer where
  delta : Nat
  bias : Nat
  written : Nat
  digits : List Char

/-- Passes one character of the label while the code point `n` is being placed. -/
def Writer.pass (basic n : Nat) (w : Writer) (c : Char) : Writer :=
  if c.toNat < n then { w with delta := w.delta + 1 }
  else if c.toNat = n then
    { delta := 0
      bias := adapt w.delta (w.written + 1) (w.written == basic)
      written := w.written + 1
      digits := w.digits ++ writeDigits w.bias 36 w.delta }
  else w

/-- Places the code points beyond ASCII in increasing order; `next` is the smallest one that may
still come. -/
def writeRest (label : List Char) (basic : Nat) : List Nat → Nat → Writer → Writer
  | [], _, w => w
  | n :: rest, next, w =>
    let w := { w with delta := w.delta + (n - next) * (w.written + 1) }
    let w := label.foldl (Writer.pass basic n) w
    writeRest label basic rest (n + 1) { w with delta := w.delta + 1 }

/-- Puts a number into an increasing list unless it is there. -/
def insertIncreasing (x : Nat) : List Nat → List Nat
  | [] => [x]
  | y :: ys => if x < y then x :: y :: ys else if x = y then y :: ys
    else y :: insertIncreasing x ys

/-- The label in ASCII, without its marker. -/
def write (label : List Char) : List Char :=
  let basic := label.filter fun c => c.toNat < 0x80
  let others := (label.filter fun c => 0x80 ≤ c.toNat).foldr
    (fun c ns => insertIncreasing c.toNat ns) []
  let w := writeRest label basic.length others 0x80
    { delta := 0, bias := 72, written := basic.length, digits := [] }
  basic ++ (if basic.isEmpty then [] else ['-']) ++ w.digits

/-! ## 3. Reading -/

/-- The state of the reader: the label so far, the current code point and place, the bias, and the
digits of a step that is not finished. -/
structure Reader where
  label : List Char
  point : Nat := 0x80
  place : Nat := 0
  bias : Nat := 72
  start : Nat := 0
  weight : Nat := 1
  position : Nat := 36

/-- Takes in one digit; a digit below its threshold ends the step and places a character. -/
def Reader.take (r : Reader) (d : Nat) : Option Reader :=
  let place := r.place + d * r.weight
  let t := threshold r.position r.bias
  if d < t then
    let size := r.label.length + 1
    let point := r.point + place / size
    if point < 0x110000 ∧ ¬ (0xD800 ≤ point ∧ point < 0xE000) then
      let i := place % size
      some
        { label := r.label.take i ++ Char.ofNat point :: r.label.drop i
          point := point
          place := i + 1
          bias := adapt (place - r.start) size (r.start == 0)
          start := i + 1 }
    else none
  else some { r with place, weight := r.weight * (36 - t), position := r.position + 36 }

/-- Takes in all digits; the last step has to be finished. -/
def Reader.run : List Char → Reader → Option (List Char)
  | [], r => if r.position = 36 then some r.label else none
  | c :: cs, r => do
    let d ← digitValue? c
    run cs (← r.take d)

/-- What precedes the last dash and what follows it; without a dash nothing precedes. -/
def splitAtLastDash (cs : List Char) : List Char × List Char :=
  let tail := (cs.reverse.takeWhile (· ≠ '-')).reverse
  (cs.take (cs.length - tail.length - 1), tail)

/-- The label that an ASCII form without its marker stands for. -/
def read? (cs : List Char) : Option (List Char) :=
  let (basic, digits) := splitAtLastDash cs
  Reader.run digits { label := basic }

end PluginArbiter.Url.Punycode
