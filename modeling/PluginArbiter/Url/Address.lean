/-
# Numeric hosts

Addresses of four octets, which may also be given as fewer and larger numbers in decimal, octal or
hexadecimal digits, and addresses of eight pieces of sixteen bits.

Main statements:
* `length_fillGap`: filling the gap of an address gives eight pieces.
-/
import PluginArbiter.Text.Digits
import PluginArbiter.Text.Pieces
import PluginArbiter.Url.Encoding
import PluginArbiter.Url.Fault

namespace PluginArbiter.Url

/-! ## 1. Numbers -/

/-- A number below `16 ^ 8` in lower-case hexadecimal digits. -/
def hexText (n : Nat) : List Char := ((Text.digitsBackwards 16 8 n).map (Text.digit false)).reverse

/-! ## 2. Addresses of four octets -/

/-- One part of such an address: hexadecimal after `0x`, octal after `0`, else decimal. -/
def v4Number? : List Char → Option Nat
  | [] => none
  | '0' :: 'x' :: r => Text.digitsValue? 16 r
  | '0' :: 'X' :: r => Text.digitsValue? 16 r
  | '0' :: c :: r => Text.digitsValue? 8 (c :: r)
  | cs => Text.digitsValue? 10 cs

/-- The labels of a name without one empty label at its end. -/
def labels (name : List Char) : List (List Char) :=
  let parts := Text.pieces '.' name
  if parts.getLast? = some [] then parts.dropLast else parts

/-- A name whose last label is a number is meant as an address. -/
def endsInNumber (name : List Char) : Bool :=
  match (labels name).getLast? with
  | none => false
  | some last => (!last.isEmpty && last.all Char.isDigit) || (v4Number? last).isSome

/-- The address that parts stand for: all but the last are octets, and the last fills what is
left. -/
def v4Value? (numbers : List Nat) : Option Nat :=
  match numbers.reverse with
  | [] => none
  | last :: front =>
    let heads := front.reverse
    if heads.length ≤ 3 ∧ heads.all (· ≤ 255) ∧ last < Nat.pow 256 (4 - heads.length) then
      some (heads.foldl (fun n h => n * 256 + h) 0 * Nat.pow 256 (4 - heads.length) + last)
    else none

/-- Reads an address of four octets. -/
def v4Address? (name : List Char) : Option Nat :=
  let parts := labels name
  if 4 < parts.length then none else (parts.mapM v4Number?).bind v4Value?

/-- The four octets in decimal digits. -/
def v4Text (address : Nat) : List Char :=
  Text.join '.' <|
    [address / 0x1000000 % 256, address / 0x10000 % 256, address / 0x100 % 256, address % 256].map
      fun o => (toString o).toList

/-! ## 3. Addresses of eight pieces -/

/-- A piece: one to four hexadecimal digits. -/
def v6Piece? (cs : List Char) : Option Nat :=
  if cs.isEmpty ∨ 4 < cs.length then none else Text.digitsValue? 16 cs

/-- An octet in decimal digits without leading zeros. -/
def plainOctet? (cs : List Char) : Option Nat :=
  if cs.isEmpty ∨ (1 < cs.length ∧ cs.head? = some '0') then none
  else (Text.digitsValue? 10 cs).bind fun n => if n ≤ 255 then some n else none

/-- Four octets as two pieces. -/
def dottedPieces? (cs : List Char) : Option (List Nat) :=
  match (Text.pieces '.' cs).mapM plainOctet? with
  | some [a, b, c, d] => some [a * 256 + b, c * 256 + d]
  | _ => none

/-- A run of pieces; where allowed, the last may be four octets. -/
def v6Pieces? (dotted : Bool) : List (List Char) → Option (List Nat)
  | [] => some []
  | [last] =>
    if dotted && last.contains '.' then dottedPieces? last else (v6Piece? last).map ([·])
  | p :: q :: ps => do return (← v6Piece? p) :: (← v6Pieces? dotted (q :: ps))

/-- The pieces on one side of the gap; nothing at all is no piece. -/
def v6Side? (dotted : Bool) (cs : List Char) : Option (List Nat) :=
  if cs.isEmpty then some [] else v6Pieces? dotted (Text.pieces ':' cs)

/-- What precedes and what follows the first `::`. -/
def splitAtGap : List Char → Option (List Char × List Char)
  | ':' :: ':' :: r => some ([], r)
  | c :: r => (splitAtGap r).map fun p => (c :: p.1, p.2)
  | [] => none

/-- Eight pieces from those before and after a gap. -/
def fillGap (before after : List Nat) : List Nat :=
  before ++ List.replicate (8 - (before.length + after.length)) 0 ++ after

/-- Filling the gap gives eight pieces. -/
theorem length_fillGap {before after : List Nat} (h : before.length + after.length ≤ 8) :
    (fillGap before after).length = 8 := by
  simp only [fillGap, List.length_append, List.length_replicate]
  omega

/-- Reads an address of eight pieces.  A gap stands for at least one piece. -/
def v6Address? (cs : List Char) : Option (List Nat) :=
  match splitAtGap cs with
  | none => do
    let ps ← v6Side? true cs
    if ps.length = 8 then some ps else none
  | some (l, r) => do
    let before ← v6Side? false l
    let after ← v6Side? true r
    if before.length + after.length ≤ 7 then some (fillGap before after) else none

/-- The length of the run of zeros at the start of a list. -/
def zeroRun (ps : List Nat) : Nat := (ps.takeWhile (· == 0)).length

/-- The place and length of the first of the longest runs of zeros. -/
def longestZeroRun : Nat → List Nat → Nat × Nat
  | _, [] => (0, 0)
  | place, p :: ps =>
    let here := zeroRun (p :: ps)
    let later := longestZeroRun (place + 1) ps
    if later.2 ≤ here then (place, here) else later

/-- The pieces in hexadecimal digits; the longest run of two or more zeros becomes a gap. -/
def v6Text (ps : List Nat) : List Char :=
  let colons := fun qs : List Nat => Text.join ':' (qs.map hexText)
  let (place, size) := longestZeroRun 0 ps
  if size < 2 then colons ps
  else colons (ps.take place) ++ [':', ':'] ++ colons (ps.drop (place + size))

end PluginArbiter.Url
