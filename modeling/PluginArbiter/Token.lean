/-
# Correlation tokens

A submission carries a token of 128 bits, by which its verdict is recognised.  A token is shown as
hexadecimal digits in groups of eight, four, four, four and twelve.

Main statements:
* `version_ofRandom`: every token made of random bits bears the version number 4.
-/
import PluginArbiter.Text.Digits

namespace PluginArbiter

/-- A token. -/
structure Token where
  bits : BitVec 128
  deriving DecidableEq, Inhabited

namespace Token

/-- The token with a given number. -/
def ofNat (n : Nat) : Token := { bits := BitVec.ofNat 128 n }

/-! ## 1. The text of a token -/

/-- The 32 digits, the highest first. -/
def digits (t : Token) : List Char :=
  (List.range 32).map fun i => Text.digit false (t.bits.toNat / Nat.pow 16 (31 - i) % 16)

/-- The text of a token. -/
def text (t : Token) : String :=
  let d := t.digits
  let group := fun start size => String.ofList ((d.drop start).take size)
  "-".intercalate [group 0 8, group 8 4, group 12 4, group 16 4, group 20 12]

/-! ## 2. Fresh tokens -/

/-- A token made of random bits, six of which say how it was made. -/
def ofRandom (bits : BitVec 128) : Token :=
  let keep : BitVec 128 := ~~~ (0xF#128 <<< 76 ||| 0x3#128 <<< 62)
  { bits := bits &&& keep ||| 0x4#128 <<< 76 ||| 0x2#128 <<< 62 }

/-- The number that says how a token was made. -/
def version (t : Token) : Nat := (t.bits.extractLsb' 76 4).toNat

/-- Every token made of random bits bears the version number 4. -/
theorem version_ofRandom (bits : BitVec 128) : (ofRandom bits).version = 4 := by
  have h : (ofRandom bits).bits.extractLsb' 76 4 = 4#4 := by
    apply BitVec.eq_of_getLsbD_eq
    intro i hi
    have hcases : i = 0 ∨ i = 1 ∨ i = 2 ∨ i = 3 := by omega
    rcases hcases with rfl | rfl | rfl | rfl <;> simp [ofRandom]
  rw [version, h]
  rfl

end Token

end PluginArbiter
