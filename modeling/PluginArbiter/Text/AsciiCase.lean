/-
# Letters without regard to ASCII case

Only `A` to `Z` have a lower-case form here; every other character, letters of other scripts
included, stands for itself.

Main statements:
* `lower_lower`: lowering twice is lowering once;
* `sameIgnoringCase_iff`: two texts agree ignoring case exactly when their lowered forms are equal.
-/
namespace PluginArbiter.Text

/-- A text with `A` to `Z` replaced by `a` to `z`. -/
def lower (s : String) : String := String.ofList (s.toList.map Char.toLower)

/-- Whether two texts are equal but for the case of ASCII letters. -/
def sameIgnoringCase (a b : String) : Bool := lower a == lower b

/-! ## 1. Laws -/

theorem toList_lower (s : String) : (lower s).toList = s.toList.map Char.toLower := by
  simp [lower]

theorem toLower_of_not_capital {c : Char} (h : ¬ (65 ≤ c.toNat ∧ c.toNat ≤ 90)) : c.toLower = c :=
  dif_neg h

/-- A small letter stands 32 places behind its capital. -/
theorem toNat_toLower_of_capital {c : Char} (h : 65 ≤ c.toNat ∧ c.toNat ≤ 90) :
    c.toLower.toNat = c.toNat + 32 := by
  have hval : c.toLower.val = c.val + 32 := congrArg Char.val (dif_pos h)
  have hnat : c.toLower.toNat = (c.toNat + 32) % 2 ^ 32 := congrArg UInt32.toNat hval
  omega

theorem toNat_toLower (c : Char) :
    c.toLower.toNat = if 65 ≤ c.toNat ∧ c.toNat ≤ 90 then c.toNat + 32 else c.toNat := by
  split
  · rename_i h
    exact toNat_toLower_of_capital h
  · rename_i h
    rw [toLower_of_not_capital h]

/-- What is of ASCII stays so. -/
theorem toNat_toLower_lt {c : Char} (h : c.toNat < 0x80) : c.toLower.toNat < 0x80 := by
  rw [toNat_toLower]
  split <;> omega

/-- A lowered character stays as it is. -/
theorem toLower_toLower (c : Char) : c.toLower.toLower = c.toLower := by
  refine toLower_of_not_capital ?_
  rw [toNat_toLower]
  split <;> omega

/-- No letter is lowered to what stands in front of the small letters and is no capital. -/
theorem toLower_eq_iff {c d : Char} (hd : d.toNat < 65 ∨ 90 < d.toNat ∧ d.toNat < 97) :
    c.toLower = d ↔ c = d := by
  by_cases h : 65 ≤ c.toNat ∧ c.toNat ≤ 90
  · have hlower := toNat_toLower_of_capital h
    constructor
    · rintro rfl
      omega
    · rintro rfl
      omega
  · rw [toLower_of_not_capital h]

/-- Lowering twice is lowering once. -/
theorem lower_lower (s : String) : lower (lower s) = lower s := by
  apply String.toList_injective
  simp only [toList_lower, List.map_map]
  congr 1
  funext c
  exact toLower_toLower c

/-- Two texts agree ignoring case exactly when their lowered forms are equal. -/
theorem sameIgnoringCase_iff {a b : String} : sameIgnoringCase a b = true ↔ lower a = lower b := by
  simp [sameIgnoringCase]

end PluginArbiter.Text
