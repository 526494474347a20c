/-
# Labels

A domain name is a sequence of labels.  Before it is taken apart its characters are replaced by those
that they stand for, and composed (`prepared?`).  A label beyond ASCII is written in ASCII, behind a
mark of four characters; what it shows has to be sound, however it was given.

Main statements:
* `prepared?_of_ascii`: in a name of ASCII only capitals stand for others;
* `written_of_ascii`: a label of ASCII is written as it is.
-/
import PluginArbiter.Text.AsciiCase
import PluginArbiter.Text.Composition
import PluginArbiter.Url.Label.Direction
import PluginArbiter.Url.Label.Joiners
import PluginArbiter.Url.Label.Mapping
import PluginArbiter.Url.Punycode

namespace PluginArbiter.Url.Label

/-! ## 1. Soundness -/

/-- The mark of a label that is written in ASCII but shows more. -/
def mark : List Char := ['x', 'n', '-', '-']

/-- The most characters that a label beyond ASCII may show. -/
def maxShown : Nat := 1000

/-- The most characters that may follow the mark. -/
def maxWritten : Nat := 2000

/-- Whether a label is of ASCII only. -/
def isAscii (label : List Char) : Bool := label.all fun c => c.toNat < 0x80

/-- A name in the characters that those of the given one stand for, composed. -/
def prepared? (name : List Char) : Option (List Char) := do
  let text := (← name.mapM mapped?).flatten
  return if isAscii text then text else Text.composed text

/-- Whether a label beyond ASCII may be shown: its characters are allowed and composed, it does not
start with a mark that combines, its joiners fit, and it is not too long. -/
def isSound (label : List Char) : Bool :=
  label.length ≤ maxShown && label.all isAllowed && !label.head?.any Text.isMark &&
    joinersFit label && Text.isComposed label

/-! ## 2. Shown and written -/

/-- What a label of a prepared name shows.  One that bears the mark has to stand for a label beyond
ASCII. -/
def shown? (label : List Char) : Option (List Char) :=
  if mark.isPrefixOf label then
    let code := label.drop mark.length
    if isAscii code ∧ code.length ≤ maxWritten then
      (Punycode.read? code).filter fun shown =>
        !isAscii shown && isSound shown && Punycode.write shown == code
    else none
  else if isAscii label || isSound label then some label
  else none

/-- A label as it is written. -/
def written (shown : List Char) : List Char :=
  if isAscii shown then shown else mark ++ Punycode.write shown

/-! ## 3. ASCII -/

theorem isAscii_iff {label : List Char} : isAscii label = true ↔ ∀ c ∈ label, c.toNat < 0x80 := by
  simp [isAscii]

theorem mapM_mapped?_of_ascii {name : List Char} (ha : ∀ c ∈ name, c.toNat < 0x80) :
    name.mapM mapped? = some (name.map fun c => [c.toLower]) := by
  induction name with
  | nil => rfl
  | cons c rest ih =>
    have hmapped : mapped? c = some [c.toLower] := if_pos (ha c List.mem_cons_self)
    rw [List.mapM_cons, hmapped, ih fun d hd => ha d (List.mem_cons_of_mem _ hd)]
    rfl

/-- **In a name of ASCII only capitals stand for others**, and nothing is composed. -/
theorem prepared?_of_ascii {name : List Char} (ha : ∀ c ∈ name, c.toNat < 0x80) :
    prepared? name = some (name.map Char.toLower) := by
  have hflat : (name.map fun c => [c.toLower]).flatten = name.map Char.toLower := by
    rw [← List.flatMap_def, ← List.map_eq_flatMap]
  have hlower : isAscii (name.map Char.toLower) = true :=
    isAscii_iff.mpr (List.forall_mem_map.mpr fun c hc => Text.toNat_toLower_lt (ha c hc))
  simp only [prepared?, mapM_mapped?_of_ascii ha, hflat, hlower, Option.bind_eq_bind, Option.bind_some,
    if_true, pure]

/-- A label of ASCII is written as it is. -/
theorem written_of_ascii {label : List Char} (h : isAscii label = true) :
    written label = label := by
  simp [written, h]

end PluginArbiter.Url.Label
