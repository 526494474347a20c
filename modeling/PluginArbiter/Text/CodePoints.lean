/-
# Tables of code points

A set of code points is written as words in hexadecimal: `a1` is one code point, `a1-a7` a run of
them, and `101-137/2` every second one of a run.
-/
import PluginArbiter.Text.Digits
import PluginArbiter.Text.Pieces

namespace PluginArbiter.Text

/-! ## 1. Words -/

/-- The words of a table, which blanks and line breaks separate. -/
def words (table : String) : List (List Char) :=
  (pieces ' ' (table.toList.map fun c => if c = '\n' then ' ' else c)).filter fun w => !w.isEmpty

/-- The number that a word in hexadecimal stands for. -/
def codePoint (word : List Char) : Nat := (digitsValue? 16 word).getD 0

/-- What precedes and what follows a mark in a word; without the mark nothing follows. -/
def cutAt (mark : Char) (word : List Char) : List Char × List Char :=
  (word.takeWhile (· ≠ mark), (word.dropWhile (· ≠ mark)).drop 1)

/-! ## 2. Runs -/

/-- A run of code points, with the distance between neighbours. -/
structure CodeRun where
  first : Nat
  last : Nat
  step : Nat := 1
  deriving DecidableEq, Inhabited

/-- Whether a run holds a code point. -/
def CodeRun.holds (r : CodeRun) (n : Nat) : Bool :=
  r.first ≤ n && n ≤ r.last && (n - r.first) % r.step == 0

/-- Reads a word of a table. -/
def CodeRun.read (word : List Char) : CodeRun :=
  let (run, step) := cutAt '/' word
  let (first, last) := cutAt '-' run
  { first := codePoint first
    last := if last.isEmpty then codePoint first else codePoint last
    step := if step.isEmpty then 1 else codePoint step }

/-! ## 3. Tables -/

/-- Reads a table. -/
def codeRuns (table : String) : List CodeRun := (words table).map CodeRun.read

/-- Whether a table holds a character. -/
def inRuns (runs : List CodeRun) (c : Char) : Bool := runs.any fun r => r.holds c.toNat

end PluginArbiter.Text
