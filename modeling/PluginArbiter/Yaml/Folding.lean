/-
# Folded line breaks

Between two words of a scalar that runs over several lines stand blanks and line breaks.  Blanks
within a line stay.  A single line feed becomes a space and several lose the first; a line or
paragraph separator stays.  An escaped break leaves nothing.
-/
import PluginArbiter.Yaml.Glyph

namespace PluginArbiter.Yaml

/-- What stands between two words. -/
inductive Gap
  /-- Blanks within a line. -/
  | blanks (cs : List Char)
  /-- Line breaks: the first one, which is missing when it is escaped, and those after it. -/
  | breaks (first : Option Char) (more : List Char)
  deriving DecidableEq, Inhabited

namespace Gap

/-- Nothing. -/
def none : Gap := .blanks []

/-- Whether anything stands between the words. -/
def isOpen : Gap → Bool
  | .blanks cs => !cs.isEmpty
  | .breaks .. => true

/-- Whether the line has been left. -/
def isBroken : Gap → Bool
  | .blanks _ => false
  | .breaks .. => true

/-- The gap with one more blank or line break; blanks around breaks are lost. -/
def add (gap : Gap) (c : Char) : Gap :=
  match gap, isBreak c with
  | .blanks cs, false => .blanks (cs ++ [c])
  | .blanks _, true => .breaks (some c) []
  | .breaks first more, false => .breaks first more
  | .breaks first more, true => .breaks first (more ++ [c])

/-- What the gap stands for. -/
def text : Gap → List Char
  | .blanks cs => cs
  | .breaks (some '\n') [] => [' ']
  | .breaks (some '\n') more => more
  | .breaks first more => first.toList ++ more

theorem text_none : Gap.none.text = [] := rfl

/-- A line or paragraph separator stays, and so does what comes after it. -/
theorem text_breaks {first : Char} {more : List Char} (h : first ≠ '\n') :
    (breaks (some first) more).text = first :: more := by
  simp [text, h]

end Gap

end PluginArbiter.Yaml
