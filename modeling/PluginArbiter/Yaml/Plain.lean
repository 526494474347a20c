/-
# Plain scalars

A scalar without quotes.  It ends before `: `, before a comment, before a line that is not indented
enough and, within brackets, before a bracket or a comma.
-/
import PluginArbiter.Yaml.Folding

namespace PluginArbiter.Yaml

/-- The characters with which no plain scalar begins, unless what follows allows it. -/
def indicators : List Char :=
  ['-', '?', ':', ',', '[', ']', '\x7b', '\x7d', '#', '&', '*', '!', '|', '>', '\x27', '\x22', '%',
   '@', '\x60']

/-- The characters that end a plain scalar within brackets. -/
def brackets : List Char := [',', '[', ']', '\x7b', '\x7d']

namespace Plain

/-- Whether a plain scalar begins here. -/
def starts (inBrackets : Bool) : List Glyph → Bool
  | [] => false
  | g :: r =>
    if isSpace g.char then false
    else if g.char == '-' then !atSpace r
    else if g.char == '?' || g.char == ':' then !inBrackets && !atSpace r
    else !indicators.contains g.char

/-- Whether the scalar ends before the first character here. -/
def endsAt (inBrackets : Bool) (s : List Glyph) : Bool :=
  atIndicator ':' s || (inBrackets && s.head?.any fun g => brackets.contains g.char)

/-- A colon that may stand neither inside the scalar nor after it. -/
def isStray (inBrackets : Bool) : List Glyph → Bool
  | g :: h :: _ => inBrackets && g.char == ':' && (h.char == '?' || brackets.contains h.char)
  | _ => false

/-- Whether the scalar cannot go on here after a gap. -/
def stopsAfterGap (inBrackets : Bool) (floor : Nat) (s : List Glyph) : Bool :=
  atEnd s || s.head?.any fun g => g.char == '#' || (!inBrackets && g.col < floor)

/-- Reads on within a scalar, after a gap.  Lines that go on with it begin at column `floor` or
further right.  What is left begins after the blanks behind the scalar. -/
def scan (inBrackets : Bool) (floor : Nat) : Gap → List Glyph → Option (List Char × List Glyph)
  | _, [] => some ([], [])
  | gap, g :: r =>
    if isSpace g.char then
      if gap.isBroken && g.char == '\t' && g.col < floor then none
      else scan inBrackets floor (gap.add g.char) r
    else if gap.isOpen && stopsAfterGap inBrackets floor (g :: r) then some ([], g :: r)
    else if isStray inBrackets (g :: r) then none
    else if endsAt inBrackets (g :: r) then some ([], g :: r)
    else (scan inBrackets floor .none r).map fun (cs, rest) => (gap.text ++ g.char :: cs, rest)

/-- Reads a plain scalar. -/
def read (inBrackets : Bool) (floor : Nat) (s : List Glyph) :
    Option (List Char × List Glyph) :=
  if starts inBrackets s then scan inBrackets floor .none s else none

end Plain

end PluginArbiter.Yaml
