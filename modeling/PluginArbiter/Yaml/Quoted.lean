/-
# Quoted scalars

Between single quotes a quote is written twice.  Between double quotes a backslash begins an escape,
and before a line break it takes the break away.
-/
import PluginArbiter.Text.Digits
import PluginArbiter.Yaml.Folding

namespace PluginArbiter.Yaml

/-! ## 1. Single quotes -/

namespace SingleQuoted

/-- Where the reader is. -/
inductive State
  /-- Inside, after a gap. -/
  | inside (gap : Gap)
  /-- After a quote, which ends the scalar unless another one follows. -/
  | quote

/-- Reads on after the opening quote. -/
def scan : State → List Glyph → Option (List Char × List Glyph)
  | .inside _, [] => none
  | .quote, [] => some ([], [])
  | .quote, g :: r =>
    if g.char == '\x27' then
      (scan (.inside .none) r).map fun (cs, rest) => ('\x27' :: cs, rest)
    else some ([], g :: r)
  | .inside gap, g :: r =>
    if atEnd (g :: r) then none
    else if isSpace g.char then scan (.inside (gap.add g.char)) r
    else if g.char == '\x27' then
      (scan .quote r).map fun (cs, rest) => (gap.text ++ cs, rest)
    else (scan (.inside .none) r).map fun (cs, rest) => (gap.text ++ g.char :: cs, rest)

/-- Reads a scalar after its opening quote. -/
def read (s : List Glyph) : Option (List Char × List Glyph) := scan (.inside .none) s

end SingleQuoted

/-! ## 2. Double quotes -/

namespace DoubleQuoted

/-- The escapes of one letter and what they stand for. -/
def escapes : List (Char × Char) :=
  [('0', '\x00'), ('a', '\x07'), ('b', '\x08'), ('t', '\t'), ('\t', '\t'), ('n', '\n'),
   ('v', '\x0b'), ('f', '\x0c'), ('r', '\r'), ('e', '\x1b'), (' ', ' '), ('\x22', '\x22'),
   ('/', '/'), ('\\', '\\'), ('N', '\u0085'), ('_', '\u00a0'), ('L', '\u2028'), ('P', '\u2029')]

/-- The escapes that a code point follows, and how many digits it has. -/
def codeLengths : List (Char × Nat) := [('x', 2), ('u', 4), ('U', 8)]

/-- The character with a code point, if there is one. -/
def ofCode? (n : Nat) : Option Char := if h : n.isValidChar then some (Char.ofNatAux n h) else none

/-- Where the reader is. -/
inductive State
  /-- Inside, after a gap. -/
  | inside (gap : Gap)
  /-- After a backslash. -/
  | escape
  /-- Within a code point of which some digits are still to come. -/
  | code (left : Nat) (value : Nat)

/-- Reads on after the opening quote. -/
def scan : State → List Glyph → Option (List Char × List Glyph)
  | _, [] => none
  | .inside gap, g :: r =>
    if atEnd (g :: r) then none
    else if isSpace g.char then scan (.inside (gap.add g.char)) r
    else if g.char == '\x22' then some (gap.text, r)
    else if g.char == '\\' then
      (scan .escape r).map fun (cs, rest) => (gap.text ++ cs, rest)
    else (scan (.inside .none) r).map fun (cs, rest) => (gap.text ++ g.char :: cs, rest)
  | .escape, g :: r =>
    if isBreak g.char then scan (.inside (.breaks none [])) r
    else
      match escapes.lookup g.char with
      | some c => (scan (.inside .none) r).map fun (cs, rest) => (c :: cs, rest)
      | none => (codeLengths.lookup g.char).bind fun left => scan (.code left 0) r
  | .code left value, g :: r =>
    (Text.digitValue? g.char).bind fun digit =>
      let value := 16 * value + digit
      if left ≤ 1 then
        (ofCode? value).bind fun c =>
          (scan (.inside .none) r).map fun (cs, rest) => (c :: cs, rest)
      else scan (.code (left - 1) value) r

/-- Reads a scalar after its opening quote. -/
def read (s : List Glyph) : Option (List Char × List Glyph) := scan (.inside .none) s

end DoubleQuoted

end PluginArbiter.Yaml
