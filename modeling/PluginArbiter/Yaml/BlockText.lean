/-
# Block scalars

A text on lines of its own, below an indicator: `|` keeps its line breaks and `>` folds them.  The
indicator may be followed by a digit, which gives the indentation, and by a sign, which says what
becomes of the line breaks at the end.
-/
import PluginArbiter.Text.Digits
import PluginArbiter.Yaml.Glyph

namespace PluginArbiter.Yaml.BlockText

/-! ## 1. The header -/

/-- What becomes of the line breaks at the end. -/
inductive Chomping
  /-- All are taken away. -/
  | strip
  /-- One is left. -/
  | clip
  /-- All are kept. -/
  | keep
  deriving DecidableEq, Inhabited

/-- What the indicators say; the indentation is relative, and found by looking where none is
given. -/
structure Header where
  folded : Bool
  chomping : Chomping := .clip
  indent : Option Nat := none
  deriving DecidableEq, Inhabited

/-- The header with one more indicator, unless there is one of its kind already. -/
def Header.add? (h : Header) (sawSign : Bool) (c : Char) : Option Header :=
  if c == '+' || c == '-' then
    if sawSign then none else some { h with chomping := if c == '+' then .keep else .strip }
  else
    match Text.digitsValue? 10 [c], h.indent with
    | some (n + 1), none => some { h with indent := some (n + 1) }
    | _, _ => none

/-- Reads the indicators to the next blank, break or comment. -/
def indicators : Header → Bool → List Glyph → Option (Header × List Glyph)
  | h, _, [] => some (h, [])
  | h, sawSign, g :: r =>
    if isSpace g.char || g.char == '#' then some (h, g :: r)
    else
      (h.add? sawSign g.char).bind fun h =>
        indicators h (sawSign || g.char == '+' || g.char == '-') r

/-- Goes to the line after the header; nothing but a comment may be in the way. -/
def afterHeader (s : List Glyph) : Option (List Glyph) :=
  match s.dropWhile fun g => isBlank g.char with
  | [] => some []
  | g :: r =>
    if isBreak g.char then some r
    else if g.char == '#' then some ((r.dropWhile fun g => !isBreak g.char).drop 1)
    else none

/-! ## 2. The indentation -/

/-- The widest indentation of the lines before the first character of the text, or nothing where
that character is a tab. -/
def leadingIndent : Nat → List Glyph → Option Nat
  | widest, [] => some widest
  | widest, g :: r =>
    if g.char == ' ' then leadingIndent (max widest (g.col + 1)) r
    else if isBreak g.char then leadingIndent widest r
    else if g.char == '\t' then none
    else some widest

/-- The indentation of the text; `floor` is the least that its place allows. -/
def indentOf (h : Header) (floor : Nat) (s : List Glyph) : Option Nat :=
  match h.indent with
  | some n => some (floor - 1 + n)
  | none => (leadingIndent 0 s).map fun widest => max (max widest floor) 1

/-! ## 3. The text -/

/-- The line breaks since the last line that held text: the one that ended it, if it was ended, and
those of the empty lines after it.  `wide` says that the line began with a blank. -/
structure Breaks where
  first : List Char := []
  more : List Char := []
  wide : Bool := false

/-- What the breaks stand for before a line that begins with `c`. -/
def Breaks.text (b : Breaks) (folded : Bool) (c : Char) : List Char :=
  if folded && b.first == ['\n'] && !b.wide && !isBlank c then
    if b.more.isEmpty then [' '] else b.more
  else b.first ++ b.more

/-- What is left of the breaks at the end. -/
def chomp (chomping : Chomping) (b : Breaks) : List Char :=
  match chomping with
  | .strip => []
  | .clip => b.first
  | .keep => b.first ++ b.more

/-- Reads on, within a line that began with a blank or not, or before a line. -/
def scan (h : Header) (indent : Nat) : Bool ⊕ Breaks → List Glyph →
    Option (List Char × List Glyph)
  | .inl _, [] => some ([], [])
  | .inr b, [] => some (chomp h.chomping b, [])
  | .inl wide, g :: r =>
    if isBreak g.char then scan h indent (.inr { first := [g.char], wide }) r
    else (scan h indent (.inl wide) r).map fun (cs, rest) => (g.char :: cs, rest)
  | .inr b, g :: r =>
    if g.char == ' ' && g.col < indent then scan h indent (.inr b) r
    else if g.char == '\t' && g.col < indent then none
    else if isBreak g.char then
      scan h indent (.inr { b with more := b.more ++ [g.char] }) r
    else if g.col == indent then
      (scan h indent (.inl (isBlank g.char)) r).map fun (cs, rest) =>
        (b.text h.folded g.char ++ g.char :: cs, rest)
    else some (chomp h.chomping b, g :: r)

/-- Reads a block scalar from its first indicator on. -/
def read (floor : Nat) : List Glyph → Option (List Char × List Glyph)
  | [] => none
  | g :: r => do
    let (h, r) ← indicators { folded := g.char == '>' } false r
    let s ← afterHeader r
    let indent ← indentOf h floor s
    scan h indent (.inr {}) s

end PluginArbiter.Yaml.BlockText
