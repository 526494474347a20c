/-
# Styles of scalars

How a text is written as a scalar: as it is, between quotes, or on lines of its own.  The style is
chosen so that the text is read back as it was and is not taken for anything but a text.

Main statements:
* `choose_suits`: the style that is chosen suits the text.
-/
import PluginArbiter.Yaml.Number
import PluginArbiter.Yaml.Plain
import PluginArbiter.Yaml.Quoted

namespace PluginArbiter.Yaml

/-- The styles in which texts are written. -/
inductive Style
  | plain
  | single
  | double
  | literal
  deriving DecidableEq, Inhabited

namespace Style

/-! ## 1. What a text is like -/

/-- Whether a character can be written as it is. -/
def isPrintable (c : Char) : Bool :=
  c == '\n' || (' ' ≤ c && c ≤ '~')
    || ('\u00a0' ≤ c && c ≤ '\ufffd' && c ≠ byteOrderMark) || 0x10000 ≤ c.toNat

/-- Whether two neighbours are related. -/
def anyAdjacent (related : Char → Char → Bool) : List Char → Bool
  | a :: b :: r => related a b || anyAdjacent related (b :: r)
  | _ => false

/-- Whether a space stands before a line break. -/
def hasSpaceBeforeBreak : List Char → Bool := anyAdjacent fun a b => a == ' ' && isBreak b

/-- Whether a space stands after a line break. -/
def hasSpaceAfterBreak : List Char → Bool := anyAdjacent fun a b => isBreak a && b == ' '

/-- Only double quotes can hold the text. -/
def needsEscapes (cs : List Char) : Bool := !cs.all isPrintable || hasSpaceBeforeBreak cs

/-- Whether what follows a character is a space, a break or the end. -/
def spaceFollows (r : List Char) : Bool := r.head?.all isSpace

/-- Whether the first character has a meaning of its own. -/
def startsWithIndicator : List Char → Bool
  | [] => true
  | c :: r =>
    if c == '-' || c == '?' || c == ':' then spaceFollows r else indicators.contains c

/-- Whether a text begins like a document marker. -/
def startsLikeMarker : List Char → Bool
  | a :: b :: c :: _ => (a == '-' || a == '.') && a == b && b == c
  | _ => false

/-- Whether a colon before a space, or a hash sign after one, stands in the text. -/
def hasIndicator (cs : List Char) : Bool :=
  anyAdjacent (fun a b => (a == ':' && isSpace b) || (isSpace a && b == '#')) cs
    || cs.getLast? == some ':'

/-- Whether a text may stand without quotes. -/
def isPlainSafe (cs : List Char) : Bool :=
  !needsEscapes cs && !cs.any isBreak && !startsWithIndicator cs && !startsLikeMarker cs
    && !hasIndicator cs && cs.head? ≠ some ' ' && cs.getLast? ≠ some ' '

/-- The texts that would be taken for something that is not a text. -/
def looksLikeOther (s : String) : Bool :=
  ["", "~", "null", "Null", "NULL", "true", "True", "TRUE", "false", "False", "FALSE"].contains s
    || Number.looksNumeric s

/-- The style of a text. -/
def choose (s : String) : Style :=
  let cs := s.toList
  if cs.contains '\n' then
    if needsEscapes cs || cs.getLast? == some ' ' then .double else .literal
  else if isPlainSafe cs && !looksLikeOther s then .plain
  else if needsEscapes cs || hasSpaceAfterBreak cs then .double
  else .single

/-! ## 2. Writing -/

/-- So many spaces. -/
def spaces (n : Nat) : List Char := List.replicate n ' '

/-- A text with the lines after its first one indented; `fresh` says that a line begins here. -/
def indented (indent : Nat) (write : Char → List Char) : Bool → List Char → List Char
  | _, [] => []
  | fresh, c :: r =>
    if isBreak c then c :: indented indent write true r
    else (if fresh then spaces indent else []) ++ write c ++ indented indent write false r

/-- Whether a text ends in a line break. -/
def endsInBreak (cs : List Char) : Bool := cs.getLast?.any isBreak

/-- A text between single quotes, where a quote is written twice. -/
def writeSingle (indent : Nat) (cs : List Char) : List Char :=
  '\x27' :: indented indent (fun c => if c == '\x27' then [c, c] else [c]) false cs
    ++ (if endsInBreak cs then spaces indent else []) ++ ['\x27']

/-- The digits of a code point. -/
def codeDigits (count n : Nat) : List Char :=
  (List.range count).map fun i => Text.digit true (n / Nat.pow 16 (count - 1 - i) % 16)

/-- A character as an escape. -/
def escape (c : Char) : List Char :=
  match DoubleQuoted.escapes.find? fun e => e.2 == c with
  | some (letter, _) => ['\\', letter]
  | none =>
    if c.toNat ≤ 0xFF then '\\' :: 'x' :: codeDigits 2 c.toNat
    else if c.toNat ≤ 0xFFFF then '\\' :: 'u' :: codeDigits 4 c.toNat
    else '\\' :: 'U' :: codeDigits 8 c.toNat

/-- Whether a character is written as an escape. -/
def isEscaped (c : Char) : Bool := !isPrintable c || isBreak c || c == '\x22' || c == '\\'

/-- A text between double quotes. -/
def writeDouble (cs : List Char) : List Char :=
  '\x22' :: cs.flatMap (fun c => if isEscaped c then escape c else [c]) ++ ['\x22']

/-- The indicators of a text on lines of its own: the indentation where it cannot be seen, and what
becomes of the line breaks at its end. -/
def literalHeader (cs : List Char) : List Char :=
  let hint := if cs.head?.any fun c => c == ' ' || isBreak c then ['2'] else []
  let sign :=
    match cs.reverse with
    | [] => ['-']
    | c :: r => if !isBreak c then ['-'] else if r.head?.all isBreak then ['+'] else []
  '|' :: hint ++ sign

/-- A text on lines of its own, of which the last ends the scalar. -/
def writeLiteral (indent : Nat) (cs : List Char) : List Char :=
  literalHeader cs ++ '\n' :: indented indent (fun c => [c]) true cs
    ++ (if endsInBreak cs then [] else ['\n'])

/-- A text as a scalar, with the line break after it. -/
def writeLine (indent : Nat) (s : String) : List Char :=
  match choose s with
  | .plain => s.toList ++ ['\n']
  | .single => writeSingle indent s.toList ++ ['\n']
  | .double => writeDouble s.toList ++ ['\n']
  | .literal => writeLiteral indent s.toList

/-! ## 3. Laws -/

/-- No two neighbours are related, if the first two are not and none further on. -/
theorem anyAdjacent_cons_eq_false {related : Char → Char → Bool} {c : Char} {cs : List Char} :
    anyAdjacent related (c :: cs) = false ↔
      (∀ d r, cs = d :: r → related c d = false) ∧ anyAdjacent related cs = false := by
  cases cs with
  | nil => simp [anyAdjacent]
  | cons d cs => simp [anyAdjacent]

/-- A text ends in a line break if its last part does. -/
theorem endsInBreak_append {cs ds : List Char} (h : endsInBreak ds = true) :
    endsInBreak (cs ++ ds) = true := by
  unfold endsInBreak at h ⊢
  cases hlast : ds.getLast? with
  | none =>
    rw [hlast] at h
    exact nomatch h
  | some c =>
    rw [List.getLast?_append, hlast]
    rwa [hlast] at h

/-- Line breaks end in a line break. -/
theorem endsInBreak_of_breaks {cs : List Char} (h : ∀ c ∈ cs, isBreak c = true) (hne : cs ≠ []) :
    endsInBreak cs = true := by
  unfold endsInBreak
  cases hlast : cs.getLast? with
  | none => exact absurd (List.getLast?_eq_none_iff.mp hlast) hne
  | some c => exact h c (List.mem_of_getLast? hlast)

/-- What a style asks of a text. -/
def Suits : Style → List Char → Prop
  | .plain, cs => isPlainSafe cs = true
  | .single, cs =>
    cs.contains '\n' = false ∧ needsEscapes cs = false ∧ hasSpaceAfterBreak cs = false
  | .double, _ => True
  | .literal, cs => cs ≠ [] ∧ needsEscapes cs = false

/-- The style that is chosen suits the text. -/
theorem choose_suits (s : String) : (choose s).Suits s.toList := by
  simp only [choose]
  split
  · rename_i hfeed
    split
    · trivial
    · rename_i hdouble
      simp only [Bool.or_eq_true, not_or, Bool.not_eq_true] at hdouble
      exact ⟨fun hnil => by simp [hnil] at hfeed, hdouble.1⟩
  · rename_i hfeed
    split
    · rename_i hsafe
      exact (Bool.and_eq_true_iff.mp hsafe).1
    · split
      · trivial
      · rename_i hdouble
        simp only [Bool.or_eq_true, not_or, Bool.not_eq_true] at hdouble
        exact ⟨eq_false_of_ne_true hfeed, hdouble⟩

end Style

end PluginArbiter.Yaml
