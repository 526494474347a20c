/-
# Characters with their places

A text is read as a list of characters that know their line, their column, the octets before them,
and whether only spaces stand before them on their line.  Line breaks are made uniform first.

Main statements:
* `chars_locate`: placing characters loses none of them.
-/
namespace PluginArbiter.Yaml

/-! ## 1. Classes of characters -/

/-- A blank within a line. -/
def isBlank (c : Char) : Bool := c == ' ' || c == '\t'

/-- A line break; carriage returns and the next-line character have been made line feeds. -/
def isBreak (c : Char) : Bool := c == '\n' || c == '\u2028' || c == '\u2029'

/-- A blank or a line break. -/
def isSpace (c : Char) : Bool := isBlank c || isBreak c

/-- Whether a text may hold a character at all. -/
def isAdmitted (c : Char) : Bool :=
  c == '\t' || c == '\n' || c == '\r' || (' ' ≤ c && c ≤ '~') || c == '\u0085'
    || ('\u00a0' ≤ c && c ≤ '\ufffd') || 0x10000 ≤ c.toNat

/-- The byte order mark. -/
def byteOrderMark : Char := '\ufeff'

/-- A text with line feeds for all line breaks but the line and the paragraph separator. -/
def uniform : List Char → List Char
  | [] => []
  | '\r' :: '\n' :: r => '\n' :: uniform r
  | c :: r => (if c == '\r' || c == '\u0085' then '\n' else c) :: uniform r

/-! ## 2. Places -/

/-- A character with its place.  `offset` counts the octets of the text before it, and `leads` says
that only spaces, or a byte order mark and spaces, stand before it on its line. -/
structure Glyph where
  char : Char
  line : Nat
  col : Nat
  offset : Nat
  leads : Bool
  deriving DecidableEq, Inhabited

/-- A byte order mark at the start of a line is no part of the text, but it takes a column. -/
def isMarkAt (col : Nat) (c : Char) : Bool := col == 0 && c == byteOrderMark

/-- Places characters, of which the first stands at a given place. -/
def locate (line col offset : Nat) (leads : Bool) : List Char → List Glyph
  | [] => []
  | c :: r =>
    { char := c, line, col, offset, leads } ::
      if isBreak c then locate (line + 1) 0 (offset + c.utf8Size) true r
      else locate line (col + 1) (offset + c.utf8Size) (leads && (c == ' ' || isMarkAt col c)) r

/-- The characters of a text with their places. -/
def glyphs (text : List Char) : List Glyph := locate 0 0 0 true (uniform text)

/-- Placing characters loses none of them. -/
theorem chars_locate (line col offset : Nat) (leads : Bool) (cs : List Char) :
    (locate line col offset leads cs).map Glyph.char = cs := by
  induction cs generalizing line col offset leads with
  | nil => rfl
  | cons c r ih =>
    simp only [locate, List.map_cons, List.cons.injEq, true_and]
    split <;> exact ih ..

/-! ## 3. Looking ahead -/

/-- Whether the text is at its end or goes on with a blank or a line break. -/
def atSpace : List Glyph → Bool
  | [] => true
  | g :: _ => isSpace g.char

/-- Whether a document marker stands here: three equal characters at the start of a line. -/
def atMarker (mark : Char) : List Glyph → Bool
  | a :: b :: c :: r =>
    a.col == 0 && a.char == mark && b.char == mark && c.char == mark && atSpace r
  | _ => false

/-- Whether the content of a document ends here at a marker. -/
def atEnd (s : List Glyph) : Bool := atMarker '-' s || atMarker '.' s

/-- Whether an indicator stands here: a character that a blank, a break or the end follows. -/
def atIndicator (indicator : Char) : List Glyph → Bool
  | [] => false
  | g :: r => g.char == indicator && atSpace r

/-! ## 4. Skipping -/

/-- Skips blanks, line breaks, comments and byte order marks at the start of a line.  Outside of
brackets a tab must not lead its line. -/
def skipFrom (inBrackets : Bool) : Bool → List Glyph → List Glyph
  | _, [] => []
  | true, g :: r => skipFrom inBrackets (!isBreak g.char) r
  | false, g :: r =>
    if g.char == '#' then skipFrom inBrackets true r
    else if g.char == ' ' || isBreak g.char || isMarkAt g.col g.char
        || (g.char == '\t' && (inBrackets || !g.leads)) then
      skipFrom inBrackets false r
    else g :: r

/-- Skips to the next token. -/
def skip (inBrackets : Bool) (s : List Glyph) : List Glyph := skipFrom inBrackets false s

/-- Whether a tab is the first thing here that is no space. -/
def tabFollows (s : List Glyph) : Bool :=
  (s.dropWhile fun g => g.char == ' ').head?.any fun g => g.char == '\t'

end PluginArbiter.Yaml
