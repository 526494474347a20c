/-
# Layout by indentation

Lists whose items follow dashes in one column, and records whose keys stand in one column.  What
belongs to an item or a key is indented further; only a list may begin in the column of its key,
and only a block scalar in the column of its key or dash.

A text holds one document, which `---` may open and `...` may close.
-/
import PluginArbiter.Yaml.Atom
import PluginArbiter.Yaml.BlockText

namespace PluginArbiter.Yaml

/-! ## 1. Nodes, items and fields -/

/-- Where a node may stand: its least column, whether its dashes may stand one column further left,
and whether a list or a record may begin on the present line. -/
structure Site where
  floor : Nat
  dashesBelow : Bool := false
  opens : Bool := true

/-- The site of a value after the colon of a key. -/
def Site.ofValue (col : Nat) : Site := { floor := col + 1, dashesBelow := true, opens := false }

/-- The site of an item after its dash. -/
def Site.ofItem (col : Nat) : Site := { floor := col + 1 }

/-- Reads an anchor, if there is one. -/
def anchor? : List Glyph → Option (Option String × List Glyph)
  | [] => some (none, [])
  | g :: r =>
    if g.char == '&' then (labelName? r).map fun (name, rest) => (some name, rest)
    else some (none, g :: r)

/-- The indicators of a block scalar. -/
def isBlockIndicator (c : Char) : Bool := c == '|' || c == '>'

/-- Whether nothing more stands on the line. -/
def endsLine (s : List Glyph) : Bool := s.head?.all Glyph.leads

mutual

/-- Reads a node that may be written here or on a later line, or may be missing. -/
def nodeAt (site : Site) : Nat → List Glyph → Option (Node String × List Glyph)
  | 0, _ => none
  | fuel + 1, s =>
    match skip false s with
    | [] => some (.empty, [])
    | g :: r =>
      if atEnd (g :: r) then some (.empty, s)
      else if !g.leads then node site fuel (g :: r)
      else if site.floor ≤ g.col then node { site with opens := true } fuel (g :: r)
      else if g.col + 1 == site.floor && isBlockIndicator g.char then node site fuel (g :: r)
      else if site.dashesBelow && g.col + 1 == site.floor && atIndicator '-' (g :: r) then
        (items false g.col fuel (g :: r)).map fun (xs, rest) => (.list xs, rest)
      else some (.empty, s)

/-- Reads a node that begins here. -/
def node (site : Site) : Nat → List Glyph → Option (Node String × List Glyph)
  | 0, _ => none
  | _ + 1, [] => none
  | fuel + 1, g :: r =>
    if atIndicator '-' (g :: r) then
      if site.opens then
        (items true g.col fuel (g :: r)).map fun (xs, rest) => (.list xs, rest)
      else none
    else
      (anchor? (g :: r)).bind fun (name, rest) =>
        let next := skip false rest
        if name.isSome && (endsLine next || atEnd next) then
          (nodeAt site fuel rest).bind fun (node, rest) =>
            (withAnchor? name node).map fun node => (node, rest)
        else if next.head?.any fun h => isBlockIndicator h.char then
          (BlockText.read site.floor next).bind fun (cs, rest) =>
            (withAnchor? name (.scalar false (String.ofList cs))).map fun node => (node, rest)
        else
          (leaf site.floor fuel name next).bind fun (first, rest) =>
            match skip false rest with
            | [] => some (first, rest)
            | h :: after =>
              if atIndicator ':' (h :: after) && canBeKey g h then
                if site.opens then
                  (nodeAt (.ofValue g.col) fuel after).bind fun (value, rest) =>
                    (fields g.col fuel rest).map fun (fs, rest) =>
                      (.record ((first, value) :: fs), rest)
                else none
              else some (first, rest)

/-- Reads an atom with the anchor before it; between an anchor and a colon it may be missing. -/
def leaf (floor : Nat) : Nat → Option String → List Glyph → Option (Node String × List Glyph)
  | 0, _, _ => none
  | fuel + 1, name, s =>
    if name.isSome && atIndicator ':' s then
      (withAnchor? name .empty).map fun node => (node, s)
    else
      (atom false floor fuel s).bind fun (node, rest) =>
        (withAnchor? name node).map fun node => (node, rest)

/-- Reads the further fields of a record whose keys stand in column `col`. -/
def fields (col : Nat) : Nat → List Glyph →
    Option (List (Node String × Node String) × List Glyph)
  | 0, _ => none
  | fuel + 1, s =>
    match skip false s with
    | [] => some ([], [])
    | g :: r =>
      if !g.leads then none
      else if atEnd (g :: r) || g.col < col then some ([], s)
      else if col < g.col then none
      else
        (anchor? (g :: r)).bind fun (name, rest) =>
          (leaf (col + 1) fuel name (skip false rest)).bind fun (k, rest) =>
            match skip false rest with
            | [] => none
            | h :: after =>
              if atIndicator ':' (h :: after) && canBeKey g h then
                (nodeAt (.ofValue col) fuel after).bind fun (value, rest) =>
                  (fields col fuel rest).map fun (fs, rest) => ((k, value) :: fs, rest)
              else none

/-- Reads the items of a list from a dash in column `col` on; no tab may separate the dash from its
item.  A list that is `closed` holds no other line in that column; any other list ends there. -/
def items (closed : Bool) (col : Nat) : Nat → List Glyph → Option (List (Node String) × List Glyph)
  | 0, _ => none
  | _ + 1, [] => none
  | fuel + 1, _ :: r =>
    if tabFollows r then none
    else (nodeAt (.ofItem col) fuel r).bind fun (item, rest) =>
      match skip false rest with
      | [] => some ([item], [])
      | g :: next =>
        if !g.leads then none
        else if atEnd (g :: next) || g.col < col then some ([item], rest)
        else if col < g.col then none
        else if atIndicator '-' (g :: next) then
          (items closed col fuel (g :: next)).map fun (xs, rest) => (item :: xs, rest)
        else if closed then none
        else some ([item], rest)

end

/-! ## 2. The whole text -/

/-- Whether nothing but closing markers is left. -/
def isClosed : Nat → List Glyph → Bool
  | 0, _ => false
  | fuel + 1, s =>
    match skip false s with
    | [] => true
    | g :: r => atMarker '.' (g :: r) && isClosed fuel (r.drop 2)

/-- Reads the node of a document, of which nothing else may be left. -/
def document (s : List Glyph) : Option (Node String) :=
  let fuel := 6 * s.length + 6
  let start := skip false s
  if atMarker '.' start then none
  else
    let content :=
      if atMarker '-' start then nodeAt { floor := 0, opens := false } fuel (start.drop 3)
      else nodeAt { floor := 0 } fuel start
    content.bind fun (node, rest) => if isClosed fuel rest then some node else none

/-- Reads a text. -/
def parse (text : String) : Option Source :=
  if text.toList.all isAdmitted then (document (glyphs text.toList)).bind Source.ofNode else none

end PluginArbiter.Yaml
