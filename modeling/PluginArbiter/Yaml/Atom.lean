/-
# Atoms

Nodes that are written in one piece: references, scalars, and lists and records in brackets.  An
atom may be the key of a record when it lies on one line with the colon after it, and at most 1024
octets lie between the start of the one and the other.
-/
import PluginArbiter.Yaml.Node
import PluginArbiter.Yaml.Plain
import PluginArbiter.Yaml.Quoted

namespace PluginArbiter.Yaml

/-! ## 1. Names of anchors -/

/-- A character of the name of an anchor. -/
def isNameChar (c : Char) : Bool := c.isAlphanum || c == '_' || c == '-'

/-- The characters that may follow the name of an anchor besides a blank. -/
def nameFollowers : List Char := ['?', ':', ',', ']', '\x7d', '%', '@', '\x60']

/-- Reads the name of an anchor or reference after its indicator. -/
def labelName? (s : List Glyph) : Option (String × List Glyph) :=
  let name := (s.takeWhile fun g => isNameChar g.char).map Glyph.char
  let rest := s.dropWhile fun g => isNameChar g.char
  if name.isEmpty then none
  else if atSpace rest || rest.head?.any (fun g => nameFollowers.contains g.char) then
    some (String.ofList name, rest)
  else none

/-- Puts an anchor on a node, where there is one to put; a reference cannot carry it. -/
def withAnchor? : Option String → Node String → Option (Node String)
  | none, node => some node
  | some name, node => if node.isLabelled then none else some (.anchored name node)

/-- Whether a key that begins at `start` may have its colon at `colon`. -/
def canBeKey (start colon : Glyph) : Bool :=
  start.line == colon.line && colon.offset ≤ start.offset + 1024

/-! ## 2. Lists and records in brackets -/

/-- A member in brackets: a node, and the node after its colon where there is a colon. -/
abbrev Member := Node String × Option (Node String)

/-- A member of a list; one with a colon is a record of one field. -/
def Member.toItem : Member → Node String
  | (node, none) => node
  | (key, some value) => .record [(key, value)]

/-- A member of a record; one without a colon has nothing as its value. -/
def Member.toField : Member → Node String × Node String
  | (key, value) => (key, value.getD .empty)

/-- The characters that end a member. -/
def isMemberEnd (c : Char) : Bool := c == ',' || c == ']' || c == '\x7d'

/-- A scalar with its text, and what is left. -/
def scalarOf (plain : Bool) : List Char × List Glyph → Node String × List Glyph
  | (cs, rest) => (.scalar plain (String.ofList cs), rest)

mutual

/-- Reads an atom.  `floor` is the least column for the lines that go on with a plain scalar. -/
def atom (inBrackets : Bool) (floor : Nat) : Nat → List Glyph → Option (Node String × List Glyph)
  | 0, _ => none
  | _ + 1, [] => none
  | fuel + 1, g :: r =>
    if atEnd (g :: r) then none
    else if g.char == '*' then (labelName? r).map fun (name, rest) => (.reference name, rest)
    else if g.char == '\x22' then (DoubleQuoted.read r).map (scalarOf false)
    else if g.char == '\x27' then (SingleQuoted.read r).map (scalarOf false)
    else if g.char == '[' then
      (members floor ']' fuel r).map fun (ms, rest) => (.list (ms.map Member.toItem), rest)
    else if g.char == '\x7b' then
      (members floor '\x7d' fuel r).map fun (ms, rest) => (.record (ms.map Member.toField), rest)
    else (Plain.read inBrackets floor (g :: r)).map (scalarOf true)

/-- Reads a node in brackets, with its anchor if it has one. -/
def bracketed (floor : Nat) : Nat → List Glyph → Option (Node String × List Glyph)
  | 0, _ => none
  | _ + 1, [] => none
  | fuel + 1, g :: r =>
    if g.char == '&' then
      (labelName? r).bind fun (name, rest) =>
        let next := skip true rest
        if next.head?.any fun h => h.char == ':' || isMemberEnd h.char then
          some (.anchored name .empty, next)
        else
          (atom true floor fuel next).bind fun (node, rest) =>
            (withAnchor? (some name) node).map fun node => (node, rest)
    else atom true floor fuel (g :: r)

/-- Reads a member, which begins here. -/
def member (floor : Nat) : Nat → List Glyph → Option (Member × List Glyph)
  | 0, _ => none
  | _ + 1, [] => none
  | fuel + 1, g :: r =>
    (bracketed floor fuel (g :: r)).bind fun (node, rest) =>
      match skip true rest with
      | [] => some ((node, none), [])
      | h :: after =>
        if h.char ≠ ':' then some ((node, none), h :: after)
        else if !canBeKey g h then none
        else
          let next := skip true after
          if next.head?.any fun h => isMemberEnd h.char then some ((node, some .empty), next)
          else (bracketed floor fuel next).map fun (value, rest) => ((node, some value), rest)

/-- Reads the members up to a closing bracket; a comma may stand before it. -/
def members (floor : Nat) (close : Char) : Nat → List Glyph →
    Option (List Member × List Glyph)
  | 0, _ => none
  | fuel + 1, s =>
    match skip true s with
    | [] => none
    | g :: r =>
      if g.char == close then some ([], r)
      else
        (member floor fuel (g :: r)).bind fun (m, rest) =>
          match skip true rest with
          | [] => none
          | h :: r =>
            if h.char == ',' then
              (members floor close fuel r).map fun (ms, rest) => (m :: ms, rest)
            else if h.char == close then some ([m], r)
            else none

end

end PluginArbiter.Yaml
