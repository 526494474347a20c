/-
# Paths

The path of a hierarchical URL: its segments are escaped one by one, a segment that is a dot is
left out, and one that is two dots takes its predecessor with it.

The path of a file may start at a drive, whose name is then written with a colon.

Main statements:
* `resolveDots_eq_self`: segments without dots stay as they are.
-/
import PluginArbiter.Text.Pieces
import PluginArbiter.Url.Encoding

namespace PluginArbiter.Url

/-! ## 1. Special segments -/

/-- The spellings of the segment that stands for the same place. -/
def isDot (segment : List Char) : Bool :=
  String.ofList (segment.map Char.toLower) ∈ [".", "%2e"]

/-- The spellings of the segment that stands for the place above. -/
def isDoubleDot (segment : List Char) : Bool :=
  String.ofList (segment.map Char.toLower) ∈ ["..", ".%2e", "%2e.", "%2e%2e"]

/-- The name of a drive. -/
def isDrive : List Char → Bool
  | [letter, mark] => letter.isAlpha && (mark == ':' || mark == '|')
  | _ => false

/-- A segment that is the name of a drive, or continues one behind a backslash. -/
def startsAtDrive (segment : List Char) : Bool := isDrive (segment.takeWhile (· ≠ '\\'))

/-! ## 2. Resolving dots -/

/-- Takes away the last segment (the segments are in reverse), but not one at a drive. -/
def dropLastSegment : List (List Char) → List (List Char)
  | [] => []
  | s :: above => if startsAtDrive s then s :: above else above

/-- One more segment behind those so far, which are in reverse.  A dot at the end leaves an empty
segment, so that the path ends in a slash. -/
def addSegment (above : List (List Char)) (s : List Char) (isLast : Bool) : List (List Char) :=
  let slash := if isLast then [[]] else []
  if isDoubleDot s then slash ++ dropLastSegment above
  else if isDot s then slash ++ above
  else s :: above

/-- Resolves dots, the segments so far being in reverse. -/
def resolveDotsFrom (above : List (List Char)) : List (List Char) → List (List Char)
  | [] => above.reverse
  | s :: rest => resolveDotsFrom (addSegment above s rest.isEmpty) rest

/-- The segments of a path with dots resolved. -/
def resolveDots (segments : List (List Char)) : List (List Char) := resolveDotsFrom [] segments

theorem addSegment_eq_cons {s : List Char} (above : List (List Char)) (isLast : Bool)
    (h : isDot s = false ∧ isDoubleDot s = false) : addSegment above s isLast = s :: above := by
  simp [addSegment, h.1, h.2]

theorem resolveDotsFrom_eq_append {segments : List (List Char)} (above : List (List Char))
    (h : ∀ s ∈ segments, isDot s = false ∧ isDoubleDot s = false) :
    resolveDotsFrom above segments = above.reverse ++ segments := by
  induction segments generalizing above with
  | nil => simp [resolveDotsFrom]
  | cons s rest ih =>
    rw [resolveDotsFrom, addSegment_eq_cons above _ (h s (by simp)),
      ih (s :: above) fun t ht => h t (by simp [ht])]
    simp

/-- Segments without dots stay as they are. -/
theorem resolveDots_eq_self {segments : List (List Char)}
    (h : ∀ s ∈ segments, isDot s = false ∧ isDoubleDot s = false) :
    resolveDots segments = segments := by
  rw [resolveDots]
  simpa using resolveDotsFrom_eq_append [] h

/-! ## 3. Writing the path -/

/-- What follows the leading slash of a path, written with a slash in front. -/
def rootedPath (afterSlash : List Char) : List Char :=
  let segments := (Text.pieces '/' afterSlash).map (encode pathClass)
  '/' :: Text.join '/' (resolveDots segments)

/-- The path of a special scheme: a backslash counts as a slash, and there is always a slash in
front. -/
def specialPath (cs : List Char) : List Char :=
  match cs.map fun c => if c = '\\' then '/' else c with
  | '/' :: r => rootedPath r
  | r => rootedPath r

/-- The path of a non-special scheme with an authority; it may be empty. -/
def plainPath (cs : List Char) : List Char :=
  match cs with
  | [] => []
  | '/' :: r => rootedPath r
  | r => rootedPath r

/-! ## 4. The path of a file -/

/-- A line break or a tab, which counts for nothing in a URL. -/
def isBreak (c : Char) : Bool := c == '\t' || c == '\n' || c == '\r'

/-- A text without its breaks. -/
def withoutBreaks (cs : List Char) : List Char := cs.filter fun c => !isBreak c

/-- The path of a file under way: its segments, the last one first, and whether it starts at a
drive. -/
structure FilePath where
  above : List (List Char) := []
  onDrive : Bool := false

/-- The name of a drive as it is written. -/
def driveName? (segment : List Char) : Option (List Char) :=
  match segment with
  | letter :: _ => if isDrive segment then some [letter, ':'] else none
  | [] => none

/-- A segment whose breaks are still in it, cut behind the name of a drive: a break there counts
as a slash if something follows. -/
def cutBehindDrive? (raw : List Char) : Option (List Char × List Char) :=
  match withoutBreaks raw, (raw.dropWhile (· ≠ ':')).drop 1 with
  | letter :: ':' :: c :: rest, behind :: _ =>
    if letter.isAlpha && isBreak behind then some ([letter, ':'], c :: rest) else none
  | _, _ => none

/-- One more segment, its breaks still in it.  A drive counts only in front. -/
def FilePath.add (p : FilePath) (raw : List Char) (isLast : Bool) : FilePath :=
  let segment := encode pathClass (withoutBreaks raw)
  let further := { p with above := addSegment p.above segment isLast }
  if p.above.isEmpty then
    match driveName? segment, cutBehindDrive? raw with
    | some drive, _ => { above := [drive], onDrive := true }
    | none, some (drive, rest) => { p with above := [encode pathClass rest, drive] }
    | none, none => further
  else further

/-- Reads further segments. -/
def FilePath.addAll (p : FilePath) : List (List Char) → FilePath
  | [] => p
  | s :: rest => (p.add s rest.isEmpty).addAll rest

/-- Reads the path of a file; a backslash counts as a slash. -/
def FilePath.read (cs : List Char) : FilePath :=
  FilePath.addAll {} (Text.pieces '/' (cs.map fun c => if c = '\\' then '/' else c))

/-- The path as it is written: slashes in front collapse into one. -/
def FilePath.text (p : FilePath) : List Char :=
  '/' :: (Text.join '/' p.above.reverse).dropWhile (· == '/')

end PluginArbiter.Url
