/-
# URLs

An absolute URL as its parts, the text it is written as, and the parts that decisions look at: the
host and the extension of the path's last segment.

Main statements:
* `parse` reads a text; whatever is wrong with it is a `Fault`;
* `href` writes the URL.
-/
import PluginArbiter.Url.Host
import PluginArbiter.Url.Path

namespace PluginArbiter

namespace Url

/-- What stands between the two slashes and the path.  `userinfo` is written as it stands in the
URL and is empty where there is none. -/
structure Authority where
  userinfo : String := ""
  host : Option Host := none
  port : Option Nat := none
  deriving DecidableEq, Inhabited

end Url

/-- An absolute URL. -/
structure Url where
  scheme : String
  authority : Option Url.Authority := none
  path : String := ""
  query : Option String := none
  fragment : Option String := none
  deriving DecidableEq, Inhabited

namespace Url

/-! ## 1. Writing -/

/-- The authority with its slashes. -/
def Authority.text (a : Authority) : String :=
  "//" ++ (if a.userinfo = "" then "" else a.userinfo ++ "@") ++
    ((a.host.map Host.text).getD "") ++
    (match a.port with
      | none => ""
      | some p => ":" ++ toString p)

/-- The text of a URL.  Without an authority a path in two slashes gets a dot in front, so that it
is not taken for an authority. -/
def href (u : Url) : String :=
  u.scheme ++ ":" ++
    (match u.authority with
      | some a => a.text
      | none => if u.path.startsWith "//" then "/." else "") ++
    u.path ++
    (match u.query with
      | none => ""
      | some q => "?" ++ q) ++
    (match u.fragment with
      | none => ""
      | some f => "#" ++ f)

/-- The host as text, if there is one. -/
def hostText? (u : Url) : Option String :=
  (u.authority.bind Authority.host).map Host.text

/-! ## 2. The extension of the path -/

/-- The last segment of a path that begins with a slash. -/
def lastSegment? (path : List Char) : Option (List Char) :=
  match path with
  | '/' :: r => (Text.pieces '/' r).getLast?
  | _ => none

/-- What follows the last dot of a segment, unless it is empty or there is no dot. -/
def extensionOf? (segment : List Char) : Option (List Char) :=
  match (Text.pieces '.' segment).reverse with
  | [] | [_] => none
  | last :: _ => if last.isEmpty then none else some last

/-- The extension of the last segment of the path. -/
def extension? (u : Url) : Option String :=
  ((lastSegment? u.path.toList).bind extensionOf?).map String.ofList

/-! ## 3. Schemes -/

/-- The schemes with rules of their own. -/
def isSpecial (scheme : String) : Bool :=
  ["http", "https", "ws", "wss", "ftp", "file"].contains scheme

/-- The port that a scheme uses when none is given. -/
def defaultPort? : String → Option Nat
  | "http" | "ws" => some 80
  | "https" | "wss" => some 443
  | "ftp" => some 21
  | _ => none

/-- Reads a scheme and what follows its colon. -/
def splitScheme? (cs : List Char) : Option (String × List Char) :=
  let isInner := fun c : Char => c.isAlphanum || c == '+' || c == '-' || c == '.'
  match cs, cs.dropWhile isInner with
  | first :: _, ':' :: rest =>
    if first.isAlpha then
      some (String.ofList ((cs.takeWhile isInner).map Char.toLower), rest)
    else none
  | _, _ => none

/-! ## 4. Reading -/

/-- A text without the controls and spaces around it, which do not count. -/
def trimmed (input : String) : List Char :=
  let isEdge := fun c : Char => decide (c.toNat ≤ 0x20)
  ((input.toList.dropWhile isEdge).reverse.dropWhile isEdge).reverse

/-- Whether a character ends the authority. -/
def endsAuthority (special : Bool) (c : Char) : Bool :=
  c == '/' || c == '?' || c == '#' || (special && c == '\\')

/-- What precedes and what follows the last sign `@`. -/
def splitAtLastAt? (cs : List Char) : Option (List Char × List Char) :=
  if cs.contains '@' then
    let host := (cs.reverse.takeWhile (· ≠ '@')).reverse
    some (cs.take (cs.length - host.length - 1), host)
  else none

/-- User name and password as they are written; an empty password drops its colon. -/
def userinfoText (cs : List Char) : List Char :=
  let name := cs.takeWhile (· ≠ ':')
  let password := (cs.dropWhile (· ≠ ':')).drop 1
  encode userinfoClass name ++
    (if password.isEmpty then [] else ':' :: encode userinfoClass password)

/-- The length of a host: it runs to the first colon outside brackets. -/
def hostLength (inBrackets : Bool) : List Char → Nat
  | [] => 0
  | c :: r =>
    if c = ':' ∧ inBrackets = false then 0
    else hostLength (if c = '[' then true else if c = ']' then false else inBrackets) r + 1

/-- Reads the digits of a port. -/
def portNumber (scheme : String) (digits : List Char) : Except Fault (Option Nat) :=
  if digits.isEmpty then .ok none
  else
    match Text.digitsValue? 10 digits with
    | none => .error .badPort
    | some p =>
      if 65535 < p then .error .badPort
      else .ok (if defaultPort? scheme = some p then none else some p)

/-- Reads host and port.  A backslash ends a port in every scheme; it and what follows it are
given back. -/
def hostAndPort (scheme : String) (cs : List Char) :
    Except Fault (Option Host × Option Nat × List Char) := do
  let special := isSpecial scheme
  let hostPart := cs.take (hostLength false cs)
  let portPart := cs.drop (hostLength false cs)
  if hostPart.isEmpty ∧ (special ∨ portPart.isEmpty = false) then
    throw .emptyHost
  let host ←
    if hostPart.isEmpty then pure none
    else if special then some <$> specialHost hostPart
    else some <$> opaqueHost hostPart
  let port ← portNumber scheme ((portPart.drop 1).takeWhile (· ≠ '\\'))
  return (host, port, (portPart.drop 1).dropWhile (· ≠ '\\'))

/-- Reads an authority; the slashes in front of it have been read, and `atEnd` says that nothing
follows it.  What the port leaves over is given back. -/
def readAuthority (scheme : String) (cs : List Char) (atEnd : Bool) :
    Except Fault (Authority × List Char) := do
  match splitAtLastAt? cs with
  | none =>
    let (host, port, rest) ← hostAndPort scheme cs
    return ({ host, port }, rest)
  | some ([], hostPart) =>
    if hostPart.isEmpty ∧ atEnd = false then
      throw .emptyHost
    let (host, port, rest) ← hostAndPort scheme hostPart
    return ({ host, port }, rest)
  | some (user, hostPart) =>
    let (host, port, rest) ← hostAndPort scheme hostPart
    let userinfo := String.ofList (userinfoText user)
    if userinfo ≠ "" ∧ host = none then
      throw .emptyHost
    return ({ userinfo, host, port }, rest)

/-- Separates the path from query and fragment, which are escaped. -/
def splitTail (special : Bool) (cs : List Char) : List Char × Option String × Option String :=
  let isMark := fun c : Char => c == '?' || c == '#'
  let path := cs.takeWhile fun c => !isMark c
  let rest := cs.dropWhile fun c => !isMark c
  let fragmentText := fun r : List Char => String.ofList (encode fragmentClass r)
  match rest with
  | '?' :: r =>
    let query := r.takeWhile (· ≠ '#')
    let fragment :=
      match r.dropWhile (· ≠ '#') with
      | [] => none
      | _ :: f => some (fragmentText f)
    (path, some (String.ofList (encode (queryClass special) query)), fragment)
  | '#' :: f => (path, none, some (fragmentText f))
  | _ => (path, none, none)

/-- Reads what follows `scheme:` and its slashes where there is an authority. -/
def readHierarchical (scheme : String) (cs : List Char) : Except Fault Url := do
  let special := isSpecial scheme
  let before := cs.takeWhile fun c => !endsAuthority special c
  let after := cs.dropWhile fun c => !endsAuthority special c
  let (authority, left) ← readAuthority scheme before after.isEmpty
  let (path, query, fragment) := splitTail special (left ++ after)
  let written := if special then specialPath path else plainPath path
  return { scheme, authority := some authority, path := String.ofList written, query, fragment }

/-- Reads the host of a file; the host of this machine is not written. -/
def fileHost (cs : List Char) : Except Fault (Option Host) :=
  if cs.isEmpty then .ok none
  else
    match specialHost cs with
    | .error e => .error e
    | .ok host => .ok (if host = .name "localhost" then none else some host)

/-- The URL of a file, given what follows its host and the slash behind it.  In front of a drive
there is no host. -/
def fileUrl (host : Option Host) (cs : List Char) : Url :=
  let isMark := fun c : Char => c == '?' || c == '#'
  let path := FilePath.read (cs.takeWhile fun c => !isMark c)
  let (_, query, fragment) := splitTail true (withoutBreaks (cs.dropWhile fun c => !isMark c))
  { scheme := "file"
    authority := some { host := if path.onDrive then none else host }
    path := String.ofList path.text
    query, fragment }

/-- What follows a slash of either kind. -/
def afterSlash? (cs : List Char) : Option (List Char) :=
  match cs.dropWhile isBreak with
  | c :: r => if c == '/' || c == '\\' then some r else none
  | [] => none

/-- Reads what follows `file:`, its breaks still in it.  Two slashes announce a host, but the name
of a drive is none.  Where no host is kept, a slash behind it belongs to the path. -/
def readFile (cs : List Char) : Except Fault Url := do
  match afterSlash? cs, (afterSlash? cs).bind afterSlash? with
  | _, some r =>
    let hostPart := r.takeWhile fun c => !endsAuthority true c
    let rest := r.dropWhile fun c => !endsAuthority true c
    if isDrive (withoutBreaks hostPart) then return fileUrl none r
    match ← fileHost (withoutBreaks hostPart) with
    | none => return fileUrl none rest
    | some host => return fileUrl (some host) ((afterSlash? rest).getD rest)
  | some r, none => return fileUrl none r
  | none, none => return fileUrl none cs

/-- Reads what follows the colon of a non-special scheme. -/
def readPlain (scheme : String) (cs : List Char) : Except Fault Url := do
  match cs with
  | '/' :: '/' :: r => readHierarchical scheme r
  | '/' :: r =>
    let (path, query, fragment) := splitTail false r
    return { scheme, path := String.ofList (rootedPath path), query, fragment }
  | r =>
    let (path, query, fragment) := splitTail false r
    return { scheme, path := String.ofList (encode controlClass path), query, fragment }

/-- Reads an absolute URL.  Line breaks and tabs within it do not count. -/
def parse (input : String) : Except Fault Url :=
  match splitScheme? (withoutBreaks (trimmed input)) with
  | none => .error .relative
  | some (scheme, rest) =>
    if scheme = "file" then readFile (((trimmed input).dropWhile (· ≠ ':')).drop 1)
    else if isSpecial scheme then
      readHierarchical scheme (rest.dropWhile fun c => c == '/' || c == '\\')
    else readPlain scheme rest

end Url

end PluginArbiter
