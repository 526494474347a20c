/-
# Hosts

The host of a URL as it is written and compared.  In a special scheme it is a domain name in ASCII
or a numeric address; in any other scheme it is kept as it was given, with controls escaped.
-/
import PluginArbiter.Text.AsciiCase
import PluginArbiter.Url.Address
import PluginArbiter.Url.Label.Basic

namespace PluginArbiter.Url

/-- A host. -/
inductive Host
  | name (text : String)
  | v4 (address : Nat)
  | v6 (pieces : List Nat)
  deriving DecidableEq, Inhabited

/-- The host as it stands in a URL. -/
def Host.text : Host → String
  | name text => text
  | v4 address => String.ofList (v4Text address)
  | v6 pieces => String.ofList (['['] ++ v6Text pieces ++ [']'])

/-! ## 1. Domain names -/

/-- Characters that no domain name may hold. -/
def forbiddenInName (c : Char) : Bool :=
  c.toNat ≤ 0x20 || c.toNat == 0x7F ||
    ['#', '%', '/', ':', '<', '>', '?', '@', '[', '\\', ']', '^', '|'].contains c

/-- Characters that no host of a non-special scheme may hold. -/
def forbiddenInOpaque (c : Char) : Bool :=
  ['\x00', '\t', '\n', '\r', ' ', '#', '/', ':', '<', '>', '?', '@', '[', '\\', ']', '^',
    '|'].contains c

/-- A name of octets in lower-case ASCII, unless a character may not be written, a label is not sound,
directions mix, or it holds what no name may hold. -/
def asciiName? (octets : List UInt8) : Option (List Char) := do
  let text ← String.fromUTF8? (ByteArray.mk octets.toArray)
  let labels ← (Text.pieces '.' (← Label.prepared? text.toList)).mapM Label.shown?
  let name := Text.join '.' (labels.map Label.written)
  if Label.keepDirections labels ∧ ¬ name.any forbiddenInName then some name else none

/-! ## 2. Reading hosts -/

/-- Reads an address in brackets, the opening one having been read. -/
def bracketed (cs : List Char) : Except Fault Host :=
  if cs.getLast? = some ']' then
    match v6Address? cs.dropLast with
    | some pieces => .ok (.v6 pieces)
    | none => .error .badV6
  else .error .badV6

/-- Reads the host of a special scheme: escapes are undone, the name is brought to lower-case
ASCII, and a name that ends in a number is an address. -/
def specialHost (cs : List Char) : Except Fault Host :=
  match cs with
  | '[' :: r => bracketed r
  | _ =>
    match asciiName? (decode cs) with
    | none => .error .badName
    | some [] => .error .emptyHost
    | some name =>
      if endsInNumber name then
        match v4Address? name with
        | some address => .ok (.v4 address)
        | none => .error .badV4
      else .ok (.name (String.ofList name))

/-- Reads the host of a non-special scheme. -/
def opaqueHost (cs : List Char) : Except Fault Host :=
  match cs with
  | '[' :: r => bracketed r
  | _ =>
    if cs.any forbiddenInOpaque then .error .badHostCharacter
    else .ok (.name (String.ofList (encode controlClass cs)))

end PluginArbiter.Url
