/-
# Documents

The structured value that every part of the library is written as and read from: truth values,
numbers, texts, lists and records.  A record keeps its fields in the order in which they were
written.

`Readable` says how the shapes of a value are read off any kind of source, so that one set of
reading rules serves documents and configuration files alike.
-/
namespace PluginArbiter

/-- A structured value.  `real` is a number written with a fraction: `mantissa / 10 ^ places`. -/
inductive Document
  | null
  | flag (value : Bool)
  | integer (value : Int)
  | real (mantissa : Int) (places : Nat)
  | text (value : String)
  | list (items : List Document)
  | record (fields : List (String × Document))
  deriving Inhabited

/-! ## 1. Sources that can be read -/

/-- The readings that a source offers.  `record?` takes the names that the reader knows and gives
the fields that carry one of them, each name at most once. -/
class Readable (α : Type) where
  /-- Reads a text. -/
  text? : α → Option String
  /-- Reads a truth value. -/
  flag? : α → Option Bool
  /-- Reads a natural number of any size. -/
  natural? : α → Option Nat
  /-- Reads the items of a list. -/
  items? : α → Option (List α)
  /-- Reads the fields of a record that have one of the given names. -/
  record? : List String → α → Option (List (String × α))
  /-- Reads the name of one of several choices. -/
  choice? : α → Option String

namespace Readable

variable {α β : Type} [Readable α]

/-- Reads a list, each item by the same rule. -/
def list? (item : α → Option β) (source : α) : Option (List β) :=
  (items? source).bind fun xs => xs.mapM item

/-- Reads a list of texts. -/
def texts? (source : α) : Option (List String) := list? text? source

/-- Reads a number of 32 bits. -/
def word32? (source : α) : Option UInt32 :=
  (natural? source).bind fun n => if n < UInt32.size then some (UInt32.ofNat n) else none

/-- Reads a number of 64 bits. -/
def word64? (source : α) : Option UInt64 :=
  (natural? source).bind fun n => if n < UInt64.size then some (UInt64.ofNat n) else none

/-- Reads a field that has to be there. -/
def required (fields : List (String × α)) (name : String) (read : α → Option β) : Option β :=
  (fields.lookup name).bind read

/-- Reads a field, or takes the default where the field is missing. -/
def optional (fields : List (String × α)) (name : String) (read : α → Option β) (default : β) :
    Option β :=
  match fields.lookup name with
  | none => some default
  | some source => read source

end Readable

/-! ## 2. Reading documents -/

namespace Document

/-- The fields with one of the given names, unless one of these names occurs twice. -/
def knownFields {α : Type} (names : List String) (fields : List (String × α)) :
    Option (List (String × α)) :=
  let known := fields.filter fun f => names.contains f.1
  if names.all fun n => (known.map (·.1)).count n ≤ 1 then some known else none

/-- Numbers are not coerced and `null` is nothing.  A record may also be a list of its fields in
order, and a choice may also be a record of one field whose value is `null`. -/
instance : Readable Document where
  text?
    | .text s => some s
    | _ => none
  flag?
    | .flag b => some b
    | _ => none
  natural?
    | .integer (.ofNat n) => some n
    | _ => none
  items?
    | .list xs => some xs
    | _ => none
  record? names
    | .record fields => knownFields names fields
    | .list xs => if xs.length ≤ names.length then some (names.zip xs) else none
    | _ => none
  choice?
    | .text s => some s
    | .record [(name, .null)] => some name
    | _ => none

/-- A list of texts. -/
def texts (xs : List String) : Document := .list (xs.map .text)

/-- A natural number. -/
def natural (n : Nat) : Document := .integer (.ofNat n)

end Document

end PluginArbiter
