/-
# Writing documents

A document by lines and indentation.  The fields of a record stand in one column; the dashes of a
list stand in the column of its key, and what belongs to an item two columns further right.

Main statements:
* `items_begun`, `fields_begun`: how an item and a field are written on a line that has begun.
-/
import PluginArbiter.Document.Basic
import PluginArbiter.Yaml.Style

namespace PluginArbiter.Yaml.Printer

/-- The space before what stands in a column, unless its line has begun. -/
def margin (col : Nat) (begun : Bool) : List Char := if begun then [] else Style.spaces col

/-- An integer in decimal digits. -/
def integer : Int → List Char
  | .ofNat n => Text.decimal n
  | .negSucc n => '-' :: Text.decimal (n + 1)

/-- A number with a fraction, as an integer and an exponent. -/
def real (mantissa : Int) (places : Nat) : List Char :=
  integer mantissa ++ ['e', '-'] ++ Text.decimal places

mutual

/-- What stands in a column of its own: at the start of the text or after a dash. -/
def inColumn (col : Nat) (begun : Bool) : Document → List Char
  | .null => "null\n".toList
  | .flag b => (if b then "true\n" else "false\n").toList
  | .integer n => integer n ++ ['\n']
  | .real m p => real m p ++ ['\n']
  | .text s => Style.writeLine col s
  | .list [] => "[]\n".toList
  | .list (x :: xs) => items col begun (x :: xs)
  | .record [] => "\x7b\x7d\n".toList
  | .record (f :: fs) => fields col begun (f :: fs)

/-- What stands behind the colon of a key in a column. -/
def afterKey (col : Nat) : Document → List Char
  | .list (x :: xs) => '\n' :: items col false (x :: xs)
  | .record (f :: fs) => '\n' :: fields (col + 2) false (f :: fs)
  | .null => " null\n".toList
  | .flag b => (if b then " true\n" else " false\n").toList
  | .integer n => ' ' :: integer n ++ ['\n']
  | .real m p => ' ' :: real m p ++ ['\n']
  | .text s => ' ' :: Style.writeLine (col + 2) s
  | .list [] => " []\n".toList
  | .record [] => " \x7b\x7d\n".toList

/-- The items of a list, each after a dash. -/
def items (col : Nat) (begun : Bool) : List Document → List Char
  | [] => []
  | x :: xs =>
    margin col begun ++ '-' :: ' ' :: inColumn (col + 2) true x ++ items col false xs

/-- The fields of a record, each on lines of its own. -/
def fields (col : Nat) (begun : Bool) : List (String × Document) → List Char
  | [] => []
  | (name, x) :: fs =>
    margin col begun ++ name.toList ++ ':' :: afterKey col x ++ fields col false fs

end

/-! ### Equations -/

section Equations

variable {col : Nat} {begun : Bool} {name : String} {x : Document} {xs : List Document}
  {f : String × Document} {fs : List (String × Document)}

theorem inColumn_list :
    inColumn col begun (.list (x :: xs)) = items col begun (x :: xs) := rfl

theorem inColumn_record :
    inColumn col begun (.record (f :: fs)) = fields col begun (f :: fs) := rfl

theorem afterKey_list :
    afterKey col (.list (x :: xs)) = '\n' :: items col false (x :: xs) := rfl

theorem afterKey_record :
    afterKey col (.record (f :: fs)) = '\n' :: fields (col + 2) false (f :: fs) := rfl

theorem items_nil : items col begun [] = [] := rfl

theorem items_cons :
    items col begun (x :: xs) =
      margin col begun ++ '-' :: ' ' :: inColumn (col + 2) true x ++ items col false xs := rfl

theorem fields_nil : fields col begun [] = [] := rfl

theorem fields_cons :
    fields col begun ((name, x) :: fs) =
      margin col begun ++ name.toList ++ ':' :: afterKey col x ++ fields col false fs := rfl

/-- On a line that has begun an item starts with its dash. -/
theorem items_begun :
    items col true (x :: xs) =
      '-' :: (' ' :: inColumn (col + 2) true x ++ items col false xs) := rfl

/-- On a line that has begun a field starts with its name. -/
theorem fields_begun :
    fields col true ((name, x) :: fs) =
      name.toList ++ ':' :: (afterKey col x ++ fields col false fs) := by
  rw [fields_cons, List.append_assoc, List.cons_append]
  rfl

theorem items_indented :
    items col false (x :: xs) = Style.spaces col ++ items col true (x :: xs) := by
  rw [items_cons, List.append_assoc]
  rfl

theorem fields_indented :
    fields col false (f :: fs) = Style.spaces col ++ fields col true (f :: fs) := by
  obtain ⟨name, x⟩ := f
  rw [fields_cons, List.append_assoc, List.append_assoc, fields_begun]
  rfl

end Equations

end PluginArbiter.Yaml.Printer

namespace PluginArbiter.Yaml

/-- Writes a document. -/
def write (d : Document) : String := String.ofList (Printer.inColumn 0 false d)

end PluginArbiter.Yaml
