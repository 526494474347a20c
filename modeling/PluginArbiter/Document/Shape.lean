/-
# Shapes

What a reader looks at in a value: a scalar, the items of a list, or the fields of a record that it
knows by name.  Each kind of record has one shape, from which the names of its fields are taken.
-/
namespace PluginArbiter

/-- What is looked at in a value. -/
inductive Shape
  | scalar
  | list (item : Shape)
  | record (fields : List (String × Shape))
  deriving Inhabited

namespace Shape

/-- A list of scalars. -/
def scalars : Shape := .list .scalar

/-- The names of the fields of a record, in order. -/
def names : Shape → List String
  | .record fields => fields.map (·.1)
  | _ => []

end Shape

end PluginArbiter
