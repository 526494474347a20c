/-
# Built-in handlers

Handlers that are part of the browser, asked by exact MIME type.  The first handler that declares
the type answers with the parameters of its association.
-/
import PluginArbiter.Plugin.Descriptor

namespace PluginArbiter

/-- Whether a built-in handler takes a MIME type, and the parameters it wants. -/
structure HandlerAnswer where
  available : Bool := false
  paramNames : List String := []
  paramValues : List String := []
  deriving DecidableEq, Inhabited

namespace HandlerAnswer

/-- The names of the fields, in order. -/
def fieldNames : List String := ["available", "extra_param_names", "extra_param_values"]

/-- The answer as a record of all its fields. -/
def toDocument (a : HandlerAnswer) : Document :=
  .record [("available", .flag a.available), ("extra_param_names", .texts a.paramNames),
    ("extra_param_values", .texts a.paramValues)]

/-- Reads an answer; every field has to be given. -/
def read? {α : Type} [Readable α] (source : α) : Option HandlerAnswer := do
  let fields ← Readable.record? fieldNames source
  let available ← Readable.required fields "available" Readable.flag?
  let paramNames ← Readable.required fields "extra_param_names" Readable.texts?
  let paramValues ← Readable.required fields "extra_param_values" Readable.texts?
  return { available, paramNames, paramValues }

end HandlerAnswer

/-- The registered handlers, in the order of registration. -/
structure Handlers where
  descriptors : List PluginDescriptor := []
  deriving DecidableEq, Inhabited

namespace Handlers

/-- Registers one more handler, after all others. -/
def register (h : Handlers) (d : PluginDescriptor) : Handlers :=
  { descriptors := h.descriptors ++ [d] }

/-- The answer for a MIME type. -/
def answerFor (h : Handlers) (mime : String) : HandlerAnswer :=
  match h.descriptors.findSome? fun d => d.findExact? mime with
  | none => {}
  | some a => { available := true, paramNames := a.paramNames, paramValues := a.paramValues }

end Handlers

end PluginArbiter
