/-
# Identities

The names by which plugins, processes and frames are told apart.
-/
import PluginArbiter.Document.Basic

namespace PluginArbiter

/-- The identity of a plugin, for instance the path of its library. -/
structure PluginId where
  text : String
  deriving DecidableEq, Inhabited

/-- The number of a process. -/
structure ProcessId where
  number : UInt32
  deriving DecidableEq, Inhabited

/-- The number of a frame. -/
structure FrameId where
  number : UInt32
  deriving DecidableEq, Inhabited

namespace PluginId

/-- An identity is written as its text. -/
def toDocument (id : PluginId) : Document := .text id.text

/-- Reads an identity. -/
def read? {α : Type} [Readable α] (source : α) : Option PluginId :=
  (Readable.text? source).map PluginId.mk

end PluginId

namespace ProcessId

/-- A process is written as its number. -/
def toDocument (id : ProcessId) : Document := .natural id.number.toNat

/-- Reads a process number. -/
def read? {α : Type} [Readable α] (source : α) : Option ProcessId :=
  (Readable.word32? source).map ProcessId.mk

/-- The number in decimal digits. -/
def display (id : ProcessId) : String := toString id.number.toNat

end ProcessId

namespace FrameId

/-- A frame is written as its number. -/
def toDocument (id : FrameId) : Document := .natural id.number.toNat

/-- Reads a frame number. -/
def read? {α : Type} [Readable α] (source : α) : Option FrameId :=
  (Readable.word32? source).map FrameId.mk

/-- The number in decimal digits. -/
def display (id : FrameId) : String := toString id.number.toNat

end FrameId

end PluginArbiter
