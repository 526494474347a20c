/-
# Levels of logging

A level is given by name, ignoring ASCII case, or by a number from 1 to 5; anything else means the
usual level.
-/
import PluginArbiter.Text.AsciiCase
import PluginArbiter.Text.Blank
import PluginArbiter.Text.Digits

namespace PluginArbiter

/-- How much is logged. -/
inductive LogLevel
  | trace
  | debug
  | info
  | warn
  | error
  deriving DecidableEq, Inhabited

namespace LogLevel

/-- The name of a level. -/
def name : LogLevel → String
  | trace => "TRACE"
  | debug => "DEBUG"
  | info => "INFO"
  | warn => "WARN"
  | error => "ERROR"

/-- All levels, the one that logs least first. -/
def all : List LogLevel := [error, warn, info, debug, trace]

/-- The value of decimal digits, which a plus sign may precede. -/
def number? (cs : List Char) : Option Nat :=
  let digits :=
    match cs with
    | '+' :: r => r
    | r => r
  if digits.isEmpty then none else Text.digitsValue? 10 digits

/-- The level that a text without blanks around it stands for. -/
def ofText? (s : String) : Option LogLevel :=
  match number? s.toList with
  | some n => if n = 0 then none else all[n - 1]?
  | none => all.find? fun l => Text.sameIgnoringCase l.name s

/-- The level that a configured text stands for. -/
def parse (s : String) : LogLevel := (ofText? (Text.trim s)).getD info

/-- A level is read by its name. -/
theorem ofText?_name (l : LogLevel) : ofText? l.name = some l := by cases l <;> rfl

end LogLevel

end PluginArbiter
