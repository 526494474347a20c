/-
# What documents of values look like

Not every document is the written form of a value.  Values are written as texts, truth values and
natural numbers, in lists and records, and the names in a record are distinct words.  This module
says so once for all kinds of values (`Document.Regular`), for those who read documents back or write
them as texts.

Main statements:
* `MimeAssociation.regular`, `PluginDescriptor.regular`, `Config.regular`, and so on: one for each
  kind of record.
-/
import PluginArbiter.Config.Basic
import PluginArbiter.Handlers

namespace PluginArbiter

/-! ## 1. Regular documents -/

namespace Document

/-- A lower-case letter or an underscore. -/
def isLetter (c : Char) : Bool := ('a' ≤ c && c ≤ 'z') || c == '_'

/-- A name of letters, of which there are at most 1024. -/
def isWord (name : String) : Bool :=
  !name.toList.isEmpty && name.toList.length ≤ 1024 && name.toList.all isLetter

mutual

/-- A document of texts, truth values and natural numbers, in which records have distinct words as
their names. -/
def Regular : Document → Prop
  | .null | .real .. => False
  | .flag _ | .text _ => True
  | .integer n => 0 ≤ n
  | .list xs => RegularItems xs
  | .record fs => (fs.map (·.1)).Nodup ∧ RegularFields fs

def RegularItems : List Document → Prop
  | [] => True
  | x :: xs => Regular x ∧ RegularItems xs

def RegularFields : List (String × Document) → Prop
  | [] => True
  | (name, x) :: fs => isWord name = true ∧ Regular x ∧ RegularFields fs

end

theorem regularItems_map {α : Type} {write : α → Document} (h : ∀ x, (write x).Regular)
    (xs : List α) : RegularItems (xs.map write) := by
  induction xs with
  | nil => trivial
  | cons x xs ih => exact ⟨h x, ih⟩

theorem regular_text (s : String) : (text s).Regular := trivial

theorem regular_flag (b : Bool) : (flag b).Regular := trivial

theorem regular_texts (xs : List String) : (texts xs).Regular := regularItems_map regular_text xs

theorem regular_natural (n : Nat) : (natural n).Regular := Int.natCast_nonneg n

end Document

/-! ## 2. Kinds of values -/

section Regular

open Document

theorem MimeAssociation.regular (a : MimeAssociation) : a.toDocument.Regular :=
  ⟨(by decide : fieldNames.Nodup), by decide, regular_text _, by decide, regular_flag _, by decide,
    regular_texts _, by decide, regular_text _, by decide, regular_texts _, by decide,
    regular_texts _, trivial⟩

theorem PluginDescriptor.regular (d : PluginDescriptor) : d.toDocument.Regular :=
  ⟨(by decide : fieldNames.Nodup), by decide, regular_text _, by decide, regular_text _, by decide,
    regular_text _, by decide, regular_text _, by decide,
    regularItems_map MimeAssociation.regular _, trivial⟩

theorem PolicyOptions.regular (o : PolicyOptions) : o.toDocument.Regular :=
  ⟨(by decide : fieldNames.Nodup), by decide, regular_flag _, by decide, regular_texts _, trivial⟩

theorem LoggingConfig.regular (c : LoggingConfig) : c.toDocument.Regular :=
  ⟨(by decide : fieldNames.Nodup), by decide, regular_text _, trivial⟩

theorem StabilityConfig.regular (c : StabilityConfig) : c.toDocument.Regular :=
  ⟨(by decide : fieldNames.Nodup), by decide, regular_natural _, by decide, regular_natural _,
    trivial⟩

theorem AvailabilityConfig.regular (c : AvailabilityConfig) : c.toDocument.Regular :=
  ⟨(by decide : fieldNames.Nodup), by decide, regularItems_map (fun _ => regular_text _) _,
    by decide, regular_texts _, trivial⟩

theorem HandlerAnswer.regular (a : HandlerAnswer) : a.toDocument.Regular :=
  ⟨(by decide : fieldNames.Nodup), by decide, regular_flag _, by decide, regular_texts _, by decide,
    regular_texts _, trivial⟩

theorem Config.regular (c : Config) : c.toDocument.Regular :=
  ⟨(by decide : fieldNames.Nodup), by decide, c.logging.regular, by decide, c.policy.regular,
    by decide, c.stability.regular, by decide, c.availability.regular, by decide,
    regularItems_map PluginDescriptor.regular _, by decide,
    regularItems_map PluginDescriptor.regular _, trivial⟩

end Regular

end PluginArbiter
