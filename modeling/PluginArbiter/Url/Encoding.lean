/-
# Percent-encoding

The classes of characters that a part of a URL writes as escaped octets, and the escaping itself.

Main statements:
* `encode_eq_self`: a text without characters of the class stays as it is.
-/
import PluginArbiter.Text.Digits

namespace PluginArbiter.Url

/-! ## 1. Classes of characters to escape -/

/-- Controls and everything beyond ASCII; these are escaped in every part. -/
def controlClass (c : Char) : Bool := c.toNat < 0x20 || 0x7F ≤ c.toNat

/-- The class of a fragment. -/
def fragmentClass (c : Char) : Bool :=
  controlClass c || [' ', '\x22', '<', '>', '\x60'].contains c

/-- The class of a path. -/
def pathClass (c : Char) : Bool := fragmentClass c || ['#', '?', '\x7b', '\x7d'].contains c

/-- The class of a user name or password. -/
def userinfoClass (c : Char) : Bool :=
  pathClass c || ['/', ':', ';', '=', '@', '[', '\\', ']', '^', '|'].contains c

/-- The class of a query; a special scheme escapes the apostrophe as well. -/
def queryClass (special : Bool) (c : Char) : Bool :=
  controlClass c || [' ', '\x22', '#', '<', '>'].contains c || (special && c == '\x27')

/-! ## 2. Escaping -/

/-- An octet as a percent sign and two digits. -/
def escapeOctet (b : UInt8) : List Char :=
  ['%', Text.digit true (b.toNat / 16), Text.digit true (b.toNat % 16)]

/-- A character of the class as its escaped octets, any other as itself. -/
def encodeChar (escaped : Char → Bool) (c : Char) : List Char :=
  if escaped c then (String.utf8EncodeChar c).flatMap escapeOctet else [c]

/-- A text with the characters of the class escaped. -/
def encode (escaped : Char → Bool) (cs : List Char) : List Char :=
  cs.flatMap (encodeChar escaped)

/-- The octets that a text stands for, with escapes undone.  A percent sign that starts no escape
stands for itself. -/
def decode : List Char → List UInt8
  | '%' :: a :: b :: r =>
    match Text.digitValue? a, Text.digitValue? b with
    | some x, some y => UInt8.ofNat (x * 16 + y) :: decode r
    | _, _ => 0x25 :: decode (a :: b :: r)
  | c :: r => String.utf8EncodeChar c ++ decode r
  | [] => []

/-! ## 3. Laws -/

/-- A text without characters of the class stays as it is. -/
theorem encode_eq_self {escaped : Char → Bool} {cs : List Char}
    (h : ∀ c ∈ cs, escaped c = false) : encode escaped cs = cs := by
  induction cs with
  | nil => rfl
  | cons c r ih =>
    have hc : escaped c = false := h c (by simp)
    have hr : encode escaped r = r := ih fun d hd => h d (by simp [hd])
    simp only [encode] at hr
    simp [encode, encodeChar, hc, hr]

end PluginArbiter.Url
