/-!
Percent escapes.

Each part of a URL has a set of characters that may not stand in it as they are.
Such a character is written as its UTF-8 bytes, each a percent sign with two
hexadecimal digits. An escape that is already there is kept: the percent sign is
in none of the sets.
-/

namespace Telemetry.Url

/-- Control characters and everything beyond ASCII, which no part may hold. -/
def isNeverPlain (c : Char) : Bool := c.toNat < 0x20 || 0x7e < c.toNat

def escapedInFragment (c : Char) : Bool :=
  isNeverPlain c || c = ' ' || c = '"' || c = '<' || c = '>' || c = '\x60'

/-- Characters that are escaped in the segments of a path. -/
def escapedInPath (c : Char) : Bool :=
  escapedInFragment c || c = '#' || c = '?' || c = '{' || c = '}'

def escapedInUserinfo (c : Char) : Bool :=
  escapedInPath c || c = '/' || c = ':' || c = ';' || c = '=' || c = '@' || c = '[' ||
    c = '\\' || c = ']' || c = '^' || c = '|'

/-- Characters that are escaped in a query; the special schemes add the apostrophe. -/
def escapedInQuery (special : Bool) (c : Char) : Bool :=
  isNeverPlain c || c = ' ' || c = '"' || c = '#' || c = '<' || c = '>' || (special && c = '\'')

/-- A byte as a percent sign and two digits. -/
def percentByte (b : UInt8) : List Char :=
  ['%', (Nat.digitChar (b.toNat / 16)).toUpper, (Nat.digitChar (b.toNat % 16)).toUpper]

/-- A text with the characters of a set escaped. -/
def percentEncode (escaped : Char → Bool) (cs : List Char) : List Char :=
  cs.flatMap fun c =>
    if escaped c then (String.utf8EncodeChar c).flatMap percentByte else [c]

/-- The value of a hexadecimal digit. -/
def hexValue? (c : Char) : Option Nat :=
  if c.isDigit then some (c.toNat - '0'.toNat)
  else if 'a' ≤ c ∧ c ≤ 'f' then some (c.toNat - 'a'.toNat + 10)
  else if 'A' ≤ c ∧ c ≤ 'F' then some (c.toNat - 'A'.toNat + 10)
  else none

/-- The bytes of a text, escapes replaced by the bytes they stand for. -/
def percentDecode : List Char → List UInt8
  | [] => []
  | '%' :: a :: b :: rest =>
    match hexValue? a, hexValue? b with
    | some x, some y => UInt8.ofNat (16 * x + y) :: percentDecode rest
    | _, _ => String.utf8EncodeChar '%' ++ percentDecode (a :: b :: rest)
  | c :: rest => String.utf8EncodeChar c ++ percentDecode rest

/-- Text without a character of the set is left as it is. -/
theorem percentEncode_of_forall {escaped : Char → Bool} {cs : List Char}
    (h : ∀ c ∈ cs, escaped c = false) : percentEncode escaped cs = cs := by
  induction cs with
  | nil => rfl
  | cons c cs ih =>
    have hc := h c (by simp)
    have := ih fun d hd => h d (by simp [hd])
    simp_all [percentEncode]

end Telemetry.Url
