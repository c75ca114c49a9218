import Telemetry.Text.Width
import Telemetry.Url.Host
import Telemetry.Url.Punycode

/-!
International domains, as far as this program knows them.

Of the tables of Unicode it has a few lines: the capital letters of four alphabets and
the full-width forms, with what they are mapped to, and scripts whose letters stand for
themselves, whatever is next to them. A domain with any other character is refused, be
it valid or not, so that none is ever taken for another one. In particular there are no
combining marks, which would have to be composed, and no scripts written from right to
left, which would have to be checked for their direction.
-/

namespace Telemetry.Url

/-- Ranges of characters that are mapped: the first, the last, and what the first is mapped to. -/
def mappedRanges : List (Nat × Nat × Nat) :=
  [(0xc0, 0xd6, 0xe0), (0xd8, 0xde, 0xf8), (0x178, 0x178, 0xff), (0x386, 0x386, 0x3ac),
   (0x388, 0x38a, 0x3ad), (0x38c, 0x38c, 0x3cc), (0x38e, 0x38f, 0x3cd), (0x391, 0x3a1, 0x3b1),
   (0x3a3, 0x3ab, 0x3c3), (0x400, 0x40f, 0x450), (0x410, 0x42f, 0x430), (0x531, 0x556, 0x561),
   (0x3002, 0x3002, 0x2e), (0xff01, 0xff5e, 0x21), (0xff61, 0xff61, 0x2e)]

/-- Ranges in which each capital letter has its small one behind it. -/
def pairedRanges : List (Nat × Nat) :=
  [(0x100, 0x12f), (0x134, 0x137), (0x139, 0x13e), (0x141, 0x148), (0x14a, 0x177), (0x179, 0x17e),
   (0x490, 0x4bf), (0x1ea0, 0x1ef9)]

/-- Ranges of characters that stand for themselves. -/
def ownRanges : List (Nat × Nat) :=
  [(0xdf, 0xf6), (0xf8, 0xff), (0x3ac, 0x3ce), (0x430, 0x45f), (0x561, 0x586), (0x10d0, 0x10fa),
   (0x2600, 0x27bf), (0x3041, 0x3096), (0x30a1, 0x30fa), (0x30fc, 0x30fe), (0x4e00, 0x9fff),
   (0xac00, 0xd7a3), (0x1f300, 0x1f64f)]

/-- Characters that are dropped, being invisible. -/
def isDropped (c : Char) : Bool :=
  [0xad, 0x34f, 0x180b, 0x180c, 0x180d, 0x180f, 0x200b, 0x2060, 0x2064, 0xfeff].contains c.toNat ||
    Text.isWithin [(0xfe00, 0xfe0f)] c

/-- Whether a character is the capital letter of a pair, at place zero, or the small one. -/
def inPair (place : Nat) (c : Char) : Bool :=
  pairedRanges.any fun (first, last) =>
    first ≤ c.toNat && c.toNat ≤ last && (c.toNat - first) % 2 = place

/-- What a character is mapped to. -/
def mapped (c : Char) : Char :=
  match mappedRanges.find? fun (first, last, _) => first ≤ c.toNat && c.toNat ≤ last with
  | some (first, _, image) => (Char.ofNat (c.toNat - first + image)).toLower
  | none => if inPair 0 c then Char.ofNat (c.toNat + 1) else c.toLower

/-- Whether a label beyond ASCII may occur: all its characters are known to stand for themselves. -/
def isProperLabel (label : List Char) : Bool :=
  !label.all isAscii && label.all fun c => isAscii c || Text.isWithin ownRanges c || inPair 1 c

/-- A label in ASCII. -/
def labelToAscii (label : List Char) : Option (List Char) :=
  if punycodeMark.isPrefixOf label then do
    let decoded ← Punycode.decode? (label.drop punycodeMark.length)
    if isProperLabel decoded && punycodeMark ++ Punycode.encode decoded == label then some label
    else none
  else if label.all isAscii then some label
  else if isProperLabel label then some (punycodeMark ++ Punycode.encode label)
  else none

instance : DomainRule where
  toAscii domain := do
    let domain := (domain.filter (!isDropped ·)).map mapped
    if domain.any forbiddenInDomain then none
    let labels ← (labelsOf domain).mapM labelToAscii
    return ['.'].intercalate labels

end Telemetry.Url
