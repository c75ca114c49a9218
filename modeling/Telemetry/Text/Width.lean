/-!
The width of text in terminal columns.

Ideographs, syllables and full-width forms take two columns, control characters
and combining marks none, all others one.
-/

namespace Telemetry.Text

/-- Ranges of characters that take two columns. -/
def wideRanges : List (Nat × Nat) :=
  [(0x1100, 0x115f), (0x2e80, 0x303e), (0x3041, 0xa4cf), (0xa960, 0xa97f), (0xac00, 0xd7a3),
   (0xf900, 0xfaff), (0xfe30, 0xfe6f), (0xff01, 0xff60), (0xffe0, 0xffe6), (0x1f300, 0x1f64f),
   (0x1f680, 0x1f6ff), (0x1f900, 0x1f9ff), (0x20000, 0x3fffd)]

/-- Ranges of characters that take no column. -/
def hiddenRanges : List (Nat × Nat) :=
  [(0x0, 0x1f), (0x7f, 0x9f), (0x300, 0x36f), (0x483, 0x489), (0x591, 0x5bd), (0x610, 0x61a),
   (0x64b, 0x65f), (0x200b, 0x200f), (0x202a, 0x202e), (0x2060, 0x206f), (0x20d0, 0x20f0),
   (0xfe00, 0xfe0f), (0xfe20, 0xfe2f), (0xfeff, 0xfeff)]

def isWithin (ranges : List (Nat × Nat)) (c : Char) : Bool :=
  ranges.any fun (least, greatest) => least ≤ c.toNat && c.toNat ≤ greatest

/-- How many columns a character takes. -/
def charWidth (c : Char) : Nat :=
  if 0x20 ≤ c.toNat && c.toNat < 0x7f then 1
  else if isWithin hiddenRanges c then 0
  else if isWithin wideRanges c then 2
  else 1

/-- How many columns a text takes. -/
def width : List Char → Nat
  | [] => 0
  | c :: cs => charWidth c + width cs

@[simp] theorem width_nil : width [] = 0 := rfl

@[simp] theorem width_cons (c : Char) (cs : List Char) :
    width (c :: cs) = charWidth c + width cs := rfl

end Telemetry.Text
