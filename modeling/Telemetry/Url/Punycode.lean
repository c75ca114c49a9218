import Telemetry.Text.Split

/-!
Punycode: labels beyond ASCII written in ASCII.

The ASCII characters of a label come first. What follows says where the others
go, as a list of numbers: each number is the distance, over code points and
positions taken together, from one insertion to the next. A number is written
with the least digit first, in a base that changes from digit to digit and
adapts itself to the numbers already written.
-/

namespace Telemetry.Url.Punycode

/-- How many digits there are. -/
def base : Nat := 36

/-- The first code point that is not copied. -/
def firstCode : Nat := 128

def initialBias : Nat := 72

/-- The digit at or below which the last digit of a number lies. -/
def threshold (bias place : Nat) : Nat := min 26 (max 1 (place - bias))

/-- How often a distance is divided before the bias is taken from it. -/
def biasOf (place : Nat) (delta : Nat) : Nat :=
  if 455 < delta then biasOf (place + base) (delta / 35)
  else place + base * delta / (delta + 38)

/-- The bias after a distance has been written for the `count`-th character. -/
def adapt (delta count : Nat) (first : Bool) : Nat :=
  let scaled := if first then delta / 700 else delta / 2
  biasOf 0 (scaled + scaled / count)

def digit (n : Nat) : Char := if n < 26 then Char.ofNat (97 + n) else Char.ofNat (22 + n)

def digitValue? (c : Char) : Option Nat :=
  if c.isDigit then some (c.toNat - 22)
  else if c.isLower then some (c.toNat - 97)
  else if c.isUpper then some (c.toNat - 65)
  else none

theorem one_le_threshold (bias place : Nat) : 1 ≤ threshold bias place := by
  unfold threshold
  omega

/-- A distance, the digit of the given place first. -/
def writeNumber (bias place n : Nat) : List Char :=
  let t := threshold bias place
  if n < t then [digit n]
  else digit (t + (n - t) % (base - t)) :: writeNumber bias (place + base) ((n - t) / (base - t))
termination_by n
decreasing_by
  have h := one_le_threshold bias place
  have := Nat.div_le_self (n - threshold bias place) (base - threshold bias place)
  omega

/-- What has been written so far, and the distance run since the last insertion. -/
structure Encoder where
  written : List Char
  delta : Nat
  bias : Nat
  count : Nat
  first : Bool

/-- Passes one character of the label while code point `code` is being placed. -/
def Encoder.pass (code : Nat) (e : Encoder) (c : Char) : Encoder :=
  if c.toNat < code then { e with delta := e.delta + 1 }
  else if c.toNat = code then
    { written := e.written ++ writeNumber e.bias base e.delta, delta := 0,
      bias := adapt e.delta (e.count + 1) e.first, count := e.count + 1, first := false }
  else e

/-- Places every occurrence of each code point, `current` being the one reached so far. -/
def Encoder.place (label : List Char) : (codes : List Nat) → (current : Nat) → Encoder → Encoder
  | [], _, e => e
  | code :: codes, current, e =>
    let e := { e with delta := e.delta + (code - current) * (e.count + 1) }
    let e := label.foldl (Encoder.pass code) e
    Encoder.place label codes (code + 1) { e with delta := e.delta + 1 }

/-- The code points of a label that are not copied, each once, smallest first. -/
def insertedCodes (label : List Char) : List Nat :=
  ((label.map Char.toNat).filter (firstCode ≤ ·)).eraseDups.mergeSort

def encode (label : List Char) : List Char :=
  let plain := label.filter (·.toNat < firstCode)
  let start : Encoder :=
    { written := if plain.isEmpty then [] else plain ++ ['-'], delta := 0, bias := initialBias,
      count := plain.length, first := true }
  (Encoder.place label (insertedCodes label) firstCode start).written

/-- The label read so far, and the number that is being read. -/
structure Decoder where
  label : List Nat
  code : Nat
  index : Nat
  bias : Nat
  first : Bool
  /-- The index before the number began. -/
  start : Nat
  weight : Nat
  place : Nat

/-- Reads one digit; the last digit of a number inserts a character. -/
def Decoder.read (d : Decoder) (n : Nat) : Decoder :=
  let index := d.index + n * d.weight
  let t := threshold d.bias d.place
  if n < t then
    let count := d.label.length + 1
    let code := d.code + index / count
    let position := index % count
    { label := d.label.take position ++ code :: d.label.drop position, code := code,
      index := position + 1, bias := adapt (index - d.start) count d.first, first := false,
      start := position + 1, weight := 1, place := base }
  else { d with index := index, weight := d.weight * (base - t), place := d.place + base }

/-- The label that a text stands for, unless it is not the text of one. -/
def decode? (cs : List Char) : Option (List Char) := do
  let (plain?, inserted) := Text.splitLast '-' cs
  let digits ← inserted.mapM digitValue?
  let d := digits.foldl Decoder.read
    { label := (plain?.getD []).map Char.toNat, code := firstCode, index := 0, bias := initialBias,
      first := true, start := 0, weight := 1, place := base }
  if d.place ≠ base then none
  else d.label.mapM fun n => if n.isValidChar then some (Char.ofNat n) else none

end Telemetry.Url.Punycode
