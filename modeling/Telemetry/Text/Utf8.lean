/-!
Reading UTF-8 that may be damaged.

Bytes that form no character are replaced by the replacement character, one for
each longest run of bytes that could have been the beginning of a character.
-/

namespace Telemetry.Text

/-- The character that stands for damaged bytes. -/
def replacement : Char := '\ufffd'

/-- An inclusive range of bytes. -/
structure ByteRange where
  least : UInt8
  greatest : UInt8
  deriving DecidableEq, Repr

def ByteRange.contains (r : ByteRange) (b : UInt8) : Bool := r.least ≤ b && b ≤ r.greatest

/-- The bytes that continue a character. -/
def tailRange : ByteRange := ⟨0x80, 0xbf⟩

/-- The bits of a first byte, and the ranges of the bytes that must follow it. -/
def leadByte? (b : UInt8) : Option (Nat × List ByteRange) :=
  if b < 0x80 then some (b.toNat, [])
  else if b < 0xc2 then none
  else if b < 0xe0 then some (b.toNat % 32, [tailRange])
  else if b = 0xe0 then some (b.toNat % 16, [⟨0xa0, 0xbf⟩, tailRange])
  else if b = 0xed then some (b.toNat % 16, [⟨0x80, 0x9f⟩, tailRange])
  else if b < 0xf0 then some (b.toNat % 16, [tailRange, tailRange])
  else if b = 0xf0 then some (b.toNat % 8, [⟨0x90, 0xbf⟩, tailRange, tailRange])
  else if b < 0xf4 then some (b.toNat % 8, [tailRange, tailRange, tailRange])
  else if b = 0xf4 then some (b.toNat % 8, [⟨0x80, 0x8f⟩, tailRange, tailRange])
  else none

/-- Reads the bytes that must follow, up to the first that does not fit. -/
def readTail (value : Nat) : List ByteRange → List UInt8 → Option Nat × List UInt8
  | [], rest => (some value, rest)
  | _ :: _, [] => (none, [])
  | range :: ranges, b :: rest =>
    if range.contains b then readTail (64 * value + b.toNat % 64) ranges rest
    else (none, b :: rest)

theorem length_readTail_le (value : Nat) (ranges : List ByteRange) (bytes : List UInt8) :
    (readTail value ranges bytes).2.length ≤ bytes.length := by
  induction ranges generalizing value bytes with
  | nil => simp [readTail]
  | cons range ranges ih =>
    cases bytes with
    | nil => simp [readTail]
    | cons b rest =>
      unfold readTail
      split
      · have := ih (64 * value + b.toNat % 64) rest
        simp only [List.length_cons]
        omega
      · simp

/-- The characters of a text in UTF-8, damaged bytes replaced. -/
def decodeLossy (bytes : List UInt8) : List Char :=
  match bytes with
  | [] => []
  | b :: rest =>
    match leadByte? b with
    | none => replacement :: decodeLossy rest
    | some (value, ranges) =>
      match _read : readTail value ranges rest with
      | (some code, rest') => Char.ofNat code :: decodeLossy rest'
      | (none, rest') => replacement :: decodeLossy rest'
termination_by bytes.length
decreasing_by
  · simp
  · have := length_readTail_le value ranges rest
    simp only [_read, List.length_cons] at this ⊢
    omega
  · have := length_readTail_le value ranges rest
    simp only [_read, List.length_cons] at this ⊢
    omega

end Telemetry.Text
