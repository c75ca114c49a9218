/-!
Double-precision numbers, handled exactly.

A measurement is an IEEE 754 binary64 value, kept here as its 64 bits. What
makes it easy to reason about is one observation: every finite double is a
whole number of *steps* of `2 ^ -1074`, the smallest positive double. So a
finite value is a sign and a natural number, `Binary64.steps`, and every
operation of this library is computed exactly on such naturals and rounded
once, by `Binary64.ofQuotient`, to the nearest double with ties to the even
neighbour. No floating-point instruction is involved.

The bits of a magnitude are `k * 2 ^ 52 + m`, where `m` is the significand and
`2 ^ k` the weight of its last place in steps: the hidden bit of a normal number
carries into the exponent field by itself, and so does a significand that
rounds up to the next power of two.
-/

namespace Telemetry

-- A power of natural numbers or of integers is the one of the core library, whatever other
-- powers are around.
attribute [instance (high), default_instance (high + 1)] instPowNat

/-- An IEEE 754 binary64 number, as its bit pattern. -/
structure Binary64 where
  bits : UInt64
  deriving DecidableEq, Repr, Inhabited

/-- `num / den` rounded to the nearest natural number, a tie going to the even one. -/
def roundQuotient (num den : Nat) : Nat :=
  let q := num / den
  let r := num % den
  if 2 * r < den then q
  else if den < 2 * r then q + 1
  else q + q % 2

namespace Binary64

/-! ### Fields of the bit pattern -/

/-- Whether the sign bit is set, which it also is for a negative zero. -/
def signBit (x : Binary64) : Bool := 2 ^ 63 ≤ x.bits.toNat

def exponentField (x : Binary64) : Nat := x.bits.toNat / 2 ^ 52 % 2 ^ 11

def fractionField (x : Binary64) : Nat := x.bits.toNat % 2 ^ 52

def isFinite (x : Binary64) : Bool := x.exponentField < 2047

def isNaN (x : Binary64) : Bool := x.exponentField = 2047 && x.fractionField ≠ 0

def isInfinite (x : Binary64) : Bool := x.exponentField = 2047 && x.fractionField = 0

/-- The significand, hidden bit included. -/
def significand (x : Binary64) : Nat :=
  if x.exponentField = 0 then x.fractionField else 2 ^ 52 + x.fractionField

/-- The magnitude of a finite number in steps of `2 ^ -1074`. -/
def steps (x : Binary64) : Nat := x.significand * 2 ^ (x.exponentField - 1)

/-- How many steps make one. -/
def stepsPerUnit : Nat := 2 ^ 1074

/-! ### Building numbers -/

/-- The bits of infinity without its sign, above those of every finite magnitude. -/
def infiniteMagnitude : Nat := 2047 * 2 ^ 52

def ofMagnitude (negative : Bool) (magnitude : Nat) : Binary64 :=
  ⟨UInt64.ofNat ((if negative then 2 ^ 63 else 0) + magnitude)⟩

/-- The magnitude bits of `num / den` steps, rounded to nearest with ties to even. -/
def magnitudeOfQuotient (num den : Nat) : Nat :=
  let k := (num / den).log2 - 52
  k * 2 ^ 52 + roundQuotient num (den * 2 ^ k)

/-- The double nearest to `num / den` steps; beyond the finite range, infinity. -/
def ofQuotient (negative : Bool) (num den : Nat) : Binary64 :=
  ofMagnitude negative (min infiniteMagnitude (magnitudeOfQuotient num den))

/-- The double nearest to a natural number. -/
def ofNat (n : Nat) : Binary64 := ofQuotient false (n * stepsPerUnit) 1

/-- The double nearest to an integer. -/
def ofInt (n : Int) : Binary64 := ofQuotient (n < 0) (n.natAbs * stepsPerUnit) 1

/-- The double nearest to `10 ^ k`. -/
def pow10 (k : Nat) : Binary64 := ofNat (10 ^ k)

/-- Positive zero. -/
def zero : Binary64 := ⟨0⟩

def one : Binary64 := ⟨0x3FF0000000000000⟩

/-- Infinity with the given sign. -/
def infinity (negative : Bool) : Binary64 := ofMagnitude negative infiniteMagnitude

/-- The quiet NaN that operations without a result answer. -/
def nan : Binary64 := ⟨0x7FF8000000000000⟩

/-! ### What a number stands for -/

/-- A double by kind: no number, an infinity, or a signed count of steps. -/
inductive Meaning where
  | nan
  | infinite (negative : Bool)
  | finite (negative : Bool) (steps : Nat)
  deriving DecidableEq, Repr

def meaning (x : Binary64) : Meaning :=
  if x.isFinite then .finite x.signBit x.steps
  else if x.fractionField = 0 then .infinite x.signBit
  else .nan

/-- A signed count of steps as an integer. -/
def Meaning.signed (negative : Bool) (steps : Nat) : Int :=
  if negative then -(steps : Int) else steps

end Binary64

end Telemetry
