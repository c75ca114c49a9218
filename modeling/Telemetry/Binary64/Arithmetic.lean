import Telemetry.Binary64.Basic

/-!
Arithmetic, order and truncation of doubles.

Each operation looks at what its operands stand for, answers the special cases
that IEEE 754 lists, and otherwise rounds an exact quotient of naturals once.
Comparisons with a NaN are false.
-/

namespace Telemetry.Binary64

/-- The same magnitude with the other sign. -/
def neg (x : Binary64) : Binary64 := ⟨x.bits ^^^ 0x8000000000000000⟩

instance : Neg Binary64 := ⟨neg⟩

/-- A signed sum of steps; an exact zero is negative only if both operands were. -/
def ofSum (a b : Bool) (total : Int) : Binary64 :=
  ofQuotient (if total = 0 then a && b else total < 0) total.natAbs 1

def add (x y : Binary64) : Binary64 :=
  match x.meaning, y.meaning with
  | .nan, _ | _, .nan => nan
  | .infinite a, .infinite b => if a = b then infinity a else nan
  | .infinite a, .finite .. => infinity a
  | .finite .., .infinite b => infinity b
  | .finite a m, .finite b n => ofSum a b (Meaning.signed a m + Meaning.signed b n)

instance : Add Binary64 := ⟨add⟩

instance : Sub Binary64 := ⟨fun x y => x + -y⟩

def mul (x y : Binary64) : Binary64 :=
  match x.meaning, y.meaning with
  | .nan, _ | _, .nan => nan
  | .infinite a, .infinite b => infinity (a != b)
  | .infinite a, .finite b n | .finite b n, .infinite a =>
    if n = 0 then nan else infinity (a != b)
  | .finite a m, .finite b n => ofQuotient (a != b) (m * n) stepsPerUnit

instance : Mul Binary64 := ⟨mul⟩

def div (x y : Binary64) : Binary64 :=
  match x.meaning, y.meaning with
  | .nan, _ | _, .nan => nan
  | .infinite _, .infinite _ => nan
  | .infinite a, .finite b _ => infinity (a != b)
  | .finite a _, .infinite b => ofMagnitude (a != b) 0
  | .finite a m, .finite b n =>
    if n = 0 then (if m = 0 then nan else infinity (a != b))
    else ofQuotient (a != b) (m * stepsPerUnit) n

instance : Div Binary64 := ⟨div⟩

/-! ### Order -/

/-- Where a number stands among the others, infinities outermost. -/
def Meaning.rank? : Meaning → Option Int
  | .nan => none
  | .infinite negative => some (signed negative (2 ^ 2099))
  | .finite negative n => some (signed negative n)

/-- Strictly less; false when either side is not a number. -/
def lt (x y : Binary64) : Bool :=
  match x.meaning.rank?, y.meaning.rank? with
  | some a, some b => a < b
  | _, _ => false

/-- The greater of two numbers; a NaN gives way to the other operand. -/
def max (x y : Binary64) : Binary64 :=
  if x.isNaN then y else if y.isNaN then x else if x.lt y then y else x

/-! ### Whole part -/

/-- The whole part of a number that is not negative, cut off at `limit`; zero for
negative numbers and for no number at all. -/
def truncate (limit : Nat) (x : Binary64) : Nat :=
  match x.meaning with
  | .nan => 0
  | .infinite negative => if negative then 0 else limit
  | .finite negative n => if negative then 0 else min limit (n / stepsPerUnit)

end Telemetry.Binary64
