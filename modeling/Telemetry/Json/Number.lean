import Telemetry.Binary64.Arithmetic
import Telemetry.Json.Scan

/-!
Numbers.

Reading a number has two parts that do not depend on each other. `readNumeral`
takes the characters of a number apart into a `Numeral`: sign, whole digits,
decimals and exponent, all still digits. `Numeral.value` then says what the
numeral stands for.

A numeral without decimals and exponent that fits 64 bits is an integer, except
`-0`. Every other numeral is a double, found in a way that is fast rather than
correctly rounded: as many leading digits as fit 64 bits form a significand, the
digits left over and the exponent add up to a power of ten, and the significand
is multiplied or divided by the double nearest to that power. A product beyond
the finite range is refused, so no numeral ever stands for an infinity.
-/

namespace Telemetry.Json

/-- The exponent of a numeral. -/
structure Exponent where
  negative : Bool
  digits : List Char
  deriving DecidableEq, Repr

/-- A number taken apart but not yet evaluated. -/
structure Numeral where
  negative : Bool
  whole : List Char
  decimals : List Char
  exponent : Option Exponent
  deriving DecidableEq, Repr

/-! ### Reading the digits -/

/-- What is left behind the digits that follow a first one. -/
def Rest.behindDigits (rest : List Char) : Rest (rest.length + 1) :=
  ⟨rest.dropWhile Char.isDigit, Nat.lt_succ_of_le (List.dropWhile_suffix _).length_le⟩

/-- Reads the whole digits. A number does not start with a superfluous zero. -/
def readWhole (atEnd : Cause) (s : List Char) : Except Fault (List Char × Rest s.length) :=
  match s with
  | [] => .error (.before [] atEnd)
  | c :: rest =>
    if c = '0' then
      if rest.head?.any Char.isDigit then .error (.into rest .invalidNumber)
      else .ok (['0'], .whole rest)
    else if c.isDigit then
      .ok (c :: rest.takeWhile Char.isDigit, .behindDigits rest)
    else .error (.into (c :: rest) .invalidNumber)

/-- Reads at least one digit. -/
def readDigits (atEnd : Cause) (s : List Char) : Except Fault (List Char × Rest s.length) :=
  match s with
  | [] => .error (.before [] atEnd)
  | c :: rest =>
    if c.isDigit then
      .ok (c :: rest.takeWhile Char.isDigit, .behindDigits rest)
    else .error (.into (c :: rest) .invalidNumber)

/-- Reads the decimals, if a point follows. -/
def readDecimals (atEnd : Cause) (s : List Char) :
    Except Fault (List Char × Rest (s.length + 1)) :=
  match s with
  | '.' :: rest => (readDigits atEnd rest).map fun (ds, r) =>
      (ds, r.weaken (by simp only [List.length_cons]; omega))
  | rest => .ok ([], .whole rest)

/-- Splits off the sign of an exponent; without one it is positive. -/
def exponentSign : List Char → Bool × List Char
  | '+' :: rest => (false, rest)
  | '-' :: rest => (true, rest)
  | rest => (false, rest)

theorem length_exponentSign_le (s : List Char) : (exponentSign s).2.length ≤ s.length := by
  unfold exponentSign
  split <;> simp

/-- Reads the exponent, if there is one. -/
def readExponent (atEnd : Cause) (s : List Char) :
    Except Fault (Option Exponent × Rest (s.length + 1)) :=
  match s with
  | [] => .ok (none, .whole [])
  | c :: rest =>
    if c = 'e' ∨ c = 'E' then
      (readDigits atEnd (exponentSign rest).2).map fun (ds, r) =>
        (some ⟨(exponentSign rest).1, ds⟩, r.weaken (by
          have := length_exponentSign_le rest
          simp only [List.length_cons]; omega))
    else .ok (none, .whole (c :: rest))

/-- Reads a number. `atEnd` is the cause given where the text stops inside one. -/
def readNumeral (atEnd : Cause) (s : List Char) : Except Fault (Numeral × Rest s.length) :=
  match s with
  | '-' :: s => do
    let (n, r) ← unsigned s
    return ({ n with negative := true }, r.succ)
  | s => unsigned s
where
  unsigned (s : List Char) : Except Fault (Numeral × Rest s.length) := do
    let (whole, r₁) ← readWhole atEnd s
    let (decimals, r₂) ← readDecimals atEnd r₁.1
    let (exponent, r₃) ← readExponent atEnd r₂.1
    return (⟨false, whole, decimals, exponent⟩,
      ⟨r₃.1, by have := r₁.2; have := r₂.2; have := r₃.2; omega⟩)

/-! ### What a numeral stands for -/

/-- The value of a number: an integer of at most 64 bits or a double. -/
inductive Number where
  | integer (n : Int)
  | real (x : Binary64)
  deriving DecidableEq, Repr

def digitValue (c : Char) : Nat := c.toNat - '0'.toNat

/-- The natural number that digits denote. -/
def digitsValue (digits : List Char) : Nat :=
  digits.foldl (fun n c => n * 10 + digitValue c) 0

/-- The greatest significand. -/
def maxSignificand : Nat := 2 ^ 64 - 1

/-- Appends digits to a significand as long as it fits 64 bits, and counts the digits left. -/
def absorb : (significand : Nat) → List Char → Nat × Nat
  | significand, [] => (significand, 0)
  | significand, c :: cs =>
    let next := significand * 10 + digitValue c
    if next ≤ maxSignificand then absorb next cs else (significand, cs.length + 1)

/-- The greatest power of ten among the doubles. -/
def maxPower : Nat := 308

/-- Divides by ten to the given power, in steps of at most `10 ^ 308`. -/
def divideByPower (x : Binary64) (power : Nat) : Binary64 :=
  if power ≤ maxPower then x / Binary64.pow10 power
  else if x = Binary64.zero then x
  else divideByPower (x / Binary64.pow10 maxPower) (power - maxPower)
termination_by power
decreasing_by
  simp only [maxPower] at *
  omega

/-- The double of a significand and a power of ten, or nothing beyond the finite range. -/
def scale? (significand : Nat) (power : Int) : Option Binary64 :=
  let x := Binary64.ofNat significand
  if power < 0 then some (divideByPower x power.natAbs)
  else if power ≤ maxPower then
    let product := x * Binary64.pow10 power.toNat
    if product.isInfinite then none else some product
  else if significand = 0 then some x
  else none

/-- The greatest exponent that is read digit by digit. -/
def maxExponent : Nat := 2 ^ 31 - 1

/-- How many digits of an exponent are left over once it has grown too large, if it does. -/
def Exponent.overflow? (e : Exponent) : Option Nat :=
  go 0 e.digits
where
  go (n : Nat) : List Char → Option Nat
    | [] => none
    | c :: cs =>
      let next := n * 10 + digitValue c
      if next ≤ maxExponent then go next cs else some cs.length

/-- The exponent as an integer. -/
def Exponent.value (e : Exponent) : Int :=
  if e.negative then -(digitsValue e.digits : Int) else digitsValue e.digits

/-- The significand of a numeral, and the power of ten that its digits alone call for. -/
def Numeral.significand (n : Numeral) : Nat × Int :=
  let (whole, left) := absorb 0 n.whole
  let (all, ignored) := absorb whole n.decimals
  (all, (left : Int) - ((n.decimals.length - ignored : Nat) : Int))

/-- The double that a numeral stands for, sign aside. A refusal says how many digits of the
exponent had not been looked at. -/
def Numeral.magnitude (n : Numeral) : Except Nat Binary64 :=
  let (significand, power) := n.significand
  let finite (x? : Option Binary64) : Except Nat Binary64 :=
    match x? with
    | some x => .ok x
    | none => .error 0
  match n.exponent with
  | none => finite (scale? significand power)
  | some e =>
    match e.overflow? with
    | none => finite (scale? significand (power + e.value))
    | some left =>
      if significand ≠ 0 && !e.negative then .error left else .ok Binary64.zero

/-- Whether a numeral is written as an integer. -/
def Numeral.isInteger (n : Numeral) : Bool := n.decimals.isEmpty && n.exponent.isNone

/-- What a numeral stands for. -/
def Numeral.value (n : Numeral) : Except Nat Number :=
  let whole := digitsValue n.whole
  if n.isInteger && !n.negative && whole ≤ maxSignificand then .ok (.integer whole)
  else if n.isInteger && n.negative && whole ≠ 0 && whole ≤ 2 ^ 63 then
    .ok (.integer (-(whole : Int)))
  else n.magnitude.map fun x => .real (if n.negative then -x else x)

/-- Reads a number and its value. -/
def readNumber (s : List Char) : Except Fault (Number × Rest s.length) := do
  let (n, r) ← readNumeral .endInValue s
  match n.value with
  | .ok v => return (v, r)
  | .error left => throw ⟨.numberOutOfRange, Text.byteLength r.1 + left⟩

end Telemetry.Json
