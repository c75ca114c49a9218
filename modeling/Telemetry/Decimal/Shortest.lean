import Telemetry.Binary64.Basic
import Telemetry.Decimal.Fixed

/-!
The shortest decimal text that identifies a double.

A decimal *reads back* to a double when the double is the nearest one to it.
Among all decimals that read back, the shortest are those on the coarsest grid
`10 ^ e` that has any; if a grid has a point that reads back, then one of the
two grid points next to the value does, so only these two are tried. Of two
hits the nearer is taken, and the even one at a tie.

Numbers from `0.00001` up to but not including `10 ^ 16` are written out with at
least one decimal, all others with a signed exponent of at least two digits.
-/

namespace Telemetry.Decimal

/-- The decimal `digits * 10 ^ exponent`. -/
structure Scientific where
  digits : Nat
  exponent : Int
  deriving DecidableEq, Repr

/-- The double nearest to a decimal that is not negative. -/
def Scientific.toBinary64 (d : Scientific) : Binary64 :=
  .ofQuotient false (d.digits * 10 ^ d.exponent.toNat * Binary64.stepsPerUnit)
    (10 ^ (-d.exponent).toNat)

/-- The value of `steps` steps divided by `10 ^ exponent`, as numerator and denominator. -/
def onGrid (steps : Nat) (exponent : Int) : Nat × Nat :=
  (steps * 10 ^ (-exponent).toNat, Binary64.stepsPerUnit * 10 ^ exponent.toNat)

/-- The point of the grid `10 ^ exponent` that reads back to the double of `steps` steps. -/
def candidate? (steps : Nat) (exponent : Int) : Option Scientific :=
  let (num, den) := onGrid steps exponent
  let target := Binary64.ofQuotient false steps 1
  let readsBack (n : Nat) : Bool := (Scientific.mk n exponent).toBinary64 == target
  let low := num / den
  let nearest := roundQuotient num den
  if readsBack nearest then some ⟨nearest, exponent⟩
  else if readsBack low then some ⟨low, exponent⟩
  else if readsBack (low + 1) then some ⟨low + 1, exponent⟩
  else none

/-- Exponents of the grids worth trying, coarsest first. -/
def gridExponents : List Int := (List.range 651).map fun (i : Nat) => 309 - (i : Int)

/-- The shortest decimal that reads back to the double of `steps` steps. -/
def shortest (steps : Nat) : Scientific :=
  if steps = 0 then ⟨0, 0⟩
  else (gridExponents.findSome? (candidate? steps)).getD
    ⟨steps * 5 ^ 1074, -1074⟩

/-- Digits with the point after `point` of them, and at least one decimal. -/
def positional (digits : List Char) (point : Int) : List Char :=
  let whole := digits.take point.toNat ++ List.replicate (point.toNat - digits.length) '0'
  let decimals := List.replicate (-point).toNat '0' ++ digits.drop point.toNat
  (if whole.isEmpty then ['0'] else whole) ++ '.' :: (if decimals.isEmpty then ['0'] else decimals)

/-- Digits as a leading digit, its decimals if any, and a signed exponent. -/
def exponential (digits : List Char) (exponent : Int) : List Char :=
  let decimals := digits.drop 1
  digits.take 1 ++ (if decimals.isEmpty then [] else '.' :: decimals) ++
    'e' :: (if exponent < 0 then '-' else '+') :: padded 2 exponent.natAbs

/-- The layout of a decimal: written out between `10 ^ -5` and `10 ^ 16`, else with exponent. -/
def Scientific.layout (d : Scientific) : List Char :=
  let digits := Nat.toDigits 10 d.digits
  if d.digits = 0 then ['0', '.', '0']
  else
    let point := digits.length + d.exponent
    if -5 < point && point ≤ 16 then positional digits point
    else exponential digits (point - 1)

/-- The shortest text that identifies a double. -/
def shortestText (x : Binary64) : String :=
  match x.meaning with
  | .nan => "NaN"
  | .infinite negative => if negative then "-inf" else "inf"
  | .finite negative n => (if negative then "-" else "") ++ String.ofList (shortest n).layout

end Telemetry.Decimal
