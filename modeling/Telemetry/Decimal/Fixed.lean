import Telemetry.Binary64.Basic

/-!
Decimal text with a fixed number of places.

The number written is the exact value of the double, rounded to the given
places with ties to the even neighbour; it is not a rounding of some shorter
decimal. The sign bit is always shown, so a small negative number may read
`-0.00`.
-/

namespace Telemetry.Decimal

/-- The digits of `n`, padded on the left with zeros to at least `width`. -/
def padded (width n : Nat) : List Char :=
  let digits := Nat.toDigits 10 n
  List.replicate (width - digits.length) '0' ++ digits

/-- `n` counted in units of `10 ^ -places`, written with exactly `places` decimals. -/
def placed (places n : Nat) : List Char :=
  let digits := padded (places + 1) n
  let whole := digits.take (digits.length - places)
  if places = 0 then whole else whole ++ '.' :: digits.drop (digits.length - places)

/-- A double with exactly `places` decimals. -/
def fixed (places : Nat) (x : Binary64) : String :=
  match x.meaning with
  | .nan => "NaN"
  | .infinite negative => if negative then "-inf" else "inf"
  | .finite negative n =>
    let scaled := roundQuotient (n * 10 ^ places) Binary64.stepsPerUnit
    (if negative then "-" else "") ++ String.ofList (placed places scaled)

end Telemetry.Decimal
