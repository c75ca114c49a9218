import Telemetry.Binary64.Arithmetic
import Telemetry.Decimal.Fixed

/-!
Byte counts for people.

A count is shown in the largest of the units B, KB, MB, GB and TB of which it
holds at least one, the units being 1024 apart. The number in front of the unit
has two decimals; zero is the one count without any.
-/

namespace Telemetry.Readout

/-- The units, smallest first. -/
def byteUnits : List String := ["B", "KB", "MB", "GB", "TB"]

/-- The greatest `k` up to `top` for which `1024 ^ k` does not exceed the count. -/
def unitIndex : (top : Nat) → (count : Nat) → Nat
  | 0, _ => 0
  | top + 1, count => if count < 1024 then 0 else unitIndex top (count / 1024) + 1

/-- A byte count with its unit. -/
def byteSize (count : UInt64) : String :=
  let n := count.toNat
  if n = 0 then "0 B"
  else
    let k := unitIndex (byteUnits.length - 1) n
    let scaled := Binary64.ofNat n / Binary64.ofNat (1024 ^ k)
    Decimal.fixed 2 scaled ++ " " ++ byteUnits.getD k ""

/-- The sum of two counts, or the greatest count if that is too large. -/
def addSaturating (a b : UInt64) : UInt64 :=
  UInt64.ofNat (min (a.toNat + b.toNat) (2 ^ 64 - 1))

end Telemetry.Readout
