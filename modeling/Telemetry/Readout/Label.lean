import Telemetry.Binary64.Basic
import Telemetry.Decimal.Fixed

/-!
Short texts: measured values, slot names, protocol names and times of day.
-/

namespace Telemetry.Readout

/-- A measured value with two decimals. -/
def metricValue (x : Binary64) : String := Decimal.fixed 2 x

/-- The slot of the field that shows a metric: points in the name become dashes. -/
def metricSlot (name : String) : String :=
  "metric-" ++ String.ofList (name.toList.map fun c => if c = '.' then '-' else c)

/-- The name of a well-known protocol, or the number itself. -/
def protocolName (protocol : Int64) : String :=
  if protocol = 1 then "ICMP"
  else if protocol = 6 then "TCP"
  else if protocol = 17 then "UDP"
  else toString protocol.toInt

/-- A moment as the time of day in hours, minutes and seconds, counted from the start of
the epoch. A second's worth of extra nanoseconds marks a leap second. -/
def timeOfDay (seconds : Int) (nanoseconds : Nat) : String :=
  let ofDay := (seconds % 86400).toNat
  let two (n : Nat) := String.ofList (Decimal.padded 2 n)
  two (ofDay / 3600) ++ ":" ++ two (ofDay % 3600 / 60) ++ ":" ++
    two (ofDay % 60 + nanoseconds / 1000000000)

end Telemetry.Readout
