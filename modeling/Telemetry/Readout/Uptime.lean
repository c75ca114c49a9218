import Telemetry.Binary64.Arithmetic

/-!
Durations for people.

A number of seconds is cut off to whole seconds and split into days, hours,
minutes and seconds. Leading parts that are zero are left out; from the first
part shown on, all smaller ones are shown.
-/

namespace Telemetry.Readout

/-- The longest duration shown, in seconds. -/
def maxSeconds : Nat := 2 ^ 64 - 1

/-- The whole seconds of a duration; zero if it is negative or no finite number. -/
def wholeSeconds (seconds : Binary64) : Nat :=
  if seconds.isFinite then seconds.truncate maxSeconds else 0

/-- Whole seconds as days, hours, minutes and seconds. -/
def splitSeconds (total : Nat) : String :=
  let days := total / 86400
  let hours := total % 86400 / 3600
  let minutes := total % 3600 / 60
  (if 0 < days then s!"{days}d " else "") ++
    (if 0 < days ∨ 0 < hours then s!"{hours}h " else "") ++
    (if 0 < days ∨ 0 < hours ∨ 0 < minutes then s!"{minutes}m " else "") ++
    s!"{total % 60}s"

def uptime (seconds : Binary64) : String := splitSeconds (wholeSeconds seconds)

end Telemetry.Readout
