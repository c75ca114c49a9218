import Telemetry.Panel
import Telemetry.Screen.Projection

/-!
The dashboard: what is remembered between snapshots.

Responses may arrive late. The dashboard remembers the newest cycle received
from each source and drops a response of an older one; a response of the same
cycle is still shown. Metrics also extend the history of the charts. The active
panel belongs to the user, and no response changes it.
-/

namespace Telemetry

structure Dashboard where
  history : ChartHistory
  active : Panel
  lastCycle? : Source → Option UInt64

/-- What applying an update did. -/
structure Applied where
  /-- Whether the update was shown rather than dropped. -/
  shown : Bool
  dashboard : Dashboard
  /-- The writes to declared slots, in order. -/
  writes : List Write
  screen : Screen

namespace Dashboard

/-- A dashboard without history whose charts keep `capacity` points. -/
def empty (capacity : Nat) : Dashboard := ⟨.empty capacity, .overview, fun _ => none⟩

def default : Dashboard := empty Chart.defaultCapacity

instance : Inhabited Dashboard := ⟨default⟩

def select (d : Dashboard) (panel : Panel) : Dashboard := { d with active := panel }

/-- Whether a response is older than what its source has already delivered. -/
def isStale (d : Dashboard) (u : Update) : Bool := u.cycle < (d.lastCycle? u.source).getD 0

/-- Remembers the cycle of a response. -/
def setLastCycle (d : Dashboard) (source : Source) (cycle : UInt64) : Dashboard :=
  { d with lastCycle? := fun s => if s = source then some cycle else d.lastCycle? s }

/-- Makes sure that the memory of cycles has an entry for a source: zero, if there is none. -/
def enroll (d : Dashboard) (source : Source) : Dashboard :=
  d.setLastCycle source ((d.lastCycle? source).getD 0)

/-- Extends the history of the charts if the snapshot holds metrics. -/
def remember (d : Dashboard) (label : String) : Snapshot → Dashboard
  | .metrics samples => { d with history := d.history.record samples label }
  | _ => d

/-- The writes that show a snapshot, which is not yet part of the history. -/
def writesOf (d : Dashboard) (label : String) (snapshot : Snapshot) : List Write :=
  match snapshot with
  | .metrics samples => snapshot.writes ++ d.history.writes samples label
  | _ => snapshot.writes

/-- Shows an update on a screen, unless it is stale. The source has an entry in the memory of
cycles before the update is compared with it. -/
def apply (d : Dashboard) (screen : Screen) (u : Update) (label : String) : Applied :=
  let d := d.enroll u.source
  if d.isStale u then ⟨false, d, [], screen⟩
  else
    let d := d.setLastCycle u.source u.cycle
    let writes := screen.declared (d.writesOf label u.snapshot)
    ⟨true, d.remember label u.snapshot, writes, screen.writeAll writes⟩

@[simp] theorem active_select (d : Dashboard) (p : Panel) : (d.select p).active = p := rfl

@[simp] theorem lastCycle?_setLastCycle (d : Dashboard) (source s : Source) (cycle : UInt64) :
    (d.setLastCycle source cycle).lastCycle? s =
      if s = source then some cycle else d.lastCycle? s := rfl

@[simp] theorem writesOf_setLastCycle (d : Dashboard) (source : Source) (cycle : UInt64)
    (label : String) (s : Snapshot) :
    (d.setLastCycle source cycle).writesOf label s = d.writesOf label s := by
  cases s <;> rfl

@[simp] theorem lastCycle?_remember (d : Dashboard) (label : String) (s : Snapshot) :
    (d.remember label s).lastCycle? = d.lastCycle? := by
  cases s <;> rfl

@[simp] theorem active_remember (d : Dashboard) (label : String) (s : Snapshot) :
    (d.remember label s).active = d.active := by
  cases s <;> rfl

end Dashboard

end Telemetry
