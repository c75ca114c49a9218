import Telemetry.Chart.Basic
import Telemetry.Window

/-!
The history of the charts.

Every chart has a window of its own, with as many series as the chart draws. A point
taken from a snapshot then always fits; a window of another width would refuse it.
-/

namespace Telemetry

/-- One window per chart. -/
structure ChartHistory where
  cpu : Window
  memory : Window
  network : Window
  deriving DecidableEq, Repr

namespace ChartHistory

/-- Windows without points. -/
def empty (capacity : Nat) : ChartHistory where
  cpu := .empty Chart.cpu.series.length capacity
  memory := .empty Chart.memory.series.length capacity
  network := .empty Chart.network.series.length capacity

def window (h : ChartHistory) : Chart → Window
  | .cpu => h.cpu
  | .memory => h.memory
  | .network => h.network

/-- Applies a function to every window. -/
def map (f : Chart → Window → Window) (h : ChartHistory) : ChartHistory where
  cpu := f .cpu h.cpu
  memory := f .memory h.memory
  network := f .network h.network

/-- A window with the point of a snapshot appended, or as it is if it refuses the point. -/
def extend (samples : List MetricSample) (label : String) (c : Chart) (w : Window) : Window :=
  match w.push label (c.valuesOf samples) with
  | .ok w => w
  | .error _ => w

/-- Appends one point per chart. -/
def record (h : ChartHistory) (samples : List MetricSample) (label : String) : ChartHistory :=
  h.map (extend samples label)

@[simp] theorem window_map (f : Chart → Window → Window) (h : ChartHistory) (c : Chart) :
    (h.map f).window c = f c (h.window c) := by
  cases c <;> rfl

@[simp] theorem window_empty (capacity : Nat) (c : Chart) :
    (empty capacity).window c = .empty c.series.length capacity := by
  cases c <;> rfl

@[simp] theorem window_record (h : ChartHistory) (samples : List MetricSample) (label : String)
    (c : Chart) : (h.record samples label).window c = extend samples label c (h.window c) := by
  simp [record]

end ChartHistory

end Telemetry
