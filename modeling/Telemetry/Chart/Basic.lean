import Telemetry.Snapshot.Basic

/-!
The charts of the overview panel.

A chart shows one line per series. A `Series` says which metric feeds it, how it
is called in the legend and in which color it is drawn; the three belong
together, so no list can be longer than another.
-/

namespace Telemetry

/-- A color of the terminal: its own, two named ones, or red, green and blue. -/
inductive Color where
  | reset
  | darkGray
  | cyan
  | rgb (red green blue : UInt8)
  deriving DecidableEq, Repr

/-- One line of a chart. -/
structure Series where
  metric : String
  caption : String
  color : Color
  deriving DecidableEq, Repr

inductive Chart where
  | cpu
  | memory
  | network
  deriving DecidableEq, Repr

namespace Chart

/-- Every chart, from top to bottom. -/
def all : List Chart := [.cpu, .memory, .network]

theorem mem_all (c : Chart) : c ∈ all := by
  cases c <;> simp [all]

def name : Chart → String
  | .cpu => "cpu"
  | .memory => "memory"
  | .network => "network"

/-- The slot of the screen that shows a chart. -/
def slot : Chart → String
  | .cpu => "cpu-chart"
  | .memory => "memory-chart"
  | .network => "network-chart"

def title : Chart → String
  | .cpu => "CPU Usage %"
  | .memory => "Memory Usage %"
  | .network => "Network (bytes/s)"

def series : Chart → List Series
  | .cpu => [⟨"cpu.usage", "CPU Usage %", .rgb 54 162 235⟩]
  | .memory => [⟨"memory.usage_percent", "Memory Usage %", .rgb 255 99 132⟩]
  | .network =>
    [⟨"network.bytes_in_per_sec", "Bytes In", .rgb 75 192 192⟩,
     ⟨"network.bytes_out_per_sec", "Bytes Out", .rgb 153 102 255⟩]

/-- The fixed upper end of the vertical axis; without one the axis follows the data. -/
def ceiling? : Chart → Option Binary64
  | .cpu | .memory => some (.ofNat 100)
  | .network => none

/-- The number of points that a chart keeps. -/
def defaultCapacity : Nat := 30

theorem series_ne_nil (c : Chart) : c.series ≠ [] := by
  cases c <;> simp [series]

end Chart

/-- The value of the last sample with exactly this name, or zero without one. -/
def sampleValue (samples : List MetricSample) (name : String) : Binary64 :=
  match samples.reverse.find? (·.name = name) with
  | some sample => sample.value
  | none => .zero

/-- The values that a chart takes from a snapshot, one per series. -/
def Chart.valuesOf (c : Chart) (samples : List MetricSample) : List Binary64 :=
  c.series.map fun s => sampleValue samples s.metric

@[simp] theorem Chart.length_valuesOf (c : Chart) (samples : List MetricSample) :
    (c.valuesOf samples).length = c.series.length := by
  simp [Chart.valuesOf]

end Telemetry
