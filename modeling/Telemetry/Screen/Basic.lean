import Telemetry.Chart.Basic
import Telemetry.Readout.Label

/-!
The screen model: named slots that the terminal draws from.

A screen declares which slots it has. Fields, tables and charts are addressed by
slot, and writing to a slot that is not declared changes nothing. Contents are
functions of the slot, so two screens that show the same are equal, however
their contents came about.
-/

namespace Telemetry

inductive Table where
  | connections
  | hosts
  deriving DecidableEq, Repr

namespace Table

def all : List Table := [.connections, .hosts]

theorem mem_all (t : Table) : t ∈ all := by
  cases t <;> simp [all]

def name : Table → String
  | .connections => "connections"
  | .hosts => "hosts"

/-- The slot of the screen that shows a table. -/
def slot : Table → String
  | .connections => "connections-table-body"
  | .hosts => "hosts-table-body"

end Table

/-- What a chart shows: one label per point and the values of each series. -/
structure ChartData where
  labels : List String
  series : List (List Binary64)
  deriving DecidableEq, Repr

/-- A row of a table, cell by cell. -/
abbrev Cells := List String

/-! ### Fields of the default layout -/

/-- The scalar metrics of the overview panel, with the name of each metric. -/
def overviewMetrics : List (String × String) :=
  [("CPU usage %", "cpu.usage"), ("Memory usage %", "memory.usage_percent"),
   ("Memory used", "memory.used"), ("Memory total", "memory.total"),
   ("Net in (B/s)", "network.bytes_in_per_sec"), ("Net out (B/s)", "network.bytes_out_per_sec")]

def hostnameSlot : String := "system-hostname"

def platformSlot : String := "system-platform"

def cpuCountSlot : String := "system-cpus"

def uptimeSlot : String := "system-uptime"

/-- The fields of the system panel, with the slot of each. -/
def systemFields : List (String × String) :=
  [("Hostname", hostnameSlot), ("Platform", platformSlot), ("CPUs", cpuCountSlot),
   ("Uptime", uptimeSlot)]

/-- The slots of the default layout. -/
def defaultSlots : List String :=
  overviewMetrics.map (fun (_, name) => Readout.metricSlot name) ++ systemFields.map (·.2) ++
    Chart.all.map Chart.slot ++ Table.all.map Table.slot

/-! ### Screens -/

/-- One write to a screen. -/
inductive Write where
  | field (slot text : String)
  | rows (table : Table) (cells : List Cells)
  | chart (c : Chart) (data : ChartData)
  deriving DecidableEq, Repr

/-- The slot that a write goes to. -/
def Write.slot : Write → String
  | .field slot _ => slot
  | .rows t _ => t.slot
  | .chart c _ => c.slot

/-- The declared slots and what they show. -/
structure Screen where
  slots : List String
  field? : String → Option String
  rows : Table → List Cells
  chart? : Chart → Option ChartData

namespace Screen

/-- An empty screen with exactly the given slots. -/
def withSlots (slots : List String) : Screen := ⟨slots, fun _ => none, fun _ => [], fun _ => none⟩

/-- An empty screen with the default layout. -/
def default : Screen := withSlots defaultSlots

instance : Inhabited Screen := ⟨default⟩

def hasSlot (s : Screen) (slot : String) : Bool := s.slots.contains slot

/-- Replaces the content of a slot, whether or not it is declared. -/
def put (s : Screen) : Write → Screen
  | .field slot text => { s with field? := fun x => if x = slot then some text else s.field? x }
  | .rows t cells => { s with rows := fun x => if x = t then cells else s.rows x }
  | .chart c data => { s with chart? := fun x => if x = c then some data else s.chart? x }

/-- Replaces the content of a slot if it is declared. -/
def write (s : Screen) (w : Write) : Screen := if s.hasSlot w.slot then s.put w else s

/-- Carries out writes one after the other. -/
def writeAll (s : Screen) (ws : List Write) : Screen := ws.foldl write s

/-! ### Reading a screen that was written to -/

@[simp] theorem slots_put (s : Screen) (w : Write) : (s.put w).slots = s.slots := by
  cases w <;> rfl

@[simp] theorem slots_write (s : Screen) (w : Write) : (s.write w).slots = s.slots := by
  unfold write
  split <;> simp

@[simp] theorem hasSlot_write (s : Screen) (w : Write) (slot : String) :
    (s.write w).hasSlot slot = s.hasSlot slot := by
  simp [hasSlot]

@[simp] theorem writeAll_nil (s : Screen) : s.writeAll [] = s := rfl

@[simp] theorem writeAll_cons (s : Screen) (w : Write) (ws : List Write) :
    s.writeAll (w :: ws) = (s.write w).writeAll ws := rfl

@[simp] theorem slots_writeAll (s : Screen) (ws : List Write) :
    (s.writeAll ws).slots = s.slots := by
  induction ws generalizing s with
  | nil => rfl
  | cons w ws ih => simp [ih]

end Screen

end Telemetry
