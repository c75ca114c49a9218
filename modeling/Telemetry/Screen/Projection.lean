import Telemetry.Chart.History
import Telemetry.Readout.ByteSize
import Telemetry.Readout.Uptime
import Telemetry.Screen.Basic

/-!
From snapshots to writes.

What a snapshot shows is a list of writes, computed without looking at the
screen; only those whose slot is declared are then carried out. A table is
always replaced as a whole. A metric is written slot by slot, so a later sample
of the same slot wins.
-/

namespace Telemetry

/-- The row of a connection: addresses, protocol, bytes and packets in both directions. -/
def Connection.cells (c : Connection) : Cells :=
  [c.source, c.destination, Readout.protocolName c.protocol,
   Readout.byteSize (Readout.addSaturating c.bytesSent c.bytesReceived),
   toString (Readout.addSaturating c.packetsSent c.packetsReceived).toNat]

/-- The row of a host: address and bytes. -/
def HostTraffic.cells (h : HostTraffic) : Cells := [h.ip, Readout.byteSize h.bytes]

/-- The write that shows one sample as a field. -/
def MetricSample.toWrite (s : MetricSample) : Write :=
  .field (Readout.metricSlot s.name) (Readout.metricValue s.value)

/-- The writes of the four system fields. -/
def SystemInfo.writes (info : SystemInfo) : List Write :=
  [.field hostnameSlot info.hostname, .field platformSlot info.platform,
   .field cpuCountSlot (toString info.cpuCount.toNat),
   .field uptimeSlot (Readout.uptime info.uptime)]

/-- The write that shows a chart's window. -/
def Window.toWrite (chart : Chart) (w : Window) : Write :=
  .chart chart ⟨w.labels, w.allSeries⟩

/-- The write that shows a chart once the point of a snapshot is appended to its window. A point
that the window refuses is not shown either. -/
def Window.writeOf? (samples : List MetricSample) (label : String) (c : Chart) (w : Window) :
    Option Write :=
  match w.push label (c.valuesOf samples) with
  | .ok w => some (w.toWrite c)
  | .error _ => none

/-- The writes that show the charts once a snapshot is recorded. -/
def ChartHistory.writes (h : ChartHistory) (samples : List MetricSample) (label : String) :
    List Write :=
  Chart.all.filterMap fun c => (h.window c).writeOf? samples label c

/-- The writes of a snapshot, charts aside. -/
def Snapshot.writes : Snapshot → List Write
  | .metrics samples => samples.map MetricSample.toWrite
  | .connections rows => [.rows .connections (rows.map Connection.cells)]
  | .hosts rows => [.rows .hosts (rows.map HostTraffic.cells)]
  | .systemInfo info => info.writes

/-- The writes whose slot a screen declares. -/
def Screen.declared (s : Screen) (ws : List Write) : List Write :=
  ws.filter fun w => s.hasSlot w.slot

theorem Screen.write_eq_self {s : Screen} {w : Write} (h : s.hasSlot w.slot = false) :
    s.write w = s := by
  simp [Screen.write, h]

/-- Carrying out the declared writes is carrying out all of them. -/
@[simp] theorem Screen.writeAll_declared (s : Screen) (ws : List Write) :
    s.writeAll (s.declared ws) = s.writeAll ws := by
  suffices ∀ t : Screen, t.slots = s.slots → t.writeAll (s.declared ws) = t.writeAll ws from
    this s rfl
  induction ws with
  | nil => simp [Screen.declared]
  | cons w ws ih =>
    intro t ht
    by_cases hw : s.hasSlot w.slot
    · have hcons : s.declared (w :: ws) = w :: s.declared ws := by simp [Screen.declared, hw]
      rw [hcons, writeAll_cons, writeAll_cons]
      exact ih _ (by simp [ht])
    · have hcons : s.declared (w :: ws) = s.declared ws := by simp [Screen.declared, hw]
      have hself : t.write w = t := by
        apply Screen.write_eq_self
        simpa [Screen.hasSlot, ht] using hw
      rw [hcons, writeAll_cons, hself]
      exact ih t ht

end Telemetry
