import Telemetry.Proofs.Dashboard.Accepted
import Telemetry.Proofs.Snapshot.Parts

/-!
The screen as a function of the history.

The renderers write to the screen piece by piece, but what it shows in the end
needs no account of that: a table shows the last snapshot of its source, a field
of the system the last description of the machine, and the field of a metric the
last sample, of all samples that were ever shown, whose name leads to that
field. The lemmas `lastWritten?_…` say what a single snapshot leaves in each
kind of place, and `Dashboard.read_run` carries them over a run.
-/

namespace Telemetry

/-! ### What a snapshot leaves in a place -/

theorem Readout.toNat_addSaturating (a b : UInt64) :
    (addSaturating a b).toNat = min (a.toNat + b.toNat) (2 ^ 64 - 1) :=
  UInt64.toNat_ofNat_of_lt' (by simp only [UInt64.size]; omega)

theorem Connection.cells_eq (c : Connection) :
    c.cells =
      [c.source, c.destination, Readout.protocolName c.protocol,
        Readout.byteSize
          (UInt64.ofNat (min (c.bytesSent.toNat + c.bytesReceived.toNat) (2 ^ 64 - 1))),
        toString (min (c.packetsSent.toNat + c.packetsReceived.toNat) (2 ^ 64 - 1))] := by
  rw [cells, Readout.toNat_addSaturating]
  rfl

/-- What a description of the machine puts into a field of the system. -/
def SystemInfo.text (info : SystemInfo) (slot : String) : String :=
  if slot = hostnameSlot then info.hostname
  else if slot = platformSlot then info.platform
  else if slot = cpuCountSlot then toString info.cpuCount.toNat
  else Readout.uptime info.uptime

namespace Snapshot

theorem lastWritten?_writes_eq_none {snapshot : Snapshot} {p : Place}
    (h : p.owner? ≠ some snapshot.source) : p.lastWritten? snapshot.writes = none := by
  refine Place.lastWritten?_eq_none ?_
  rintro w hw rfl
  exact h (owner?_of_mem_writes hw)

theorem lastWritten?_connections (snapshot : Snapshot) :
    (Place.table .connections).lastWritten? snapshot.writes =
      snapshot.connections?.map fun rows => rows.map Connection.cells := by
  cases snapshot with
  | connections rows => rfl
  | metrics samples => exact lastWritten?_writes_eq_none (by simp [Place.owner?, Table.source])
  | hosts rows => rfl
  | systemInfo info => rfl

theorem lastWritten?_hosts (snapshot : Snapshot) :
    (Place.table .hosts).lastWritten? snapshot.writes =
      snapshot.hosts?.map fun rows => rows.map HostTraffic.cells := by
  cases snapshot with
  | hosts rows => rfl
  | metrics samples => exact lastWritten?_writes_eq_none (by simp [Place.owner?, Table.source])
  | connections rows => rfl
  | systemInfo info => rfl

theorem lastWritten?_system {slot : String} (h : slot ∈ systemSlots) (snapshot : Snapshot) :
    (Place.field slot).lastWritten? snapshot.writes =
      snapshot.systemInfo?.map fun info => some (info.text slot) := by
  cases snapshot with
  | systemInfo info =>
      rcases mem_systemSlots.1 h with rfl | rfl | rfl | rfl <;>
        simp [writes, SystemInfo.writes, systemInfo?, SystemInfo.text, Place.written?,
          hostnameSlot, platformSlot, cpuCountSlot, uptimeSlot]
  | metrics samples =>
      exact lastWritten?_writes_eq_none (by simp [Place.owner?_field_system h])
  | connections rows => rfl
  | hosts rows => rfl

theorem lastWritten?_metric {slot : String} (h : isMetricSlot slot) (snapshot : Snapshot) :
    (Place.field slot).lastWritten? snapshot.writes =
      (snapshot.samples.reverse.find? fun x => Readout.metricSlot x.name = slot).map
        fun x => some (Readout.metricValue x.value) := by
  cases snapshot with
  | metrics samples =>
      rw [writes, Place.lastWritten?, ← List.map_reverse, List.findSome?_map, Snapshot.samples]
      induction samples.reverse with
      | nil => rfl
      | cons x rest ih =>
          by_cases hx : Readout.metricSlot x.name = slot
          · simp [MetricSample.toWrite, Place.written?, hx]
          · simpa [MetricSample.toWrite, Place.written?, hx, Ne.symm hx] using ih
  | systemInfo info =>
      exact lastWritten?_writes_eq_none (by simp [Place.owner?_field_metric h])
  | connections rows => rfl
  | hosts rows => rfl

end Snapshot

/-- What the last of a list of lists ends with, among the items of a kind, is the last item of
that kind in all of them. -/
theorem getLast?_filterMap_find? {α β : Type} (l : List α) (f : α → List β) (q : β → Bool) :
    (l.filterMap fun a => (f a).reverse.find? q).getLast? = ((l.flatMap f).filter q).getLast? := by
  rw [List.getLast?_filterMap, List.getLast?_filter, List.reverse_flatMap, List.find?_flatMap]
  rfl

namespace Dashboard

/-! ### What a run leaves in a place -/

/-- The snapshots that a run shows, in order. -/
def shownSnapshots (d : Dashboard) (screen : Screen) (us : List (Update × String)) :
    List Snapshot :=
  (d.accepted screen us).map fun x => x.1.snapshot

/-- A place that shows a part of the snapshots of some kind shows that of the last of them. -/
theorem read_run_eq_getLast? {p : Place} {β : Type} {f : Snapshot → Option β} {g : β → p.Content}
    (hp : ∀ c, p ≠ .chart c)
    (hwritten : ∀ snapshot : Snapshot, p.lastWritten? snapshot.writes = (f snapshot).map g)
    (d : Dashboard) (screen : Screen) (us : List (Update × String)) :
    (d.run screen us).screen.read p =
      if screen.hasSlot p.slot then
        (((d.shownSnapshots screen us).filterMap f).getLast?.map g).getD (screen.read p)
      else screen.read p := by
  have hsearch : ((d.accepted screen us).reverse.findSome? fun x =>
        p.lastWritten? x.1.snapshot.writes) =
      ((d.shownSnapshots screen us).filterMap f).getLast?.map g := by
    rw [shownSnapshots, List.filterMap_map, List.getLast?_filterMap, List.map_findSome?]
    simp only [hwritten]
    rfl
  rw [read_run hp, hsearch]

theorem rows_run_withSlots {t : Table} {β : Type} {f : Snapshot → Option (List β)} {g : β → Cells}
    (hwritten : ∀ snapshot : Snapshot, (Place.table t).lastWritten? snapshot.writes =
      (f snapshot).map fun rows => rows.map g)
    (d : Dashboard) (slots : List String) (us : List (Update × String)) :
    (d.run (.withSlots slots) us).screen.rows t =
      if t.slot ∈ slots then
        (((d.shownSnapshots (.withSlots slots) us).filterMap f).getLast?.getD []).map g
      else [] := by
  have hread := read_run_eq_getLast? (by simp) hwritten d (.withSlots slots) us
  simp only [Screen.hasSlot_withSlots] at hread
  refine hread.trans ?_
  congr 1
  exact Option.getD_map (fun rows => rows.map g) [] _

theorem field?_run_withSlots {slot : String} {β : Type} {f : Snapshot → Option β} {g : β → String}
    (hwritten : ∀ snapshot : Snapshot, (Place.field slot).lastWritten? snapshot.writes =
      (f snapshot).map fun b => some (g b))
    (d : Dashboard) (slots : List String) (us : List (Update × String)) :
    (d.run (.withSlots slots) us).screen.field? slot =
      if slot ∈ slots then
        ((d.shownSnapshots (.withSlots slots) us).filterMap f).getLast?.map g
      else none := by
  have hread := read_run_eq_getLast? (by simp) hwritten d (.withSlots slots) us
  simp only [Screen.hasSlot_withSlots] at hread
  refine hread.trans ?_
  congr 1
  cases ((d.shownSnapshots (.withSlots slots) us).filterMap f).getLast? <;> rfl

/-- **The screen is a projection of what was shown.** Whatever the dashboard is at the start and
whatever is received, on a screen that was empty each table shows the rows of the last snapshot
of its source, each field of the system the last description of the machine, and the field of a
metric the last sample whose name leads to it, among all samples that were shown. This holds
where the slot is declared; there is nothing anywhere else. -/
theorem screen_run_withSlots (d : Dashboard) (slots : List String)
    (us : List (Update × String)) :
    let run := d.run (.withSlots slots) us
    let shown := d.shownSnapshots (.withSlots slots) us
    let info? := (shown.filterMap Snapshot.systemInfo?).getLast?
    (run.screen.rows .connections =
      if Table.connections.slot ∈ slots then
        ((shown.filterMap Snapshot.connections?).getLast?.getD []).map fun c =>
          [c.source, c.destination, Readout.protocolName c.protocol,
            Readout.byteSize
              (UInt64.ofNat (min (c.bytesSent.toNat + c.bytesReceived.toNat) (2 ^ 64 - 1))),
            toString (min (c.packetsSent.toNat + c.packetsReceived.toNat) (2 ^ 64 - 1))]
      else []) ∧
    (run.screen.rows .hosts =
      if Table.hosts.slot ∈ slots then
        ((shown.filterMap Snapshot.hosts?).getLast?.getD []).map fun h =>
          [h.ip, Readout.byteSize h.bytes]
      else []) ∧
    (run.screen.field? hostnameSlot =
      if hostnameSlot ∈ slots then info?.map fun info => info.hostname else none) ∧
    (run.screen.field? platformSlot =
      if platformSlot ∈ slots then info?.map fun info => info.platform else none) ∧
    (run.screen.field? cpuCountSlot =
      if cpuCountSlot ∈ slots then info?.map fun info => toString info.cpuCount.toNat else none) ∧
    (run.screen.field? uptimeSlot =
      if uptimeSlot ∈ slots then info?.map fun info => Readout.uptime info.uptime else none) ∧
    (∀ slot, isMetricSlot slot → run.screen.field? slot =
      if slot ∈ slots then
        ((shown.flatMap Snapshot.samples).filter
          fun x => Readout.metricSlot x.name = slot).getLast?.map
            fun x => Readout.metricValue x.value
      else none) ∧
    (∀ slot, isMetricSlot slot = false → slot ∉ systemSlots → run.screen.field? slot = none) ∧
    (∀ c : Chart, c.slot ∉ slots → run.screen.chart? c = none) ∧
    (∀ w ∈ run.writes,
      w.slot ∈ slots ∧ ∃ snapshot ∈ shown, w.place.owner? = some snapshot.source) := by
  intro run shown info?
  have hsystem (slot : String) (h : slot ∈ systemSlots) : run.screen.field? slot =
      if slot ∈ slots then info?.map fun info => info.text slot else none :=
    field?_run_withSlots (Snapshot.lastWritten?_system h) d slots us
  refine ⟨?_, ?_, ?_, ?_, ?_, ?_, ?_, ?_, ?_, ?_⟩
  · simp only [← Connection.cells_eq]
    exact rows_run_withSlots Snapshot.lastWritten?_connections d slots us
  · exact rows_run_withSlots Snapshot.lastWritten?_hosts d slots us
  · exact hsystem hostnameSlot (by decide)
  · exact hsystem platformSlot (by decide)
  · exact hsystem cpuCountSlot (by decide)
  · exact hsystem uptimeSlot (by decide)
  · intro slot hslot
    rw [← getLast?_filterMap_find?]
    exact field?_run_withSlots (Snapshot.lastWritten?_metric hslot) d slots us
  · intro slot hmetric hsys
    have howner : (Place.field slot).owner? = none := by simp [Place.owner?, hmetric, hsys]
    exact read_run_of_owner?_eq_none howner us
  · intro c hc
    have hslot : (Screen.withSlots slots).hasSlot (Place.chart c).slot = false :=
      Screen.hasSlot_withSlots_of_notMem hc
    exact read_run_of_hasSlot_eq_false hslot us
  · intro w hw
    obtain ⟨hslot, x, hx, howner⟩ := mem_writes_run hw
    exact ⟨by simpa using hslot, x.1.snapshot, List.mem_map_of_mem hx, howner⟩

/-- Two names of metrics lead to one field. Its sample of the second cycle stays, since the
third snapshot names another metric and the fourth is late. -/
theorem screen_run_withSlots_shared :
    let us : List (Update × String) :=
      [(⟨1, .metrics [⟨"cpu.load", ⟨1⟩⟩]⟩, "12:00:01"),
        (⟨2, .metrics [⟨"cpu.load", ⟨2⟩⟩, ⟨"cpu-load", ⟨3⟩⟩]⟩, "12:00:02"),
        (⟨3, .metrics [⟨"memory", ⟨4⟩⟩]⟩, "12:00:03"),
        (⟨1, .metrics [⟨"cpu.load", ⟨5⟩⟩]⟩, "12:00:04")]
    isMetricSlot "metric-cpu-load" ∧
      (default.run (.withSlots ["metric-cpu-load"]) us).screen.field? "metric-cpu-load" =
        some (Readout.metricValue ⟨3⟩) := by
  intro us
  have hmetric : isMetricSlot "metric-cpu-load" := by decide
  refine ⟨hmetric, ?_⟩
  obtain ⟨-, -, -, -, -, -, hfield, -⟩ := screen_run_withSlots default ["metric-cpu-load"] us
  rw [hfield "metric-cpu-load" hmetric, if_pos (by decide)]
  rfl

end Dashboard

end Telemetry
