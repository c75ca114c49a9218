import Telemetry.Proofs.Chart.Sliding
import Telemetry.Proofs.Dashboard.Projection

/-!
What is on display of a snapshot.

`Dashboard.Displays` spells out, source by source, what it means that a snapshot
is the one to be seen: the table is its table, the fields are its fields, and
the charts end in its values. That is how a run leaves the last update of each
source that it shows (`Dashboard.displays_run`), and so two runs that end in the
same snapshot of a source cannot be told apart by what this snapshot decides
(`Dashboard.read_run_congr`).
-/

namespace Telemetry

namespace Dashboard

variable {d : Dashboard} {screen : Screen} {s : Source} {p : Place} {capacity : Nat}
  {slots : List String} {us vs : List (Update × String)} {x : Update × String}

/-- The whole of a snapshot is on display wherever its slots are declared. A snapshot of the
metrics decides the fields that its samples name, of several samples the last, and the newest
point of each chart: its label is the one that the snapshot was shown under, and its values are,
series by series, that of the last sample of exactly this name, or zero without one. -/
def Displays (d : Dashboard) (screen : Screen) (label : String) : Snapshot → Prop
  | .connections rows =>
    screen.hasSlot Table.connections.slot → screen.rows .connections = rows.map Connection.cells
  | .hosts rows => screen.hasSlot Table.hosts.slot → screen.rows .hosts = rows.map HostTraffic.cells
  | .systemInfo info =>
    ∀ slot ∈ systemSlots, screen.hasSlot slot → screen.field? slot = some (info.text slot)
  | .metrics samples =>
    (∀ slot sample, screen.hasSlot slot →
      (samples.reverse.find? fun x => Readout.metricSlot x.name = slot) = some sample →
      screen.field? slot = some (Readout.metricValue sample.value)) ∧
    ∀ c : Chart,
      let values := c.series.map fun s =>
        ((samples.filter fun x => x.name = s.metric).getLast?.map MetricSample.value).getD .zero
      (d.history.window c).points.getLast? = some ⟨label, values⟩ ∧
      (screen.hasSlot c.slot → ∃ data, screen.chart? c = some data ∧
        data.labels.getLast? = some label ∧ data.series.map List.getLast? = values.map some)

/-- **What a run has on display.** -/
theorem displays_run
    (hlast : s.lastIn ((empty capacity).accepted (.withSlots slots) us) = some x) :
    ((empty capacity).run (.withSlots slots) us).dashboard.Displays
      ((empty capacity).run (.withSlots slots) us).screen x.2 x.1.snapshot := by
  obtain rfl := Source.source_of_lastIn hlast
  rcases x with ⟨⟨cycle, snapshot⟩, label⟩
  cases snapshot with
  | connections rows =>
      intro hslot
      rw [hasSlot_run] at hslot
      exact read_run_of_lastIn (p := .table .connections) (by simp) rfl hlast hslot
        (Snapshot.lastWritten?_connections _)
  | hosts rows =>
      intro hslot
      rw [hasSlot_run] at hslot
      exact read_run_of_lastIn (p := .table .hosts) (by simp) rfl hlast hslot
        (Snapshot.lastWritten?_hosts _)
  | systemInfo info =>
      intro slot hsystem hslot
      rw [hasSlot_run] at hslot
      exact read_run_of_lastIn (p := .field slot) (by simp) (Place.owner?_field_system hsystem)
        hlast hslot (Snapshot.lastWritten?_system hsystem _)
  | metrics samples =>
      refine ⟨?_, fun c => ?_⟩
      · intro slot sample hslot hsample
        rw [hasSlot_run] at hslot
        have hmetric : isMetricSlot slot := by
          have hname := List.find?_some hsample
          rw [← of_decide_eq_true hname]
          exact isMetricSlot_metricSlot sample.name
        refine read_run_of_lastIn (p := .field slot) (by simp) (Place.owner?_field_metric hmetric)
          hlast hslot ?_
        rw [Snapshot.lastWritten?_metric hmetric, Snapshot.samples, hsample, Option.map_some]
      · intro values
        have hvalues : values = c.valuesOf samples := (c.valuesOf_eq_getLast? samples).symm
        rw [hvalues]
        refine ⟨?_, fun hslot => chart?_run_empty hlast (by simpa using hslot)⟩
        rw [getLast?_points_run_empty, show Source.metrics.lastIn _ = _ from hlast]
        rfl

/-! ### Two runs that end in the same snapshot -/

theorem read_run_congr (hp : ∀ c, p ≠ .chart c) (howner : p.owner? = some s)
    (hlast : ((s.lastIn (d.accepted screen us)).map fun x => x.1.snapshot) =
      (s.lastIn (d.accepted screen vs)).map fun x => x.1.snapshot)
    (hwritten : ∀ x, s.lastIn (d.accepted screen us) = some x →
      (p.lastWritten? x.1.snapshot.writes).isSome) :
    (d.run screen us).screen.read p = (d.run screen vs).screen.read p := by
  cases hslot : screen.hasSlot p.slot with
  | false => rw [read_run_of_hasSlot_eq_false hslot, read_run_of_hasSlot_eq_false hslot]
  | true =>
      cases hus : s.lastIn (d.accepted screen us) with
      | none =>
          rw [hus, Option.map_none, eq_comm, Option.map_eq_none_iff] at hlast
          rw [read_run_of_lastIn_eq_none howner hus, read_run_of_lastIn_eq_none howner hlast]
      | some x =>
          rw [hus, Option.map_some, eq_comm, Option.map_eq_some_iff] at hlast
          obtain ⟨y, hvs, hsnapshot⟩ := hlast
          obtain ⟨v, hv⟩ := Option.isSome_iff_exists.1 (hwritten x hus)
          rw [read_run_of_lastIn hp howner hus hslot hv]
          rw [← hsnapshot] at hv
          rw [read_run_of_lastIn hp howner hvs hslot hv]

theorem rows_run_congr {t : Table}
    (hlast : ((t.source.lastIn (d.accepted screen us)).map fun x => x.1.snapshot) =
      (t.source.lastIn (d.accepted screen vs)).map fun x => x.1.snapshot) :
    (d.run screen us).screen.rows t = (d.run screen vs).screen.rows t := by
  refine read_run_congr (p := .table t) (by simp) rfl hlast fun x hx => ?_
  have hsource := Source.source_of_lastIn hx
  rcases x with ⟨⟨cycle, snapshot⟩, label⟩
  cases t <;> cases snapshot <;> first | rfl | exact nomatch hsource

theorem system_run_congr {slot : String} (hslot : slot ∈ systemSlots)
    (hlast : ((Source.systemInfo.lastIn (d.accepted screen us)).map fun x => x.1.snapshot) =
      (Source.systemInfo.lastIn (d.accepted screen vs)).map fun x => x.1.snapshot) :
    (d.run screen us).screen.field? slot = (d.run screen vs).screen.field? slot := by
  refine read_run_congr (p := .field slot) (by simp) (Place.owner?_field_system hslot) hlast
    fun x hx => ?_
  have hsource := Source.source_of_lastIn hx
  rcases x with ⟨⟨cycle, snapshot⟩, label⟩
  rw [Snapshot.lastWritten?_system hslot]
  cases snapshot with
  | systemInfo info => rfl
  | metrics samples => exact nomatch hsource
  | connections rows => exact nomatch hsource
  | hosts rows => exact nomatch hsource

theorem metric_run_congr {sample : MetricSample}
    (hlast : ((Source.metrics.lastIn (d.accepted screen us)).map fun x => x.1.snapshot) =
      (Source.metrics.lastIn (d.accepted screen vs)).map fun x => x.1.snapshot)
    (hsample : ∀ x, Source.metrics.lastIn (d.accepted screen us) = some x →
      sample ∈ x.1.snapshot.samples) :
    (d.run screen us).screen.field? (Readout.metricSlot sample.name) =
      (d.run screen vs).screen.field? (Readout.metricSlot sample.name) := by
  have hmetric : isMetricSlot (Readout.metricSlot sample.name) :=
    isMetricSlot_metricSlot sample.name
  refine read_run_congr (p := .field (Readout.metricSlot sample.name)) (by simp)
    (Place.owner?_field_metric hmetric) hlast fun x hx => ?_
  rw [Snapshot.lastWritten?_metric hmetric, Option.isSome_map, List.find?_isSome]
  exact ⟨sample, List.mem_reverse.2 (hsample x hx), by simp⟩

theorem values_run_congr
    (hlast : ((Source.metrics.lastIn ((empty capacity).accepted screen us)).map
        fun x => x.1.snapshot) =
      (Source.metrics.lastIn ((empty capacity).accepted screen vs)).map fun x => x.1.snapshot)
    (c : Chart) :
    (((empty capacity).run screen us).dashboard.history.window c).points.getLast?.map
        Point.values =
      (((empty capacity).run screen vs).dashboard.history.window c).points.getLast?.map
        Point.values := by
  have hvalues (ws : List (Update × String)) :
      (((empty capacity).run screen ws).dashboard.history.window c).points.getLast?.map
          Point.values =
        ((Source.metrics.lastIn ((empty capacity).accepted screen ws)).map
          fun x => x.1.snapshot).map fun snapshot => c.valuesOf snapshot.samples := by
    rw [getLast?_points_run_empty, Option.map_map, Option.map_map]
    rfl
  rw [hvalues, hvalues, hlast]

theorem chart_run_congr
    (hlast : ((Source.metrics.lastIn ((empty capacity).accepted (.withSlots slots) us)).map
        fun x => x.1.snapshot) =
      (Source.metrics.lastIn ((empty capacity).accepted (.withSlots slots) vs)).map
        fun x => x.1.snapshot)
    (c : Chart) :
    (((empty capacity).run (.withSlots slots) us).screen.chart? c).map
        (fun data => data.series.map List.getLast?) =
      (((empty capacity).run (.withSlots slots) vs).screen.chart? c).map
        fun data => data.series.map List.getLast? := by
  have hchart (ws : List (Update × String)) :
      (((empty capacity).run (.withSlots slots) ws).screen.chart? c).map
          (fun data => data.series.map List.getLast?) =
        if c.slot ∈ slots then
          ((Source.metrics.lastIn ((empty capacity).accepted (.withSlots slots) ws)).map
            fun x => x.1.snapshot).map fun snapshot => (c.valuesOf snapshot.samples).map some
        else none := by
    split
    · next hslot =>
        cases hws : Source.metrics.lastIn ((empty capacity).accepted (.withSlots slots) ws) with
        | none =>
            rw [← Screen.read_chart, read_run_of_lastIn_eq_none rfl hws]
            rfl
        | some x =>
            obtain ⟨data, hdata, -, hseries⟩ := chart?_run_empty hws hslot
            rw [hdata, Option.map_some, hseries]
            rfl
    · next hslot =>
        have hfalse : (Screen.withSlots slots).hasSlot (Place.chart c).slot = false :=
          Screen.hasSlot_withSlots_of_notMem hslot
        rw [← Screen.read_chart, read_run_of_hasSlot_eq_false hfalse]
        rfl
  rw [hchart, hchart, hlast]

end Dashboard

end Telemetry
