import Telemetry.Proofs.Chart.Advance

/-!
Windows and charts after any run from an empty history.

`Dashboard.points_run_empty` says which points a window holds. Read by columns,
the labels are those of the last snapshots of the metrics that were shown, and
each series is what one metric was worth in them, whichever slots the screen
declares. The screen in turn is a copy of the windows, taken after the points
have gone in.
-/

namespace Telemetry

/-- The value of a metric is that of the last of the samples of its name. -/
theorem sampleValue_eq_getLast? (samples : List MetricSample) (name : String) :
    sampleValue samples name =
      ((samples.filter fun s => s.name = name).getLast?.map MetricSample.value).getD .zero := by
  rw [sampleValue, List.getLast?_filter]
  cases samples.reverse.find? fun s => s.name = name <;> rfl

theorem Chart.valuesOf_eq_getLast? (c : Chart) (samples : List MetricSample) :
    c.valuesOf samples = c.series.map fun s =>
      ((samples.filter fun x => x.name = s.metric).getLast?.map MetricSample.value).getD .zero := by
  simp only [valuesOf, sampleValue_eq_getLast?]

/-- The values of a chart, read series by series instead of point by point. -/
theorem Window.allSeries_of_points {w : Window} {c : Chart} {us : List (Update × String)}
    (hcount : w.seriesCount = c.series.length)
    (hpoints : w.points = us.map fun x => ⟨x.2, c.valuesOf x.1.snapshot.samples⟩) :
    w.allSeries =
      c.series.map fun s => us.map fun x => sampleValue x.1.snapshot.samples s.metric := by
  refine List.ext_getElem (by simp [allSeries, hcount]) fun i h₁ h₂ => ?_
  have hi : i < c.series.length := by simpa using h₂
  have hvalue (x : Update × String) : (c.valuesOf x.1.snapshot.samples)[i]? =
      some (sampleValue x.1.snapshot.samples c.series[i].metric) := by
    simp [Chart.valuesOf, hi]
  simp [allSeries, hpoints, List.filterMap_map, hvalue]

namespace Dashboard

theorem points_run_empty_eq_map (capacity : Nat) (screen : Screen) (us : List (Update × String))
    (c : Chart) :
    (((empty capacity).run screen us).dashboard.history.window c).points =
      ((Source.metrics.updatesIn ((empty capacity).accepted screen us)).rtake (max capacity 1)).map
        fun x => ⟨x.2, c.valuesOf x.1.snapshot.samples⟩ := by
  rw [points_run_empty, Chart.pointsIn, rtake_map]

theorem push_run_empty (capacity : Nat) (screen : Screen) (us : List (Update × String))
    (c : Chart) (samples : List MetricSample) (label : String) :
    (((empty capacity).run screen us).dashboard.history.window c).push label (c.valuesOf samples) =
      .ok ((((empty capacity).run screen us).dashboard.history.record samples label).window c) := by
  have hfits : ((empty capacity).run screen us).dashboard.history.Fits :=
    fits_run (ChartHistory.fits_empty capacity) us
  have hwidth := hfits c
  rw [ChartHistory.window_record, ChartHistory.extend_of_fits hwidth, Window.push,
    if_pos (by rw [Chart.length_valuesOf, hwidth])]

theorem points_run_empty_eq_nil (capacity : Nat) (screen : Screen) (us : List (Update × String))
    (c : Chart) :
    (((empty capacity).run screen us).dashboard.history.window c).points = [] ↔
      Source.metrics.updatesIn ((empty capacity).accepted screen us) = [] := by
  rw [points_run_empty_eq_map, List.map_eq_nil_iff]
  constructor
  · -- a window keeps at least one point, so it is empty only if nothing was ever shown
    intro hnil
    rw [List.rtake, List.drop_eq_nil_iff] at hnil
    have hpos : 1 ≤ max capacity 1 := Nat.le_max_right _ _
    exact List.eq_nil_of_length_eq_zero (by omega)
  · intro hnil
    rw [hnil, List.rtake_nil]

theorem chart?_run_withSlots (capacity : Nat) (slots : List String) (us : List (Update × String))
    (c : Chart) :
    ((empty capacity).run (.withSlots slots) us).screen.chart? c =
      if c.slot ∈ slots ∧
          Source.metrics.updatesIn ((empty capacity).accepted (.withSlots slots) us) ≠ [] then
        some (((empty capacity).run (.withSlots slots) us).dashboard.history.window c).data
      else none := by
  by_cases hslot : c.slot ∈ slots
  · have hfits : (empty capacity).history.Fits := ChartHistory.fits_empty capacity
    have hsync := inSync_run hfits (inSync_withSlots capacity slots) us c (by simpa using hslot)
    simp only [points_run_empty_eq_nil] at hsync
    rw [hsync]
    simp [hslot]
  · have hfalse : (Screen.withSlots slots).hasSlot (Place.chart c).slot = false :=
      Screen.hasSlot_withSlots_of_notMem hslot
    rw [if_neg (fun h => hslot h.1), ← Screen.read_chart, read_run_of_hasSlot_eq_false hfalse]
    rfl

/-- **The charts slide together, and the screen with them.** Of the snapshots of the metrics that
a run has shown, every chart keeps the last ones, as many as its capacity allows and at least
one: their labels, and for each of its series the value of the metric in each of them. No point
is ever refused. A declared chart is the copy of its window as soon as there is a point in it; a
chart that is not declared remains without content, while its window advances all the same. -/
theorem charts_run_withSlots (capacity : Nat) (slots : List String) (us : List (Update × String)) :
    let run := (empty capacity).run (.withSlots slots) us
    let applied := Source.metrics.updatesIn ((empty capacity).accepted (.withSlots slots) us)
    let kept := applied.rtake (min applied.length (max capacity 1))
    (∀ c : Chart, (run.dashboard.history.window c).labels = kept.map fun x => x.2) ∧
    (∀ c : Chart, (run.dashboard.history.window c).allSeries.length = c.series.length ∧
      ∀ (j : Nat) (s : Series), c.series[j]? = some s →
        (run.dashboard.history.window c).allSeries[j]? = some (kept.map fun x =>
          ((x.1.snapshot.samples.filter fun sample => sample.name = s.metric).getLast?.map
            MetricSample.value).getD .zero)) ∧
    (∀ (c : Chart) (samples : List MetricSample) (label : String),
      (run.dashboard.history.window c).push label (c.valuesOf samples) =
        .ok ((run.dashboard.history.record samples label).window c)) ∧
    (∀ c : Chart, run.screen.chart? c =
      if c.slot ∈ slots ∧ applied ≠ [] then
        some ⟨(run.dashboard.history.window c).labels, (run.dashboard.history.window c).allSeries⟩
      else none) := by
  intro run applied kept
  have hkept : kept = applied.rtake (max capacity 1) := rtake_min_length _ _
  have hpoints (c : Chart) := points_run_empty_eq_map capacity (.withSlots slots) us c
  have hfits : run.dashboard.history.Fits := fits_run (ChartHistory.fits_empty capacity) us
  have hseries (c : Chart) := Window.allSeries_of_points (hfits c) (hpoints c)
  refine ⟨?_, ?_, ?_, ?_⟩
  · intro c
    rw [Window.labels, hpoints c, List.map_map, hkept]
    rfl
  · intro c
    rw [hseries c]
    refine ⟨by simp, fun j s hs => ?_⟩
    simp only [List.getElem?_map, hs, Option.map_some, sampleValue_eq_getLast?, hkept]
    rfl
  · intro c samples label
    exact push_run_empty capacity (.withSlots slots) us c samples label
  · intro c
    exact chart?_run_withSlots capacity slots us c

end Dashboard

end Telemetry
