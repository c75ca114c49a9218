import Telemetry.Proofs.Chart.Sliding
import Telemetry.Terminal.ChartView

/-!
The lines of a chart.

A chart is drawn by pairing series with captions and colors, and the places of its
points are counted from the first label. Pairing passes over what has no partner, so
one series too many or one value too few would go unnoticed. It does not happen: what
a screen shows of a chart was copied from a window that is as wide as the chart draws
series and that keeps its labels and values together, so it is complete
(`Chart.IsComplete`). Each series then makes a line, with a point for each label, from
one end of the horizontal axis to the other, and only its value can keep a point from
being drawn (`Dashboard.plot_run_withSlots`).
-/

namespace Telemetry

namespace Chart

variable {c : Chart} {data : ChartData} {values : List Binary64} {point : Nat × Binary64}

/-! ### Lists of their own -/

/-- The metrics that a chart draws, in order. -/
def metrics : Chart → List String
  | .cpu => ["cpu.usage"]
  | .memory => ["memory.usage_percent"]
  | .network => ["network.bytes_in_per_sec", "network.bytes_out_per_sec"]

/-- How the lines of a chart are called, in order. -/
def captions : Chart → List String
  | .cpu => ["CPU Usage %"]
  | .memory => ["Memory Usage %"]
  | .network => ["Bytes In", "Bytes Out"]

/-- The colors of the lines of a chart, in order. -/
def colors : Chart → List Color
  | .cpu => [.rgb 54 162 235]
  | .memory => [.rgb 255 99 132]
  | .network => [.rgb 75 192 192, .rgb 153 102 255]

theorem map_metric_series (c : Chart) : c.series.map (·.metric) = c.metrics := by
  cases c <;> rfl

theorem map_caption_series (c : Chart) : c.series.map (·.caption) = c.captions := by
  cases c <;> rfl

theorem map_color_series (c : Chart) : c.series.map (·.color) = c.colors := by
  cases c <;> rfl

/-- It makes no difference whether captions and colors come from one list or from two. -/
theorem zip_captions_zip_colors (c : Chart) (series : List (List Binary64)) :
    ((series.map pointsOf).zip c.captions).zip c.colors =
      (c.linesOf series).map fun l => ((l.points, l.series.caption), l.series.color) := by
  rw [← map_caption_series, ← map_color_series]
  refine List.ext_getElem (by simp [linesOf]) fun i h₁ h₂ => ?_
  simp [linesOf]

/-! ### The points of a line -/

@[simp] theorem length_pointsOf (values : List Binary64) :
    (pointsOf values).length = values.length := by
  simp [pointsOf]

theorem getElem?_pointsOf (values : List Binary64) (i : Nat) :
    (pointsOf values)[i]? = values[i]?.map fun x => (i, x) := by
  simp [pointsOf, List.getElem?_zipIdx, Function.comp_def]

theorem head?_pointsOf (values : List Binary64) :
    (pointsOf values).head? = values.head?.map fun x => (0, x) := by
  rw [List.head?_eq_getElem?, List.head?_eq_getElem?, getElem?_pointsOf]

theorem getLast?_pointsOf (values : List Binary64) :
    (pointsOf values).getLast? = values.getLast?.map fun x => (values.length - 1, x) := by
  rw [List.getLast?_eq_getElem?, List.getLast?_eq_getElem?, getElem?_pointsOf, length_pointsOf]

theorem lt_length_of_mem_pointsOf (h : point ∈ pointsOf values) : point.1 < values.length := by
  obtain ⟨i, hi⟩ := List.mem_iff_getElem?.mp h
  rw [getElem?_pointsOf] at hi
  obtain ⟨x, hx, rfl⟩ := Option.map_eq_some_iff.mp hi
  exact (List.getElem?_eq_some_iff.mp hx).1

/-! ### Complete data -/

/-- There is one series per line of the chart, each with one value per label, and there is a
label. -/
structure IsComplete (c : Chart) (data : ChartData) : Prop where
  length_series : data.series.length = c.series.length
  length_values : ∀ values ∈ data.series, values.length = data.labels.length
  labels_ne_nil : data.labels ≠ []

namespace IsComplete

variable (h : c.IsComplete data)

include h

theorem length_pos : 0 < data.labels.length := List.length_pos_iff.mpr h.labels_ne_nil

theorem map_points_lines : (c.plot data).lines.map (·.points) = data.series.map pointsOf := by
  calc
    _ = ((data.series.zip c.series).map Prod.fst).map pointsOf := by
      simp [plot, linesOf, Function.comp_def]
    _ = data.series.map pointsOf := by rw [List.map_fst_zip h.length_series.le]

theorem map_series_lines : (c.plot data).lines.map (·.series) = c.series := by
  calc
    _ = (data.series.zip c.series).map Prod.snd := by simp [plot, linesOf, Function.comp_def]
    _ = c.series := List.map_snd_zip h.length_series.ge

/-- A line is drawn through as many values as there are labels. -/
theorem exists_values {l : PlotLine} (hl : l ∈ (c.plot data).lines) :
    ∃ values, values.length = data.labels.length ∧ l.points = pointsOf values := by
  have hpoints : l.points ∈ data.series.map pointsOf := by
    rw [← h.map_points_lines]
    exact List.mem_map_of_mem hl
  obtain ⟨values, hvalues, hl⟩ := List.mem_map.mp hpoints
  exact ⟨values, h.length_values values hvalues, hl.symm⟩

theorem getElem?_lines {l : PlotLine} {j : Nat} (hl : (c.plot data).lines[j]? = some l) :
    c.series[j]? = some l.series ∧ data.series[j]?.map pointsOf = some l.points := by
  rw [← h.map_series_lines, ← List.getElem?_map, ← h.map_points_lines, List.getElem?_map,
    List.getElem?_map, hl]
  exact ⟨rfl, rfl⟩

/-! ### From one end of the axis to the other -/

theorem le_right {l : PlotLine} (hl : l ∈ (c.plot data).lines) (hpoint : point ∈ l.points) :
    point.1 ≤ (c.plot data).right := by
  obtain ⟨values, hlength, hpoints⟩ := h.exists_values hl
  rw [hpoints] at hpoint
  have hlt := lt_length_of_mem_pointsOf hpoint
  show point.1 ≤ max (data.labels.length - 1) 1
  omega

theorem head?_points {l : PlotLine} (hl : l ∈ (c.plot data).lines) :
    l.points.head?.map Prod.fst = some 0 := by
  obtain ⟨values, hlength, hpoints⟩ := h.exists_values hl
  have hfirst : 0 < values.length := hlength ▸ h.length_pos
  rw [hpoints, head?_pointsOf, List.head?_eq_getElem?, List.getElem?_eq_getElem hfirst]
  rfl

theorem getLast?_points {l : PlotLine} (hl : l ∈ (c.plot data).lines)
    (htwo : 2 ≤ data.labels.length) :
    l.points.getLast?.map Prod.fst = some (c.plot data).right := by
  obtain ⟨values, hlength, hpoints⟩ := h.exists_values hl
  have hlast : values.length - 1 < values.length := by omega
  have hright : (c.plot data).right = values.length - 1 := by
    show max (data.labels.length - 1) 1 = _
    omega
  rw [hpoints, getLast?_pointsOf, List.getLast?_eq_getElem?, List.getElem?_eq_getElem hlast, hright]
  rfl

theorem head?_labels : data.labels.head? = some (c.plot data).firstLabel := by
  show _ = some (data.labels.head?.getD "")
  rw [List.head?_eq_some_head h.labels_ne_nil, Option.getD_some]

theorem getLast?_labels : data.labels.getLast? = some (c.plot data).lastLabel := by
  show _ = some (data.labels.getLast?.getD "")
  rw [List.getLast?_eq_some_getLast h.labels_ne_nil, Option.getD_some]

/-! ### The title -/

theorem map_newest :
    (c.newest data.series).map some = (c.plot data).lines.map fun l =>
      l.points.getLast?.map fun point => l.series.caption ++ ": " ++ c.valueText point.2 := by
  have hnewest : ∀ x ∈ data.series.zip c.series, ∃ text,
      (x.1.getLast?.map fun value => x.2.caption ++ ": " ++ c.valueText value) = some text := by
    intro x hx
    have hvalues : x.1 ≠ [] := by
      rw [← List.length_pos_iff, h.length_values x.1 (List.of_mem_zip hx).1]
      exact h.length_pos
    rw [List.getLast?_eq_some_getLast hvalues]
    exact ⟨_, rfl⟩
  show ((data.series.zip c.series).filterMap _).map some = ((data.series.zip c.series).map _).map _
  rw [map_some_filterMap hnewest, List.map_map]
  refine List.map_congr_left fun x _ => ?_
  show _ = (pointsOf x.1).getLast?.map _
  rw [getLast?_pointsOf, Option.map_map]
  rfl

theorem title_plot :
    (c.plot data).title = c.title ++ " (now: " ++ " | ".intercalate (c.newest data.series) ++ ")" := by
  show c.titleOf data.series = _
  rw [titleOf]
  split
  · next hnil =>
      -- no chart is without lines
      have hlines : (c.plot data).lines = [] := by
        have hmap := h.map_newest
        rw [hnil] at hmap
        exact List.map_eq_nil_iff.mp hmap.symm
      have hseries := h.map_series_lines
      rw [hlines] at hseries
      exact absurd hseries.symm c.series_ne_nil
  · rfl

end IsComplete

end Chart

/-! ### Dots -/

namespace Terminal

variable {p : Plot} {point : Nat × Binary64}

/-- Between the ends of the horizontal axis a point has a dot, and within the columns of the grid,
unless its value is beyond an end of the vertical axis. -/
theorem exists_dotOf_iff (hplace : point.1 ≤ p.right) (columns rows : Nat) :
    (∃ dot, dotOf columns rows p point = some dot ∧ dot.1 ≤ columns - 1) ↔
      point.2.lt .zero = false ∧ p.top.lt point.2 = false := by
  rw [dotOf]
  constructor
  · rintro ⟨dot, hdot, -⟩
    split at hdot
    · exact nomatch hdot
    · next hinside => simpa [hplace.not_gt] using hinside
  · intro hvalue
    rw [if_neg (by simp [hvalue, hplace.not_gt])]
    exact ⟨_, rfl, Nat.div_le_of_le_mul (Nat.mul_le_mul_right _ hplace)⟩

end Terminal

/-! ### What a run shows -/

namespace Dashboard

open Terminal

variable {capacity : Nat} {slots : List String} {us : List (Update × String)} {c : Chart}
  {data : ChartData}

/-- What is shown of a chart are the labels of the last updates, and for each series the values
pushed with them. -/
theorem data_of_chart?_run
    (hdata : ((empty capacity).run (.withSlots slots) us).screen.chart? c = some data) :
    let applied := Source.metrics.updatesIn ((empty capacity).accepted (.withSlots slots) us)
    let kept := applied.rtake (max capacity 1)
    kept ≠ [] ∧ data.labels = kept.map (·.2) ∧
      data.series = c.series.map fun s =>
        kept.map fun x => sampleValue x.1.snapshot.samples s.metric := by
  intro applied kept
  have hpoints := points_run_empty_eq_map capacity (.withSlots slots) us c
  have hfits : ((empty capacity).run (.withSlots slots) us).dashboard.history.Fits :=
    fits_run (ChartHistory.fits_empty capacity) us
  rw [chart?_run_withSlots] at hdata
  split at hdata
  · next hshown =>
      obtain rfl := Option.some.inj hdata
      refine ⟨?_, ?_, ?_⟩
      · rw [Ne, ← points_run_empty_eq_nil (c := c), hpoints, List.map_eq_nil_iff] at hshown
        exact hshown.2
      · show Window.labels _ = _
        rw [Window.labels, hpoints, List.map_map]
        rfl
      · exact Window.allSeries_of_points (hfits c) hpoints
  · cases hdata

theorem isComplete_of_chart?_run
    (hdata : ((empty capacity).run (.withSlots slots) us).screen.chart? c = some data) :
    c.IsComplete data := by
  obtain ⟨hkept, hlabels, hseries⟩ := data_of_chart?_run hdata
  refine ⟨?_, ?_, ?_⟩
  · rw [hseries, List.length_map]
  · intro values hvalues
    rw [hseries] at hvalues
    obtain ⟨s, -, rfl⟩ := List.mem_map.mp hvalues
    rw [hlabels, List.length_map, List.length_map]
  · rw [hlabels]
    simpa using hkept

/-- A line is drawn through what its metric was worth in the last updates. -/
theorem points_of_mem_lines
    (hdata : ((empty capacity).run (.withSlots slots) us).screen.chart? c = some data)
    {l : PlotLine} (hl : l ∈ (c.plot data).lines) :
    let applied := Source.metrics.updatesIn ((empty capacity).accepted (.withSlots slots) us)
    l.points = Chart.pointsOf ((applied.rtake (max capacity 1)).map fun x =>
      sampleValue x.1.snapshot.samples l.series.metric) := by
  intro applied
  obtain ⟨j, hj⟩ := List.mem_iff_getElem?.mp hl
  obtain ⟨hs, hpoints⟩ := (isComplete_of_chart?_run hdata).getElem?_lines hj
  obtain ⟨-, -, hseries⟩ := data_of_chart?_run hdata
  rw [hseries, List.getElem?_map, hs, Option.map_some, Option.map_some] at hpoints
  exact (Option.some.inj hpoints).symm

/-- **A chart is drawn with all that its window holds.** What a run leaves on the screen for a chart
is drawn, with one line for each series: neither captions nor colors run short, even if they come
from lists of their own. A line has a point for each label, namely the value that was pushed under
that label, at the number of the label. From two labels on the first and the last point stand at
the ends of the horizontal axis, where the first and the last label are written. The title names
every series with the value of its last point. Whether a point has a dot depends on its value
alone. -/
theorem plot_run_withSlots
    (hdata : ((empty capacity).run (.withSlots slots) us).screen.chart? c = some data) :
    let applied := Source.metrics.updatesIn ((empty capacity).accepted (.withSlots slots) us)
    let kept := applied.rtake (min applied.length (max capacity 1))
    let p := c.plot data
    (∀ (canvas : Canvas) (a : Area),
      canvas.chart a c (some data) = (canvas.border a p.title).plot a.inner p) ∧
    (p.lines.map (·.points) = data.series.map Chart.pointsOf ∧
      p.lines.map (·.series.metric) = c.metrics ∧
      p.lines.map (fun l => ((l.points, l.series.caption), l.series.color)) =
        ((data.series.map Chart.pointsOf).zip c.captions).zip c.colors) ∧
    data.labels = kept.map (·.2) ∧
    (∀ (j : Nat) (l : PlotLine), p.lines[j]? = some l →
      l.points.length = data.labels.length ∧
      ∀ (i : Nat) (x : Update × String), kept[i]? = some x → ∃ value,
        (c.valuesOf x.1.snapshot.samples)[j]? = some value ∧ l.points[i]? = some (i, value)) ∧
    (∀ l ∈ p.lines, (∀ point ∈ l.points, point.1 ≤ p.right) ∧
      (2 ≤ data.labels.length →
        l.points.head?.map Prod.fst = some 0 ∧ l.points.getLast?.map Prod.fst = some p.right)) ∧
    (data.labels.head? = some p.firstLabel ∧ data.labels.getLast? = some p.lastLabel) ∧
    (∃ texts : List String,
      p.title = c.title ++ " (now: " ++ " | ".intercalate texts ++ ")" ∧
      texts.map some = p.lines.map fun l => l.points.getLast?.map fun point =>
        l.series.caption ++ ": " ++ c.valueText point.2) ∧
    ∀ l ∈ p.lines, ∀ point ∈ l.points, ∀ columns rows : Nat,
      (∃ dot, dotOf columns rows p point = some dot ∧ dot.1 ≤ columns - 1) ↔
        point.2.lt .zero = false ∧ p.top.lt point.2 = false := by
  intro applied kept p
  have hkept : kept = applied.rtake (max capacity 1) := rtake_min_length _ _
  have hcomplete : c.IsComplete data := isComplete_of_chart?_run hdata
  have hlabels : data.labels = kept.map (·.2) := hkept ▸ (data_of_chart?_run hdata).2.1
  refine ⟨?_, ⟨hcomplete.map_points_lines, ?_, ?_⟩, hlabels, ?_, ?_,
    ⟨hcomplete.head?_labels, hcomplete.getLast?_labels⟩,
    ⟨_, hcomplete.title_plot, hcomplete.map_newest⟩, ?_⟩
  · intro canvas a
    rw [Canvas.chart, Option.filter_some, if_pos (by simpa using hcomplete.labels_ne_nil)]
  · rw [← c.map_metric_series, ← hcomplete.map_series_lines, List.map_map]
    rfl
  · exact (c.zip_captions_zip_colors data.series).symm
  · intro j l hl
    have hpoints : l.points = Chart.pointsOf (kept.map fun x =>
        sampleValue x.1.snapshot.samples l.series.metric) :=
      hkept ▸ points_of_mem_lines hdata (List.mem_of_getElem? hl)
    refine ⟨?_, fun i x hx => ⟨sampleValue x.1.snapshot.samples l.series.metric, ?_, ?_⟩⟩
    · rw [hpoints, hlabels, Chart.length_pointsOf, List.length_map, List.length_map]
    · rw [Chart.valuesOf, List.getElem?_map, (hcomplete.getElem?_lines hl).1, Option.map_some]
    · rw [hpoints, Chart.getElem?_pointsOf, List.getElem?_map, hx]
      rfl
  · intro l hl
    exact ⟨fun point hpoint => hcomplete.le_right hl hpoint,
      fun htwo => ⟨hcomplete.head?_points hl, hcomplete.getLast?_points hl htwo⟩⟩
  · intro l hl point hpoint columns rows
    exact exists_dotOf_iff (hcomplete.le_right hl hpoint) columns rows

/-- Two series in a window for two points: the first of three points has left it, and a value that
was not reported is drawn as zero. -/
theorem plot_run_withSlots_slid :
    let received (value : Binary64) : MetricSample := ⟨"network.bytes_in_per_sec", value⟩
    let sent (value : Binary64) : MetricSample := ⟨"network.bytes_out_per_sec", value⟩
    let oneKilobyte : Binary64 := ⟨0x4090000000000000⟩
    let twoKilobytes : Binary64 := ⟨0x40A0000000000000⟩
    let us : List (Update × String) :=
      [(⟨1, .metrics [received twoKilobytes]⟩, "12:00:01"),
       (⟨2, .metrics [received .one]⟩, "12:00:02"),
       (⟨3, .metrics [sent oneKilobyte, received twoKilobytes]⟩, "12:00:03")]
    let data : ChartData :=
      ⟨["12:00:02", "12:00:03"], [[.one, twoKilobytes], [.zero, oneKilobyte]]⟩
    let p := Chart.network.plot data
    ((empty 2).run (.withSlots ["network-chart"]) us).screen.chart? .network = some data ∧
      p.lines.map (·.points) = [[(0, .one), (1, twoKilobytes)], [(0, .zero), (1, oneKilobyte)]] ∧
      (∀ l ∈ p.lines, l.points.getLast?.map Prod.fst = some p.right) ∧
      p.firstLabel = "12:00:02" ∧ p.lastLabel = "12:00:03" ∧
      p.title = "Network (bytes/s) (now: Bytes In: 2.00 KB/s | Bytes Out: 1.00 KB/s)" := by
  intro received sent oneKilobyte twoKilobytes us data p
  have hdata : ((empty 2).run (.withSlots ["network-chart"]) us).screen.chart? .network =
      some data := by decide +kernel
  obtain ⟨-, ⟨hpoints, -⟩, -, -, hends, ⟨hfirst, hlast⟩, -⟩ := plot_run_withSlots hdata
  exact ⟨hdata, hpoints, fun l hl => ((hends l hl).2 (by decide)).2, Option.some.inj hfirst.symm,
    Option.some.inj hlast.symm, by decide +kernel⟩

end Dashboard

end Telemetry
