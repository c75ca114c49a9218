import Mathlib.Data.List.Find
import Telemetry.Proofs.Dashboard.Projection
import Telemetry.Proofs.Dashboard.Reachable

/-!
The fields of metrics behind one update.

The samples of a snapshot are written one by one, each to the slot that its name
leads to, and nothing is ever cleared. So a field shows the last sample that leads
to it, and without one whatever it showed before (`field?_apply_metric`). This has
two consequences. The past shows through wherever the newest snapshot names
nothing (`field?_apply_eq_iff`). And since several names can lead to one slot, a
field agrees with the chart of its metric as long as no other name comes behind
it (`field?_eq_last_of_chart`).
-/

namespace Telemetry.Dashboard

open Readout

variable {d d₁ d₂ : Dashboard} {screen screen₁ screen₂ : Screen} {u : Update}
  {label label₁ label₂ slot : String}

theorem isStale_of_shown (h : (d.apply screen u label).shown = true) : d.isStale u = false := by
  simpa using h

/-- What an update leaves in the field of a metric. -/
theorem field?_apply_metric (hshown : (d.apply screen u label).shown = true)
    (hmetric : isMetricSlot slot) :
    (d.apply screen u label).screen.field? slot =
      if screen.hasSlot slot then
        ((u.snapshot.samples.reverse.find? fun x => metricSlot x.name = slot).map
          fun x => metricValue x.value).or (screen.field? slot)
      else screen.field? slot := by
  have hplace : ∀ c, Place.field slot ≠ .chart c := by simp
  rw [apply_of_not_isStale (isStale_of_shown hshown), ← Screen.read_field, Screen.read_writeAll,
    lastWritten?_writesOf hplace, Snapshot.lastWritten?_metric hmetric]
  cases u.snapshot.samples.reverse.find? fun x => metricSlot x.name = slot <;> rfl

/-! ### Two pasts -/

/-- **When a field forgets its past.** An update that is shown on two screens with the same slots
leaves the same in the field of a metric if and only if one of its samples leads there, or the
field was the same before. -/
theorem field?_apply_eq_iff (hslots : screen₁.slots = screen₂.slots)
    (hshown₁ : (d₁.apply screen₁ u label₁).shown = true)
    (hshown₂ : (d₂.apply screen₂ u label₂).shown = true) (hmetric : isMetricSlot slot) :
    (d₁.apply screen₁ u label₁).screen.field? slot =
        (d₂.apply screen₂ u label₂).screen.field? slot ↔
      (slot ∈ screen₁.slots ∧ ∃ x ∈ u.snapshot.samples, metricSlot x.name = slot) ∨
        screen₁.field? slot = screen₂.field? slot := by
  have hsame : screen₂.hasSlot slot = screen₁.hasSlot slot := by simp [Screen.hasSlot, hslots]
  have hdeclared : slot ∈ screen₁.slots ↔ screen₁.hasSlot slot = true := by simp [Screen.hasSlot]
  have hnamed : (∃ x ∈ u.snapshot.samples, metricSlot x.name = slot) ↔
      (u.snapshot.samples.reverse.find? fun x => metricSlot x.name = slot).isSome := by
    simp
  rw [field?_apply_metric hshown₁ hmetric, field?_apply_metric hshown₂ hmetric, hsame, hdeclared,
    hnamed]
  cases screen₁.hasSlot slot with
  | false => simp
  | true =>
      cases u.snapshot.samples.reverse.find? fun x => metricSlot x.name = slot with
      | none => simp
      | some x => simp

/-- A snapshot that names the metric makes up for a past without it. -/
theorem field?_apply_eq_iff_named :
    let screen := Screen.withSlots ["metric-cpu-usage"]
    let first := default.apply screen ⟨1, .metrics [⟨"cpu.usage", ⟨1⟩⟩]⟩ "12:00:01"
    let u : Update := ⟨2, .metrics [⟨"cpu.usage", ⟨2⟩⟩]⟩
    let later := first.dashboard.apply first.screen u "12:00:02"
    let fresh := default.apply screen u "12:00:02"
    first.screen.slots = screen.slots ∧ later.shown = true ∧ fresh.shown = true ∧
      isMetricSlot "metric-cpu-usage" ∧
      later.screen.field? "metric-cpu-usage" = fresh.screen.field? "metric-cpu-usage" := by
  intro screen first u later fresh
  have hslots : first.screen.slots = screen.slots := slots_apply
  have hmetric : isMetricSlot "metric-cpu-usage" := by decide
  refine ⟨hslots, rfl, rfl, hmetric, (field?_apply_eq_iff hslots rfl rfl hmetric).2 (.inl ?_)⟩
  rw [hslots]
  exact ⟨List.mem_singleton_self _, ⟨"cpu.usage", ⟨2⟩⟩, List.mem_singleton_self _, by decide⟩

/-- **The past shows through.** Two states that can come about, with the same slots, are shown the
same snapshot, which names no metric of the field. The field keeps its older value in the one and
is empty in the other. -/
theorem past_shows_through :
    let screen := Screen.withSlots ["metric-cpu-usage"]
    let first := default.apply screen
      ⟨1, .metrics [⟨"cpu.usage", ⟨0x3ff0000000000000⟩⟩]⟩ "12:00:01"
    let u : Update := ⟨2, .metrics [⟨"memory.used", ⟨0x4000000000000000⟩⟩]⟩
    let later := first.dashboard.apply first.screen u "12:00:02"
    let fresh := default.apply screen u "12:00:02"
    first.dashboard.Reachable first.screen ∧ default.Reachable screen ∧
      first.screen.slots = screen.slots ∧ later.shown = true ∧ fresh.shown = true ∧
      later.screen.field? "metric-cpu-usage" = some "1.00" ∧
      fresh.screen.field? "metric-cpu-usage" = none := by
  intro screen first u later fresh
  have hstart : default.Reachable screen := .start _ _
  exact ⟨hstart.apply _ _, hstart, slots_apply, rfl, rfl, by decide +kernel, by decide +kernel⟩

/-! ### Fields and charts -/

/-- The last sample that leads to the slot of a metric is the last one of its name, unless another
name comes behind it. -/
theorem find?_metricSlot_eq {before after : List MetricSample} {sample : MetricSample}
    {name : String} (hname : sample.name = name)
    (hafter : ∀ x ∈ after, metricSlot x.name = metricSlot name → x.name = name) :
    ((before ++ sample :: after).reverse.find? fun x => metricSlot x.name = metricSlot name) =
      (before ++ sample :: after).reverse.find? fun x => x.name = name := by
  have hsame : (after.reverse.find? fun x => metricSlot x.name = metricSlot name) =
      after.reverse.find? fun x => x.name = name := by
    refine List.find?_congr fun x hx => ?_
    rw [decide_eq_decide]
    exact ⟨hafter x (List.mem_reverse.1 hx), congrArg metricSlot⟩
  simp [List.find?_append, hsame, hname]

/-- The newest value of each line of a declared chart is what the snapshot says of its metric. -/
theorem exists_last_of_chart (hreachable : d.Reachable screen)
    (hshown : (d.apply screen u label).shown = true) (hsource : u.source = .metrics) {c : Chart}
    {j : Nat} {s : Series} (hseries : c.series[j]? = some s) (hchart : c.slot ∈ screen.slots) :
    ∃ data values, (d.apply screen u label).screen.chart? c = some data ∧
      data.series[j]? = some values ∧
      values.getLast? = some (sampleValue u.snapshot.samples s.metric) := by
  have hs : d.isStale u = false := isStale_of_shown hshown
  have hwindow : (d.apply screen u label).dashboard.history.window c =
      { d.history.window c with
        points := pushCapped (d.history.window c).capacity (d.history.window c).points
          ⟨label, c.valuesOf u.snapshot.samples⟩ } := by
    rw [apply_of_not_isStale hs, window_accept hreachable.fits, if_pos hsource]
  have hlast : ((d.apply screen u label).dashboard.history.window c).points.getLast? =
      some ⟨label, c.valuesOf u.snapshot.samples⟩ := by
    rw [hwindow, pushCapped, List.getLast?_append, List.getLast?_singleton, Option.some_or]
  have hwidth : (c.valuesOf u.snapshot.samples).length =
      ((d.apply screen u label).dashboard.history.window c).seriesCount := by
    rw [(hreachable.apply u label).fits c, Chart.length_valuesOf]
  have hvalue : ((c.valuesOf u.snapshot.samples).map some)[j]? =
      some (some (sampleValue u.snapshot.samples s.metric)) := by
    simp [Chart.valuesOf, hseries]
  rw [← Window.map_getLast?_allSeries hlast hwidth, List.getElem?_map,
    Option.map_eq_some_iff] at hvalue
  obtain ⟨values, hvalues, hnewest⟩ := hvalue
  have hslot : screen.hasSlot c.slot = true := by simpa [Screen.hasSlot] using hchart
  exact ⟨_, values, chart?_apply hreachable.fits hs hsource hslot, hvalues, hnewest⟩

/-- **A field and its chart show the same value.** If a sample of a metric is in the snapshot and
none of another name that leads to the same slot comes behind it, then the field of the metric
shows the newest value of the line that the chart draws of it. -/
theorem field?_eq_last_of_chart (hreachable : d.Reachable screen)
    (hshown : (d.apply screen u label).shown = true) {before after : List MetricSample}
    {sample : MetricSample} (hsnapshot : u.snapshot = .metrics (before ++ sample :: after))
    {c : Chart} {j : Nat} {s : Series} (hseries : c.series[j]? = some s)
    (hname : sample.name = s.metric)
    (hafter : ∀ x ∈ after, metricSlot x.name = metricSlot s.metric → x.name = s.metric)
    (hfield : metricSlot s.metric ∈ screen.slots) (hchart : c.slot ∈ screen.slots) :
    ∃ data values v, (d.apply screen u label).screen.chart? c = some data ∧
      data.series[j]? = some values ∧ values.getLast? = some v ∧
      (d.apply screen u label).screen.field? (metricSlot s.metric) = some (metricValue v) := by
  have hsamples : u.snapshot.samples = before ++ sample :: after := by rw [hsnapshot]; rfl
  have hsource : u.source = .metrics := by rw [Update.source, hsnapshot]; rfl
  obtain ⟨data, values, hdata, hvalues, hnewest⟩ :=
    exists_last_of_chart hreachable hshown hsource hseries hchart
  -- both the field and the line take the last sample of the name
  obtain ⟨x, hx⟩ : ∃ x, ((before ++ sample :: after).reverse.find? fun x => x.name = s.metric) =
      some x := by
    rw [← Option.isSome_iff_exists, List.find?_isSome]
    exact ⟨sample, by simp, by simpa using hname⟩
  have hmetric : isMetricSlot (metricSlot s.metric) := isMetricSlot_metricSlot s.metric
  refine ⟨data, values, x.value, hdata, hvalues, ?_, ?_⟩
  · rw [hnewest, sampleValue, hsamples, hx]
  · rw [field?_apply_metric hshown hmetric, if_pos (by simpa [Screen.hasSlot] using hfield),
      hsamples, find?_metricSlot_eq hname hafter, hx]
    rfl

/-- Names of the same slot before the sample do no harm, nor do other names behind it. -/
theorem field?_eq_last_of_chart_between :
    let screen := Screen.withSlots ["metric-cpu-usage", "cpu-chart"]
    let u : Update := ⟨1, .metrics
      [⟨"cpu-usage", ⟨1⟩⟩, ⟨"cpu.usage", ⟨2⟩⟩, ⟨"memory.used", ⟨3⟩⟩]⟩
    let applied := default.apply screen u "12:00:01"
    ∃ data values v, applied.screen.chart? .cpu = some data ∧ data.series[0]? = some values ∧
      values.getLast? = some v ∧
      applied.screen.field? "metric-cpu-usage" = some (metricValue v) := by
  intro screen u applied
  have hsnapshot : u.snapshot = .metrics
      ([⟨"cpu-usage", ⟨1⟩⟩] ++ ⟨"cpu.usage", ⟨2⟩⟩ :: [⟨"memory.used", ⟨3⟩⟩]) := rfl
  have hseries : Chart.cpu.series[0]? = some ⟨"cpu.usage", "CPU Usage %", .rgb 54 162 235⟩ := rfl
  exact field?_eq_last_of_chart (.start _ _) rfl hsnapshot hseries rfl (by decide) (by decide)
    (by decide)

/-- **A field and its chart can differ.** Behind the sample of the metric comes one of another name
that leads to the same slot: the line ends in the one and the field shows the other. -/
theorem field?_ne_last_of_chart :
    let screen := Screen.withSlots ["metric-cpu-usage", "cpu-chart"]
    let samples : List MetricSample :=
      [⟨"cpu.usage", ⟨0x3ff0000000000000⟩⟩, ⟨"cpu-usage", ⟨0x4000000000000000⟩⟩]
    let applied := default.apply screen ⟨1, .metrics samples⟩ "12:00:01"
    default.Reachable screen ∧ applied.shown = true ∧
      Chart.cpu.series[0]?.map Series.metric = some "cpu.usage" ∧
      (∃ x ∈ samples, x.name = "cpu.usage") ∧
      metricSlot "cpu.usage" ∈ screen.slots ∧ Chart.cpu.slot ∈ screen.slots ∧
      ¬∃ data values v, applied.screen.chart? .cpu = some data ∧
        data.series[0]? = some values ∧ values.getLast? = some v ∧
        applied.screen.field? (metricSlot "cpu.usage") = some (metricValue v) := by
  intro screen samples applied
  have hchart : applied.screen.chart? .cpu =
      some ⟨["12:00:01"], [[⟨0x3ff0000000000000⟩]]⟩ := by decide +kernel
  have hfield : applied.screen.field? (metricSlot "cpu.usage") = some "2.00" := by decide +kernel
  have hvalue : metricValue ⟨0x3ff0000000000000⟩ = "1.00" := by decide +kernel
  refine ⟨.start _ _, rfl, rfl, ⟨_, List.mem_cons_self, rfl⟩, by decide, by decide, ?_⟩
  rintro ⟨data, values, v, hdata, hvalues, hlast, htext⟩
  obtain rfl := Option.some.inj (hchart.symm.trans hdata)
  obtain rfl := Option.some.inj hvalues
  have hv : ⟨0x3ff0000000000000⟩ = v := Option.some.inj hlast
  rw [hfield, ← hv, hvalue] at htext
  exact absurd htext (by decide)

end Telemetry.Dashboard
