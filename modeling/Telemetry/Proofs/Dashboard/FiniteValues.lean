import Telemetry.Proofs.Dashboard.MetricFields
import Telemetry.Proofs.Decimal.Signed
import Telemetry.Proofs.Json.FiniteNumbers
import Telemetry.Proofs.Json.Provenance

/-!
Only finite numbers come to be seen.

Every number of a body is read as a finite double, so a decoded snapshot holds finite
values only (`Source.isFinite_of_decode`). From there the values go into the windows of
the charts, onto the screen and into the fields of the metrics, and nowhere on the way is a
number computed. `Dashboard.IsFinite` says so of a state, and an update with finite values
preserves it.
-/

namespace Telemetry

open Json Readout

/-! ### Snapshots -/

theorem Json.isFinite_of_gives_real {x : Binary64} (h : Reader.real.Gives x) : x.isFinite := by
  obtain ⟨n, v, hv, hx⟩ := gives_number h
  have hreal : v.toReal = x := by
    cases v with
    | integer i => exact Except.ok.inj hx
    | real y => exact Except.ok.inj hx
  rw [← hreal]
  exact n.isFinite_value hv

theorem Json.isFinite_of_gives_required {name : String} {x : Binary64}
    (h : (Field.required name Reader.real).Gives x) : x.isFinite :=
  h.elim isFinite_of_gives_real fun hdefault => nomatch hdefault

theorem MetricSample.isFinite_value {sample : MetricSample} (h : reader.Gives sample) :
    sample.value.isFinite := by
  obtain ⟨⟨name, value, ⟨⟩⟩, hrow, rfl⟩ := gives_map h
  obtain ⟨-, hvalue, -⟩ := isGiven_of_record hrow
  exact isFinite_of_gives_required hvalue

theorem SystemInfo.isFinite_uptime {info : SystemInfo} (h : reader.Gives info) :
    info.uptime.isFinite := by
  obtain ⟨⟨hostname, platform, cpuCount, uptime, ⟨⟩⟩, hrow, rfl⟩ := gives_map h
  obtain ⟨-, -, -, huptime, -⟩ := isGiven_of_record hrow
  exact isFinite_of_gives_required huptime

/-- Every double of a snapshot is finite. -/
def Snapshot.IsFinite : Snapshot → Prop
  | .metrics samples => ∀ sample ∈ samples, sample.value.isFinite
  | .systemInfo info => info.uptime.isFinite
  | .connections _ | .hosts _ => True

theorem Source.isFinite_of_decode {source : Source} {body : String} {snapshot : Snapshot}
    (h : source.decode body = .ok snapshot) : snapshot.IsFinite := by
  have hgives := gives_of_decode h
  cases source with
  | metrics =>
      obtain ⟨samples, hsamples, rfl⟩ := gives_map hgives
      exact fun sample hsample =>
        MetricSample.isFinite_value (gives_of_mem_envelope hsamples sample hsample)
  | connections =>
      obtain ⟨rows, -, rfl⟩ := gives_map hgives
      trivial
  | hosts =>
      obtain ⟨rows, -, rfl⟩ := gives_map hgives
      trivial
  | systemInfo =>
      obtain ⟨info, hinfo, rfl⟩ := gives_map hgives
      exact SystemInfo.isFinite_uptime hinfo

theorem Snapshot.IsFinite.samples {snapshot : Snapshot} (h : snapshot.IsFinite) :
    ∀ sample ∈ snapshot.samples, sample.value.isFinite := by
  cases snapshot with
  | metrics samples => exact h
  | connections rows => simp [Snapshot.samples]
  | hosts rows => simp [Snapshot.samples]
  | systemInfo info => simp [Snapshot.samples]

/-! ### Charts and fields -/

theorem isFinite_sampleValue {samples : List MetricSample}
    (h : ∀ sample ∈ samples, sample.value.isFinite) (name : String) :
    (sampleValue samples name).isFinite := by
  rw [sampleValue]
  split
  · next sample hsample => exact h sample (List.mem_reverse.1 (List.mem_of_find?_eq_some hsample))
  · exact Binary64.isFinite_zero

theorem Chart.isFinite_of_mem_valuesOf {samples : List MetricSample}
    (h : ∀ sample ∈ samples, sample.value.isFinite) (c : Chart) :
    ∀ x ∈ c.valuesOf samples, x.isFinite := by
  intro x hx
  obtain ⟨s, -, rfl⟩ := List.mem_map.1 hx
  exact isFinite_sampleValue h s.metric

/-- Every value of every series belongs to some point of the window. -/
theorem Window.exists_point_of_mem_allSeries {w : Window} {values : List Binary64} {x : Binary64}
    (hvalues : values ∈ w.allSeries) (hx : x ∈ values) :
    ∃ point ∈ w.points, x ∈ point.values := by
  obtain ⟨i, -, rfl⟩ := List.mem_map.1 hvalues
  obtain ⟨point, hpoint, hvalue⟩ := List.mem_filterMap.1 hx
  exact ⟨point, hpoint, List.mem_of_getElem? hvalue⟩

theorem Readout.point_mem_metricValue {x : Binary64} (h : x.isFinite) :
    '.' ∈ (metricValue x).toList := by
  rw [metricValue, Decimal.fixed_of_isFinite h, Decimal.placed_two, String.toList_append,
    String.toList_ofList]
  simp

/-! ### States -/

namespace Dashboard

variable {d : Dashboard} {screen : Screen} {u : Update} {label : String}

/-- The dashboards that can come about while every update holds a decoded body. -/
inductive ReachableDecoded : Dashboard → Screen → Prop
  | start (capacity : Nat) (slots : List String) :
      ReachableDecoded (.empty capacity) (.withSlots slots)
  | select {d : Dashboard} {screen : Screen} (panel : Panel) (h : ReachableDecoded d screen) :
      ReachableDecoded (d.select panel) screen
  | apply {d : Dashboard} {screen : Screen} {source : Source} {body : String} {snapshot : Snapshot}
      (hdecode : source.decode body = .ok snapshot) (cycle : UInt64) (label : String)
      (h : ReachableDecoded d screen) :
      ReachableDecoded (d.apply screen ⟨cycle, snapshot⟩ label).dashboard
        (d.apply screen ⟨cycle, snapshot⟩ label).screen

theorem ReachableDecoded.reachable (h : d.ReachableDecoded screen) : d.Reachable screen := by
  induction h with
  | start capacity slots => exact .start capacity slots
  | select panel h ih => exact ih.select panel
  | apply hdecode cycle label h ih => exact ih.apply _ label

/-- Every number that is kept or shown is finite, or was before it was written as a text. -/
structure IsFinite (d : Dashboard) (screen : Screen) : Prop where
  points : ∀ c, ∀ point ∈ (d.history.window c).points, ∀ x ∈ point.values, x.isFinite
  series : ∀ c data, screen.chart? c = some data →
    ∀ values ∈ data.series, ∀ x ∈ values, x.isFinite
  fields : ∀ slot text, isMetricSlot slot → screen.field? slot = some text →
    ∃ x : Binary64, x.isFinite ∧ text = metricValue x

theorem isFinite_start (capacity : Nat) (slots : List String) :
    (empty capacity).IsFinite (.withSlots slots) where
  points c point hpoint := by
    rw [empty, ChartHistory.window_empty] at hpoint
    cases hpoint
  series c data hdata := by cases hdata
  fields slot text hmetric htext := by cases htext

theorem isFinite_points_accept (hfits : d.history.Fits) (h : d.IsFinite screen)
    (hu : u.snapshot.IsFinite) (label : String) (c : Chart) :
    ∀ point ∈ ((d.accept u label).history.window c).points, ∀ x ∈ point.values, x.isFinite := by
  rw [window_accept hfits]
  split
  · intro point hpoint
    rcases mem_pushCapped hpoint with holder | rfl
    · exact h.points c point holder
    · exact c.isFinite_of_mem_valuesOf hu.samples
  · exact h.points c

/-- The chart of a screen is either the one that was there or a copy of its window. -/
theorem chart?_apply_cases {c : Chart} {data : ChartData} (hfits : d.history.Fits)
    (hs : d.isStale u = false)
    (h : (d.apply screen u label).screen.chart? c = some data) :
    screen.chart? c = some data ∨ data = ((d.accept u label).history.window c).data := by
  by_cases hu : u.source = .metrics
  · cases hslot : screen.hasSlot c.slot with
    | true =>
        rw [chart?_apply hfits hs hu hslot, apply_of_not_isStale hs] at h
        exact .inr (Option.some.inj h).symm
    | false =>
        have hread : (d.apply screen u label).screen.chart? c = screen.chart? c :=
          read_run_of_hasSlot_eq_false (p := .chart c) hslot [(u, label)]
        exact .inl (hread.symm.trans h)
  · have hread : (d.apply screen u label).screen.chart? c = screen.chart? c :=
      read_apply_of_ne (p := .chart c) (by simpa [Place.owner?] using Ne.symm hu)
    exact .inl (hread.symm.trans h)

/-- One update with finite values keeps everything finite. -/
theorem IsFinite.apply (h : d.IsFinite screen) (hfits : d.history.Fits)
    (hu : u.snapshot.IsFinite) (label : String) :
    (d.apply screen u label).dashboard.IsFinite (d.apply screen u label).screen := by
  cases hs : d.isStale u with
  | true => rwa [apply_of_isStale hs]
  | false =>
      have hpoints := isFinite_points_accept hfits h hu label
      refine ⟨?_, ?_, ?_⟩
      · rw [apply_of_not_isStale hs]
        exact hpoints
      · intro c data hdata values hvalues x hx
        rcases chart?_apply_cases hfits hs hdata with holder | rfl
        · exact h.series c data holder values hvalues x hx
        · obtain ⟨point, hpoint, hmem⟩ := Window.exists_point_of_mem_allSeries hvalues hx
          exact hpoints c point hpoint x hmem
      · intro slot text hmetric htext
        have hshown : (d.apply screen u label).shown = true := by rw [apply_of_not_isStale hs]
        rw [field?_apply_metric hshown hmetric] at htext
        split at htext
        · rcases Option.or_eq_some_iff.1 htext with hwritten | ⟨-, holder⟩
          · obtain ⟨sample, hsample, rfl⟩ := Option.map_eq_some_iff.1 hwritten
            have hmem := List.mem_reverse.1 (List.mem_of_find?_eq_some hsample)
            exact ⟨sample.value, hu.samples sample hmem, rfl⟩
          · exact h.fields slot text hmetric holder
        · exact h.fields slot text hmetric htext

theorem ReachableDecoded.isFinite (h : d.ReachableDecoded screen) : d.IsFinite screen := by
  induction h with
  | start capacity slots => exact isFinite_start capacity slots
  | select panel h ih => exact ⟨ih.points, ih.series, ih.fields⟩
  | apply hdecode cycle label h ih =>
      exact ih.apply h.reachable.fits (Source.isFinite_of_decode hdecode) label

/-- **No body puts anything but finite numbers on the dashboard.** Every value and every uptime that
is decoded is finite, whatever the text. In every state that decoded bodies bring about the values
of the charts, kept or shown, are finite, and the field of a metric shows a finite number. -/
theorem shows_finite_numbers :
    (∀ (body : String) (samples : List MetricSample),
      Source.metrics.decode body = .ok (.metrics samples) →
        ∀ sample ∈ samples, sample.value.isFinite) ∧
    (∀ (body : String) (info : SystemInfo),
      Source.systemInfo.decode body = .ok (.systemInfo info) → info.uptime.isFinite) ∧
    ∀ (d : Dashboard) (screen : Screen), d.ReachableDecoded screen →
      (∀ c, ∀ point ∈ (d.history.window c).points, ∀ x ∈ point.values, x.isFinite) ∧
      (∀ c data, screen.chart? c = some data →
        ∀ values ∈ data.series, ∀ x ∈ values, x.isFinite) ∧
      ∀ slot text, isMetricSlot slot → screen.field? slot = some text →
        (∃ x : Binary64, x.isFinite ∧ text = metricValue x) ∧ text ∉ ["NaN", "inf", "-inf"] := by
  refine ⟨fun body samples h => Source.isFinite_of_decode h,
    fun body info h => Source.isFinite_of_decode h, fun d screen h => ?_⟩
  have hfinite := h.isFinite
  refine ⟨hfinite.points, hfinite.series, fun slot text hmetric htext => ?_⟩
  obtain ⟨x, hx, rfl⟩ := hfinite.fields slot text hmetric htext
  refine ⟨⟨x, hx, rfl⟩, fun hmem => ?_⟩
  have hnone : ∀ text ∈ ["NaN", "inf", "-inf"], '.' ∉ text.toList := by decide
  exact hnone _ hmem (point_mem_metricValue hx)

/-- The greatest double is let through, ten times as much is refused, and an exponent beyond all
counting makes zero. -/
theorem shows_finite_numbers_extremes :
    let metrics := "\x7b\"metrics\":[[\"cpu.usage\",1.7976931348623157e308]]\x7d"
    let samples : List MetricSample := [⟨"cpu.usage", ⟨0x7fefffffffffffff⟩⟩]
    let system := "[\"a\",\"b\",1,12345678901234567890123e-99999999999]"
    let screen := Screen.withSlots ["metric-cpu-usage", "cpu-chart"]
    let applied := default.apply screen ⟨1, .metrics samples⟩ "12:00:01"
    Source.metrics.decode metrics = .ok (.metrics samples) ∧
      (Source.metrics.decode "[[[\"cpu.usage\",1.8e309]]]").toOption = none ∧
      Source.systemInfo.decode system = .ok (.systemInfo ⟨"a", "b", 1, .zero⟩) ∧
      applied.dashboard.ReachableDecoded applied.screen ∧
      (∀ sample ∈ samples, sample.value.isFinite) ∧ Binary64.zero.isFinite ∧
      applied.screen.chart? .cpu = some ⟨["12:00:01"], [[⟨0x7fefffffffffffff⟩]]⟩ ∧
      (∀ x ∈ [⟨0x7fefffffffffffff⟩], Binary64.isFinite x) ∧
      applied.screen.field? "metric-cpu-usage" = some (metricValue ⟨0x7fefffffffffffff⟩) ∧
      metricValue ⟨0x7fefffffffffffff⟩ ∉ ["NaN", "inf", "-inf"] := by
  intro metrics samples system screen applied
  have hmetrics : Source.metrics.decode metrics = .ok (.metrics samples) :=
    eq_ok_of_toOption (by decide +kernel)
  have hsystem : Source.systemInfo.decode system = .ok (.systemInfo ⟨"a", "b", 1, .zero⟩) :=
    eq_ok_of_toOption (by decide +kernel)
  have happlied : applied.dashboard.ReachableDecoded applied.screen :=
    .apply hmetrics 1 "12:00:01" (.start _ _)
  have hchart : applied.screen.chart? .cpu =
      some ⟨["12:00:01"], [[⟨0x7fefffffffffffff⟩]]⟩ := by decide +kernel
  obtain ⟨hsamples, huptime, hstates⟩ := shows_finite_numbers
  obtain ⟨-, hseries, hfields⟩ := hstates _ _ happlied
  have hfield : applied.screen.field? "metric-cpu-usage" =
      some (metricValue ⟨0x7fefffffffffffff⟩) := rfl
  exact ⟨hmetrics, by decide +kernel, hsystem, happlied, hsamples _ _ hmetrics,
    huptime _ _ hsystem, hchart, hseries .cpu _ hchart _ (by simp), hfield,
    (hfields _ _ (by decide) hfield).2⟩

end Dashboard

end Telemetry
