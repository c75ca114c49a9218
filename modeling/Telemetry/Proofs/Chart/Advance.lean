import Telemetry.Proofs.Dashboard.Accepted
import Telemetry.Proofs.Snapshot.Parts
import Telemetry.Proofs.Window.Capped

/-!
How the charts advance.

Every update of the metrics that is shown adds one point to each window, because
each window is as wide as its chart draws series (`ChartHistory.Fits`), and what
the screen then shows of a chart is its window as it stands
(`Dashboard.InSync`). Both are invariants of a run. A window therefore holds the
newest of the points taken from the updates that were shown
(`Dashboard.points_run`), and the lines on the screen end in the values of the
last one (`Window.map_getLast?_allSeries`).
-/

namespace Telemetry

/-- What a chart shows of a window. -/
def Window.data (w : Window) : ChartData := ⟨w.labels, w.allSeries⟩

theorem Window.map_getLast?_allSeries {w : Window} {point : Point}
    (hlast : w.points.getLast? = some point) (hwidth : point.values.length = w.seriesCount) :
    w.allSeries.map List.getLast? = point.values.map some := by
  obtain ⟨older, hpoints⟩ := List.getLast?_eq_some_iff.1 hlast
  refine List.ext_getElem (by simp [allSeries, hwidth]) fun i h₁ h₂ => ?_
  have hi : i < point.values.length := by simpa using h₂
  simp [allSeries, hpoints, hi]

namespace ChartHistory

variable {h : ChartHistory}

/-- Every window is as wide as its chart draws series. -/
def Fits (h : ChartHistory) : Prop := ∀ c, (h.window c).seriesCount = c.series.length

theorem fits_empty (capacity : Nat) : (empty capacity).Fits := by
  intro c
  cases c <;> rfl

theorem extend_of_fits {c : Chart} {w : Window} (hw : w.seriesCount = c.series.length)
    (samples : List MetricSample) (label : String) :
    extend samples label c w =
      { w with points := pushCapped w.capacity w.points ⟨label, c.valuesOf samples⟩ } := by
  simp [extend, Window.push, hw]

/-- Windows that are wide enough are all shown. -/
theorem writes_of_fits (hfits : h.Fits) (samples : List MetricSample) (label : String) :
    h.writes samples label =
      Chart.all.map fun c => ((h.record samples label).window c).toWrite c := by
  rw [writes, ← List.filterMap_eq_map]
  refine List.filterMap_congr fun c _ => ?_
  simp [Window.writeOf?, Window.push, hfits c, extend_of_fits (hfits c)]

end ChartHistory

/-- The points that a chart takes from updates, each under its label. -/
def Chart.pointsIn (c : Chart) (us : List (Update × String)) : List Point :=
  (Source.metrics.updatesIn us).map fun x => ⟨x.2, c.valuesOf x.1.snapshot.samples⟩

@[simp] theorem Chart.pointsIn_nil (c : Chart) : c.pointsIn [] = [] := rfl

theorem Chart.pointsIn_cons (c : Chart) (x : Update × String) (us : List (Update × String)) :
    c.pointsIn (x :: us) =
      (if x.1.source = .metrics then [⟨x.2, c.valuesOf x.1.snapshot.samples⟩] else []) ++
        c.pointsIn us := by
  rw [pointsIn, Source.updatesIn_cons]
  split <;> rfl

theorem Chart.getLast?_pointsIn (c : Chart) (us : List (Update × String)) :
    (c.pointsIn us).getLast? =
      (Source.metrics.lastIn us).map fun x => ⟨x.2, c.valuesOf x.1.snapshot.samples⟩ := by
  rw [pointsIn, List.getLast?_map, Source.lastIn_eq_getLast?]

namespace Dashboard

variable {d : Dashboard} {screen : Screen} {u : Update} {label : String}

theorem history_accept_of_eq (hu : u.source = .metrics) :
    (d.accept u label).history = d.history.record u.snapshot.samples label := by
  rw [accept, Snapshot.eq_metrics hu]
  rfl

theorem window_accept (h : d.history.Fits) (u : Update) (label : String) (c : Chart) :
    (d.accept u label).history.window c =
      if u.source = .metrics then
        { d.history.window c with
          points := pushCapped (d.history.window c).capacity (d.history.window c).points
            ⟨label, c.valuesOf u.snapshot.samples⟩ }
      else d.history.window c := by
  split
  · next hu =>
      rw [history_accept_of_eq hu, ChartHistory.window_record, ChartHistory.extend_of_fits (h c)]
  · next hu => rw [history_accept_of_ne hu]

theorem fits_accept (h : d.history.Fits) : (d.accept u label).history.Fits := by
  intro c
  rw [window_accept h]
  split <;> exact h c

theorem fits_apply (h : d.history.Fits) : (d.apply screen u label).dashboard.history.Fits := by
  cases hs : d.isStale u with
  | true => rwa [apply_of_isStale hs]
  | false =>
      rw [apply_of_not_isStale hs]
      exact fits_accept h

theorem fits_run (h : d.history.Fits) (us : List (Update × String)) :
    (d.run screen us).dashboard.history.Fits := by
  induction us generalizing d screen with
  | nil => exact h
  | cons x us ih =>
      rw [run_cons]
      exact ih (fits_apply h)

/-- **What a window holds.** If a window holds the newest of some points, then after a run it
holds the newest of them and of those taken from the updates that were shown. -/
theorem points_run {c : Chart} {older : List Point} (hfits : d.history.Fits)
    (hpos : 0 < (d.history.window c).capacity)
    (hpoints : (d.history.window c).points = older.rtake (d.history.window c).capacity)
    (us : List (Update × String)) :
    ((d.run screen us).dashboard.history.window c).points =
      (older ++ c.pointsIn (d.accepted screen us)).rtake (d.history.window c).capacity := by
  induction us generalizing d screen older with
  | nil => simpa using hpoints
  | cons x us ih =>
      rw [run_cons]
      cases hs : d.isStale x.1 with
      | true =>
          simp only [apply_of_isStale hs, accepted_cons, hs, if_true, List.nil_append]
          exact ih hfits hpos hpoints
      | false =>
          rw [apply_of_not_isStale hs, accepted_cons, hs]
          simp only [Bool.false_eq_true, if_false, List.singleton_append, Chart.pointsIn_cons,
            ← List.append_assoc, apply_of_not_isStale hs]
          have hwindow := window_accept hfits x.1 x.2 c
          have hcapacity : ((d.accept x.1 x.2).history.window c).capacity =
              (d.history.window c).capacity := by
            rw [hwindow]
            split <;> rfl
          rw [← hcapacity]
          refine ih (fits_accept hfits) (hcapacity ▸ hpos) ?_
          rw [hcapacity, hwindow]
          -- the new point is the last of the older ones for the rest of the run
          by_cases hx : x.1.source = .metrics
          · rw [if_pos hx, if_pos hx, hpoints]
            exact pushCapped_rtake hpos _ _
          · simpa [hx] using hpoints

/-! ### The screen follows the windows -/

/-- What a screen shows of each declared chart is its window, and nothing while that is empty. -/
def InSync (d : Dashboard) (screen : Screen) : Prop :=
  ∀ c : Chart, screen.hasSlot c.slot →
    screen.chart? c =
      if (d.history.window c).points = [] then none else some (d.history.window c).data

theorem lastWritten?_chart_writesOf (h : d.history.Fits) (samples : List MetricSample)
    (label : String) (c : Chart) :
    (Place.chart c).lastWritten? (d.writesOf label (.metrics samples)) =
      some (some ((d.history.record samples label).window c).data) := by
  rw [writesOf, Place.lastWritten?_append, ChartHistory.writes_of_fits h]
  cases c <;> rfl

theorem inSync_withSlots (capacity : Nat) (slots : List String) :
    (Dashboard.empty capacity).InSync (.withSlots slots) := by
  intro c _
  show none = _
  simp [empty]

/-- A declared chart is a copy of its window once metrics are shown. -/
theorem chart?_apply {c : Chart} (h : d.history.Fits) (hs : d.isStale u = false)
    (hu : u.source = .metrics) (hslot : screen.hasSlot c.slot = true) :
    (d.apply screen u label).screen.chart? c =
      some ((d.apply screen u label).dashboard.history.window c).data := by
  have hwritten := lastWritten?_chart_writesOf h u.snapshot.samples label c
  rw [← Snapshot.eq_metrics hu, ← history_accept_of_eq hu] at hwritten
  rw [apply_of_not_isStale hs, ← Screen.read_chart, Screen.read_writeAll, hwritten]
  exact if_pos hslot

theorem inSync_apply (hfits : d.history.Fits) (h : d.InSync screen) :
    (d.apply screen u label).dashboard.InSync (d.apply screen u label).screen := by
  cases hs : d.isStale u with
  | true => rwa [apply_of_isStale hs]
  | false =>
      intro c hslot
      have hdeclared : screen.hasSlot c.slot = true := by simpa [Screen.hasSlot] using hslot
      by_cases hu : u.source = .metrics
      · rw [chart?_apply hfits hs hu hdeclared, apply_of_not_isStale hs, if_neg]
        simp [window_accept hfits, hu]
      · have hread : (d.apply screen u label).screen.chart? c = screen.chart? c :=
          read_apply_of_ne (p := .chart c) (by simpa [Place.owner?] using Ne.symm hu)
        rw [hread, h c hdeclared, history_apply_of_ne hu]

theorem inSync_run (hfits : d.history.Fits) (h : d.InSync screen) (us : List (Update × String)) :
    (d.run screen us).dashboard.InSync (d.run screen us).screen := by
  induction us generalizing d screen with
  | nil => exact h
  | cons x us ih =>
      rw [run_cons]
      exact ih (fits_apply hfits) (inSync_apply hfits h)

/-! ### From an empty history -/

theorem points_run_empty (capacity : Nat) (screen : Screen) (us : List (Update × String))
    (c : Chart) :
    (((empty capacity).run screen us).dashboard.history.window c).points =
      (c.pointsIn ((empty capacity).accepted screen us)).rtake (max capacity 1) := by
  have hcapacity : ((empty capacity).history.window c).capacity = max capacity 1 := by
    simp [empty]
  have hpoints : ((empty capacity).history.window c).points =
      [].rtake ((empty capacity).history.window c).capacity := by
    simp [empty]
  rw [points_run (ChartHistory.fits_empty capacity) (by omega) hpoints, hcapacity, List.nil_append]

theorem getLast?_points_run_empty (capacity : Nat) (screen : Screen) (us : List (Update × String))
    (c : Chart) :
    (((empty capacity).run screen us).dashboard.history.window c).points.getLast? =
      (Source.metrics.lastIn ((empty capacity).accepted screen us)).map fun x =>
        ⟨x.2, c.valuesOf x.1.snapshot.samples⟩ := by
  rw [points_run_empty, getLast?_rtake (by omega), Chart.getLast?_pointsIn]

theorem chart?_run_empty {capacity : Nat} {slots : List String} {us : List (Update × String)}
    {x : Update × String} {c : Chart}
    (hlast : Source.metrics.lastIn ((empty capacity).accepted (.withSlots slots) us) = some x)
    (hslot : c.slot ∈ slots) :
    ∃ data, ((empty capacity).run (.withSlots slots) us).screen.chart? c = some data ∧
      data.labels.getLast? = some x.2 ∧
      data.series.map List.getLast? = (c.valuesOf x.1.snapshot.samples).map some := by
  have hfits : (empty capacity).history.Fits := ChartHistory.fits_empty capacity
  have hpoint := getLast?_points_run_empty capacity (.withSlots slots) us c
  rw [hlast, Option.map_some] at hpoint
  refine ⟨(((empty capacity).run (.withSlots slots) us).dashboard.history.window c).data,
    ?_, ?_, ?_⟩
  · rw [inSync_run hfits (inSync_withSlots capacity slots) us c (by simpa using hslot), if_neg]
    rintro hnil
    rw [hnil] at hpoint
    exact nomatch hpoint
  · simp [Window.data, Window.labels, hpoint]
  · refine Window.map_getLast?_allSeries hpoint ?_
    rw [fits_run hfits us c, Chart.length_valuesOf]

end Dashboard

end Telemetry
