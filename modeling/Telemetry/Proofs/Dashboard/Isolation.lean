import Telemetry.Proofs.Dashboard.Accepted

/-!
The sources do not interfere with each other.

`AgreeOn s` relates two states that differ in nothing that the source `s` owns:
its entry in the memory of cycles, its places of the screen, and the history if
it is the metrics. An update of another source does not lead out of this
relation (`agreeOn_apply_of_ne`), and neither does an update of `s` that both
states receive (`agreeOn_apply`), which moreover is shown in both or in neither.
So a run agrees on `s` with the run of the updates of `s` alone
(`agreeOn_run`), and since every part of the state is owned by some source or
never changes, the order in which sources take turns is of no consequence.
-/

namespace Telemetry

/-- What became of the updates of one source, given what became of all. -/
def Source.resultsIn (s : Source) (us : List (Update × String)) (shown : List Bool) : List Bool :=
  ((us.zip shown).filter fun x => x.1.1.source = s).map fun x => x.2

theorem Source.resultsIn_cons (s : Source) (x : Update × String) (us : List (Update × String))
    (b : Bool) (shown : List Bool) :
    s.resultsIn (x :: us) (b :: shown) =
      if x.1.source = s then b :: s.resultsIn us shown else s.resultsIn us shown := by
  by_cases h : x.1.source = s <;> simp [resultsIn, h]

/-- Two dashboards with their screens agree on what a source owns. -/
structure AgreeOn (s : Source) (d : Dashboard) (screen : Screen) (d' : Dashboard)
    (screen' : Screen) : Prop where
  lastCycle? : d.lastCycle? s = d'.lastCycle? s
  history : s = .metrics → d.history = d'.history
  read : ∀ p : Place, p.owner? = some s → screen.read p = screen'.read p

namespace AgreeOn

variable {s : Source} {d d' d'' : Dashboard} {screen screen' screen'' : Screen}

theorem refl (s : Source) (d : Dashboard) (screen : Screen) : AgreeOn s d screen d screen :=
  ⟨rfl, fun _ => rfl, fun _ _ => rfl⟩

theorem symm (h : AgreeOn s d screen d' screen') : AgreeOn s d' screen' d screen :=
  ⟨h.lastCycle?.symm, fun hs => (h.history hs).symm, fun p hp => (h.read p hp).symm⟩

theorem trans (h : AgreeOn s d screen d' screen') (h' : AgreeOn s d' screen' d'' screen'') :
    AgreeOn s d screen d'' screen'' :=
  ⟨h.lastCycle?.trans h'.lastCycle?, fun hs => (h.history hs).trans (h'.history hs),
    fun p hp => (h.read p hp).trans (h'.read p hp)⟩

end AgreeOn

namespace Dashboard

variable {d d' : Dashboard} {screen screen' : Screen} {u : Update} {label : String} {s : Source}

/-! ### One update -/

theorem history_accept_congr (label : String) (h : u.source = .metrics → d.history = d'.history) :
    u.source = .metrics → (d.accept u label).history = (d'.accept u label).history := by
  rcases u with ⟨cycle, snapshot⟩
  cases snapshot with
  | metrics samples =>
      intro hs
      show d.history.record samples label = d'.history.record samples label
      rw [h hs]
  | connections rows => exact h
  | hosts rows => exact h
  | systemInfo info => exact h

theorem writesOf_congr {snapshot : Snapshot} (label : String)
    (h : snapshot.source = .metrics → d.history = d'.history) :
    d.writesOf label snapshot = d'.writesOf label snapshot := by
  cases snapshot with
  | metrics samples => rw [writesOf, writesOf, h rfl]
  | connections rows => rfl
  | hosts rows => rfl
  | systemInfo info => rfl

/-- An update changes nothing that another source owns. -/
theorem agreeOn_apply_of_ne (d : Dashboard) (screen : Screen) (label : String)
    (h : u.source ≠ s) :
    AgreeOn s (d.apply screen u label).dashboard (d.apply screen u label).screen d screen where
  lastCycle? := lastCycle?_apply_of_ne h.symm
  history := by
    rintro rfl
    exact history_apply_of_ne h
  read p hp := read_apply_of_ne (by simpa [hp] using h.symm)

/-- What an update does to what its source owns depends on nothing else. -/
theorem agreeOn_apply (label : String) (h : AgreeOn u.source d screen d' screen')
    (hslots : screen.slots = screen'.slots) :
    AgreeOn u.source (d.apply screen u label).dashboard (d.apply screen u label).screen
        (d'.apply screen' u label).dashboard (d'.apply screen' u label).screen ∧
      d.isStale u = d'.isStale u := by
  have hstale : d.isStale u = d'.isStale u := by rw [isStale, isStale, h.lastCycle?]
  refine ⟨?_, hstale⟩
  cases hs : d.isStale u with
  | true =>
      rw [apply_of_isStale hs, apply_of_isStale (hstale.symm.trans hs)]
      exact h
  | false =>
      rw [apply_of_not_isStale hs, apply_of_not_isStale (hstale.symm.trans hs)]
      constructor
      · simp
      · exact history_accept_congr label h.history
      · intro p hp
        rw [Screen.read_writeAll, Screen.read_writeAll, writesOf_congr label h.history,
          Screen.hasSlot, Screen.hasSlot, hslots, h.read p hp]

/-! ### Runs -/

/-- A run agrees on a source with the run of the updates of that source alone. -/
theorem agreeOn_run (h : AgreeOn s d screen d' screen') (hslots : screen.slots = screen'.slots)
    (us : List (Update × String)) :
    AgreeOn s (d.run screen us).dashboard (d.run screen us).screen
        (d'.run screen' (s.updatesIn us)).dashboard (d'.run screen' (s.updatesIn us)).screen ∧
      s.resultsIn us (d.run screen us).shown = (d'.run screen' (s.updatesIn us)).shown := by
  induction us generalizing d screen d' screen' with
  | nil => exact ⟨h, rfl⟩
  | cons x us ih =>
      -- only the updates of `s` are taken by both runs
      by_cases hs : x.1.source = s
      · subst hs
        obtain ⟨happly, hstale⟩ := agreeOn_apply x.2 h hslots
        obtain ⟨hagree, hresults⟩ := ih happly (by simpa using hslots)
        rw [Source.updatesIn_cons, if_pos rfl]
        refine ⟨hagree, ?_⟩
        simp only [run_cons, Source.resultsIn_cons, if_true, shown_apply, hstale, hresults]
      · have happly := (agreeOn_apply_of_ne d screen x.2 hs).trans h
        obtain ⟨hagree, hresults⟩ := ih happly (by simpa using hslots)
        rw [Source.updatesIn_cons, if_neg hs]
        refine ⟨hagree, ?_⟩
        simp only [run_cons, Source.resultsIn_cons, if_neg hs, hresults]

theorem agreeOn_run_run (d : Dashboard) (screen : Screen) {us vs : List (Update × String)}
    (h : s.updatesIn us = s.updatesIn vs) :
    AgreeOn s (d.run screen us).dashboard (d.run screen us).screen
        (d.run screen vs).dashboard (d.run screen vs).screen ∧
      s.resultsIn us (d.run screen us).shown = s.resultsIn vs (d.run screen vs).shown := by
  obtain ⟨hus, hresults⟩ := agreeOn_run (.refl s d screen) rfl us
  obtain ⟨hvs, hresults'⟩ := agreeOn_run (.refl s d screen) rfl vs
  rw [h] at hus hresults
  exact ⟨hus.trans hvs.symm, hresults.trans hresults'.symm⟩

theorem run_eq_run (d : Dashboard) (screen : Screen) {us vs : List (Update × String)}
    (h : ∀ s : Source, s.updatesIn us = s.updatesIn vs) :
    (d.run screen us).dashboard = (d.run screen vs).dashboard ∧
      (d.run screen us).screen = (d.run screen vs).screen := by
  have hagree (s : Source) := (agreeOn_run_run d screen (h s)).1
  constructor
  · have hhistory := (hagree .metrics).history rfl
    have hactive : (d.run screen us).dashboard.active = (d.run screen vs).dashboard.active := by
      rw [active_run, active_run]
    have hmemory : (d.run screen us).dashboard.lastCycle? =
        (d.run screen vs).dashboard.lastCycle? := funext fun s => (hagree s).lastCycle?
    cases hus : (d.run screen us).dashboard
    cases hvs : (d.run screen vs).dashboard
    simp_all
  · refine Screen.ext_read (by simp) fun p => ?_
    cases hp : p.owner? with
    | none => rw [read_run_of_owner?_eq_none hp, read_run_of_owner?_eq_none hp]
    | some s => exact (hagree s).read p hp

/-- **Every source for itself.** Whatever the dashboard and the screen are at the start: what a
source owns at the end, and which of its updates are shown, is as if no other source existed;
what no source owns is never changed. So updates of different sources commute, it does not
matter in which order the sources take turns, and replacing all that one source delivers
changes nothing that the others own. -/
theorem run_splits_by_source (d : Dashboard) (screen : Screen) (us : List (Update × String)) :
    (∀ s : Source,
      AgreeOn s (d.run screen us).dashboard (d.run screen us).screen
        (d.run screen (s.updatesIn us)).dashboard (d.run screen (s.updatesIn us)).screen ∧
      s.resultsIn us (d.run screen us).shown = (d.run screen (s.updatesIn us)).shown) ∧
    ((d.run screen us).dashboard.active = d.active ∧
      (d.run screen us).screen.slots = screen.slots ∧
      ∀ p : Place, p.owner? = none → (d.run screen us).screen.read p = screen.read p) ∧
    (∀ x y : Update × String, x.1.source ≠ y.1.source →
      (d.run screen [x, y]).dashboard = (d.run screen [y, x]).dashboard ∧
      (d.run screen [x, y]).screen = (d.run screen [y, x]).screen ∧
      (d.run screen [x, y]).shown = (d.run screen [y, x]).shown.reverse) ∧
    (∀ vs : List (Update × String), (∀ s : Source, s.updatesIn us = s.updatesIn vs) →
      (d.run screen us).dashboard = (d.run screen vs).dashboard ∧
      (d.run screen us).screen = (d.run screen vs).screen) ∧
    (∀ (vs : List (Update × String)) (t : Source),
      (∀ s : Source, s ≠ t → s.updatesIn us = s.updatesIn vs) →
      ∀ s : Source, s ≠ t →
        AgreeOn s (d.run screen us).dashboard (d.run screen us).screen
          (d.run screen vs).dashboard (d.run screen vs).screen ∧
        s.resultsIn us (d.run screen us).shown = s.resultsIn vs (d.run screen vs).shown) := by
  refine ⟨fun s => agreeOn_run (.refl s d screen) rfl us, ⟨active_run us, slots_run us,
    fun p hp => read_run_of_owner?_eq_none hp us⟩, ?_, fun vs h => run_eq_run d screen h,
    fun vs t h s hs => agreeOn_run_run d screen (h s hs)⟩
  intro x y hxy
  have hsame (s : Source) : s.updatesIn [x, y] = s.updatesIn [y, x] := by
    by_cases hx : x.1.source = s
    · have hy : y.1.source ≠ s := fun hy => hxy (hx.trans hy.symm)
      simp [Source.updatesIn_cons, hx, hy]
    · simp [Source.updatesIn_cons, hx]
  obtain ⟨hdash, hscreen⟩ := run_eq_run d screen hsame
  refine ⟨hdash, hscreen, ?_⟩
  have hx : (d.apply screen y.1 y.2).dashboard.isStale x.1 = d.isStale x.1 := by
    rw [isStale, isStale, lastCycle?_apply_of_ne hxy]
  have hy : (d.apply screen x.1 x.2).dashboard.isStale y.1 = d.isStale y.1 := by
    rw [isStale, isStale, lastCycle?_apply_of_ne (Ne.symm hxy)]
  simp [run_cons, hx, hy]

/-- Metrics may come before or after two responses of the hosts, of which the second is late. -/
theorem run_splits_by_source_hosts :
    let hosts : List (Update × String) :=
      [(⟨2, .hosts [⟨"10.0.0.1", 7⟩]⟩, "12:00:01"), (⟨1, .hosts [⟨"10.0.0.2", 9⟩]⟩, "12:00:02")]
    let metrics : Update × String := (⟨1, .metrics [⟨"cpu.usage", ⟨1⟩⟩]⟩, "12:00:03")
    let screen := Screen.withSlots [Table.hosts.slot, Chart.cpu.slot]
    let first := (default.run screen (metrics :: hosts)).screen
    let last := (default.run screen (hosts ++ [metrics])).screen
    (∀ s : Source, s.updatesIn (metrics :: hosts) = s.updatesIn (hosts ++ [metrics])) ∧
      first = last ∧ last.rows .hosts = [HostTraffic.cells ⟨"10.0.0.1", 7⟩] ∧
      last.chart? .cpu = some ⟨["12:00:03"], [[⟨1⟩]]⟩ := by
  intro hosts metrics screen first last
  have hsame (s : Source) : s.updatesIn (metrics :: hosts) = s.updatesIn (hosts ++ [metrics]) := by
    cases s <;> rfl
  obtain ⟨-, -, -, horder, -⟩ := run_splits_by_source default screen (metrics :: hosts)
  exact ⟨hsame, (horder _ hsame).2, rfl, rfl⟩

end Dashboard

end Telemetry
