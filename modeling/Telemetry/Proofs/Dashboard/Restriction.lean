import Telemetry.Proofs.Dashboard.Run

/-!
Screens with fewer slots.

A slot that is not declared hides what would be shown there, and that is all it
does. `Screen.restrict` keeps some of the slots of a screen and forgets what the
others show; writing to the screen and forgetting then commute, because what a
place shows is decided by the writes to that place alone. The dashboard computes
its writes without a look at the screen, so a run on the restricted screen takes
the same steps and ends in the restriction of the screen that the other run ends
in (`Dashboard.run_restrict`).
-/

namespace Telemetry

/-- What a place shows to which nothing was written. -/
def Place.blank : (p : Place) → p.Content
  | .field _ => none
  | .table _ => []
  | .chart _ => none

namespace Screen

variable {s : Screen} {slots : List String} {p : Place}

/-- The screen that has only the given slots, and shows in them what it showed before. -/
def restrict (s : Screen) (slots : List String) : Screen where
  slots := slots
  field? slot := if slot ∈ slots then s.field? slot else none
  rows t := if t.slot ∈ slots then s.rows t else []
  chart? c := if c.slot ∈ slots then s.chart? c else none

@[simp] theorem slots_restrict : (s.restrict slots).slots = slots := rfl

@[simp] theorem hasSlot_restrict (slot : String) :
    (s.restrict slots).hasSlot slot = true ↔ slot ∈ slots := by
  simp [hasSlot]

@[simp] theorem read_restrict :
    (s.restrict slots).read p = if p.slot ∈ slots then s.read p else p.blank := by
  cases p <;> rfl

theorem restrict_withSlots (wide : List String) :
    (withSlots wide).restrict slots = withSlots slots := by
  refine ext_read rfl fun p => ?_
  have hblank (declared : List String) : (withSlots declared).read p = p.blank := by
    cases p <;> rfl
  rw [read_restrict, hblank, hblank, ite_self]

/-- Writing and forgetting commute, if the slots that are kept were declared. -/
theorem writeAll_restrict (h : slots ⊆ s.slots) (ws : List Write) :
    (s.restrict slots).writeAll ws = (s.writeAll ws).restrict slots := by
  refine ext_read (by simp) fun p => ?_
  simp only [read_writeAll, hasSlot_restrict, read_restrict]
  by_cases hp : p.slot ∈ slots
  · have hdeclared : s.hasSlot p.slot = true := by simpa [hasSlot] using h hp
    simp only [hp, hdeclared, if_true]
  · simp only [hp, if_false]

theorem declared_restrict (h : slots ⊆ s.slots) (ws : List Write) :
    (s.restrict slots).declared ws = (s.declared ws).filter fun w => w.slot ∈ slots := by
  rw [declared, declared, List.filter_filter]
  refine List.filter_congr fun w _ => ?_
  rw [Bool.eq_iff_iff, hasSlot_restrict, Bool.and_eq_true, decide_eq_true_eq]
  refine ⟨fun hw => ⟨hw, ?_⟩, And.left⟩
  simpa [hasSlot] using h hw

end Screen

namespace Dashboard

variable {d : Dashboard} {screen : Screen} {slots : List String}

theorem apply_restrict (h : slots ⊆ screen.slots) (u : Update) (label : String) :
    d.apply (screen.restrict slots) u label =
      let wide := d.apply screen u label
      ⟨wide.shown, wide.dashboard, wide.writes.filter fun w => w.slot ∈ slots,
        wide.screen.restrict slots⟩ := by
  cases hstale : d.isStale u with
  | true => simp [apply_of_isStale hstale]
  | false =>
      simp only [apply_of_not_isStale hstale]
      rw [Screen.declared_restrict h, Screen.writeAll_restrict h]

/-- A run on a restricted screen takes the same steps. -/
theorem run_restrict (h : slots ⊆ screen.slots) (us : List (Update × String)) :
    d.run (screen.restrict slots) us =
      let wide := d.run screen us
      ⟨wide.shown, wide.dashboard, wide.writes.filter fun w => w.slot ∈ slots,
        wide.screen.restrict slots⟩ := by
  induction us generalizing d screen with
  | nil => rfl
  | cons x us ih =>
      have hnext : slots ⊆ (d.apply screen x.1 x.2).screen.slots := by simpa using h
      rw [run_cons, run_cons, apply_restrict h]
      simp only [ih hnext, List.filter_append]

/-- **Undeclaring slots only hides.** On a screen with fewer slots the same updates are shown and
the dashboard ends the same; the screen is the restriction of the other one: where it has a slot
it shows the same, and nothing anywhere else. No run changes which slots there are. -/
theorem run_withSlots_of_subset (fewer more : List String) (h : fewer ⊆ more) (d : Dashboard)
    (us : List (Update × String)) :
    let part := d.run (.withSlots fewer) us
    let whole := d.run (.withSlots more) us
    part.shown = whole.shown ∧
    part.dashboard = whole.dashboard ∧
    part.screen = whole.screen.restrict fewer ∧
    (∀ p : Place, p.slot ∈ fewer → part.screen.read p = whole.screen.read p) ∧
    (∀ p : Place, p.slot ∉ fewer → part.screen.read p = p.blank) ∧
    part.writes = whole.writes.filter (fun w => w.slot ∈ fewer) ∧
    ∀ screen : Screen, (d.run screen us).screen.slots = screen.slots := by
  intro part whole
  have hpart : part = ⟨whole.shown, whole.dashboard,
      whole.writes.filter fun w => w.slot ∈ fewer, whole.screen.restrict fewer⟩ := by
    have hslots : fewer ⊆ (Screen.withSlots more).slots := h
    have hrestrict := run_restrict (d := d) hslots us
    rwa [Screen.restrict_withSlots] at hrestrict
  rw [hpart]
  refine ⟨rfl, rfl, rfl, ?_, ?_, rfl, fun screen => slots_run us⟩
  · intro p hp
    rw [Screen.read_restrict, if_pos hp]
  · intro p hp
    rw [Screen.read_restrict, if_neg hp]

/-- Without the slot of a chart the table of the hosts is shown as before, and the points of the
chart are kept all the same. -/
theorem run_withSlots_of_subset_cpu :
    let us : List (Update × String) :=
      [(⟨1, .metrics [⟨"cpu.usage", ⟨1⟩⟩]⟩, "12:00:01"),
        (⟨1, .hosts [⟨"10.0.0.1", 7⟩]⟩, "12:00:02")]
    let part := default.run (.withSlots [Table.hosts.slot]) us
    let whole := default.run (.withSlots [Chart.cpu.slot, Table.hosts.slot]) us
    [Table.hosts.slot] ⊆ [Chart.cpu.slot, Table.hosts.slot] ∧
      part.screen.rows .hosts = whole.screen.rows .hosts ∧
      part.screen.chart? .cpu = none ∧
      whole.screen.chart? .cpu = some ⟨["12:00:01"], [[⟨1⟩]]⟩ ∧
      (part.dashboard.history.window .cpu).labels = ["12:00:01"] := by
  intro us part whole
  have hsubset : [Table.hosts.slot] ⊆ [Chart.cpu.slot, Table.hosts.slot] := by simp
  obtain ⟨-, hdashboard, -, hsame, hblank, -⟩ := run_withSlots_of_subset _ _ hsubset default us
  refine ⟨hsubset, hsame (.table .hosts) (by decide), hblank (.chart .cpu) (by decide), rfl, ?_⟩
  show ((default.run _ us).dashboard.history.window .cpu).labels = _
  rw [hdashboard]
  rfl

end Dashboard

end Telemetry
