import Telemetry.Backend.Refresh
import Telemetry.Proofs.Screen.Ownership

/-!
What one update does, and what a run of updates does.

`Dashboard.apply` gives the source an entry in the memory of cycles, looks
whether the update is stale, and only then shows it. The first section sums this
up in two equations, one for an update that is dropped and one for an update
that is shown; nothing after it unfolds `apply`. What a run does to the slots and
to the active panel, which is nothing, follows by induction.
-/

namespace Telemetry

namespace Dashboard

variable {d : Dashboard} {screen : Screen} {u : Update} {label : String} {s : Source}

/-! ### One update -/

theorem isStale_iff :
    d.isStale u = true ↔ ∃ c, d.lastCycle? u.source = some c ∧ u.cycle < c := by
  rw [isStale, decide_eq_true_iff]
  cases h : d.lastCycle? u.source with
  | none => simp
  | some c => simp

theorem enroll_of_isStale (h : d.isStale u = true) : d.enroll u.source = d := by
  -- a missing entry counts as zero, and no cycle is smaller: the entry was there
  obtain ⟨c, hc, -⟩ := isStale_iff.1 h
  have hmemory : (d.enroll u.source).lastCycle? = d.lastCycle? := by
    funext s
    rw [enroll, lastCycle?_setLastCycle]
    split
    · next hs => rw [hs, hc, Option.getD_some]
    · rfl
  show ({ d with lastCycle? := (d.enroll u.source).lastCycle? } : Dashboard) = d
  rw [hmemory]

@[simp] theorem isStale_enroll : (d.enroll u.source).isStale u = d.isStale u := by
  simp [isStale, enroll]

@[simp] theorem setLastCycle_enroll (source : Source) (cycle : UInt64) :
    (d.enroll source).setLastCycle source cycle = d.setLastCycle source cycle := by
  simp only [enroll, setLastCycle, mk.injEq, true_and]
  funext s
  split <;> rfl

/-- The dashboard once an update is shown. -/
def accept (d : Dashboard) (u : Update) (label : String) : Dashboard :=
  (d.setLastCycle u.source u.cycle).remember label u.snapshot

@[simp] theorem lastCycle?_accept (s : Source) :
    (d.accept u label).lastCycle? s = if s = u.source then some u.cycle else d.lastCycle? s := by
  simp [accept]

@[simp] theorem active_accept : (d.accept u label).active = d.active := by
  simp [accept, setLastCycle]

theorem history_accept_of_ne (h : u.source ≠ .metrics) :
    (d.accept u label).history = d.history := by
  rcases u with ⟨cycle, snapshot⟩
  cases snapshot with
  | metrics samples => exact absurd rfl h
  | connections rows => rfl
  | hosts rows => rfl
  | systemInfo info => rfl

theorem apply_of_isStale (h : d.isStale u = true) :
    d.apply screen u label = ⟨false, d, [], screen⟩ := by
  simp [apply, h, enroll_of_isStale h]

theorem apply_of_not_isStale (h : d.isStale u = false) :
    d.apply screen u label =
      ⟨true, d.accept u label, screen.declared (d.writesOf label u.snapshot),
        screen.writeAll (d.writesOf label u.snapshot)⟩ := by
  simp [apply, h, accept]

@[simp] theorem shown_apply : (d.apply screen u label).shown = !d.isStale u := by
  cases h : d.isStale u with
  | true => rw [apply_of_isStale h]; rfl
  | false => rw [apply_of_not_isStale h]; rfl

@[simp] theorem slots_apply : (d.apply screen u label).screen.slots = screen.slots := by
  cases h : d.isStale u with
  | true => rw [apply_of_isStale h]
  | false => simp [apply_of_not_isStale h]

@[simp] theorem active_apply : (d.apply screen u label).dashboard.active = d.active := by
  cases h : d.isStale u with
  | true => rw [apply_of_isStale h]
  | false => simp [apply_of_not_isStale h]

theorem lastCycle?_apply_of_ne (h : s ≠ u.source) :
    (d.apply screen u label).dashboard.lastCycle? s = d.lastCycle? s := by
  cases hstale : d.isStale u with
  | true => rw [apply_of_isStale hstale]
  | false => simp [apply_of_not_isStale hstale, h]

theorem read_apply_of_ne {p : Place} (h : p.owner? ≠ some u.source) :
    (d.apply screen u label).screen.read p = screen.read p := by
  cases hstale : d.isStale u with
  | true => rw [apply_of_isStale hstale]
  | false =>
      rw [apply_of_not_isStale hstale]
      exact Screen.read_writeAll_of_forall_ne (place_ne_of_mem_writesOf h)

theorem history_apply_of_ne (h : u.source ≠ .metrics) :
    (d.apply screen u label).dashboard.history = d.history := by
  cases hstale : d.isStale u with
  | true => rw [apply_of_isStale hstale]
  | false =>
      rw [apply_of_not_isStale hstale]
      exact history_accept_of_ne h

/-! ### Runs -/

@[simp] theorem run_nil : d.run screen [] = ⟨[], d, [], screen⟩ := rfl

theorem run_cons (x : Update × String) (us : List (Update × String)) :
    d.run screen (x :: us) =
      let applied := d.apply screen x.1 x.2
      let later := applied.dashboard.run applied.screen us
      ⟨applied.shown :: later.shown, later.dashboard, applied.writes ++ later.writes,
        later.screen⟩ := rfl

theorem run_append (us vs : List (Update × String)) :
    d.run screen (us ++ vs) =
      let first := d.run screen us
      let later := first.dashboard.run first.screen vs
      ⟨first.shown ++ later.shown, later.dashboard, first.writes ++ later.writes,
        later.screen⟩ := by
  induction us generalizing d screen with
  | nil => rfl
  | cons x us ih =>
      simp only [List.cons_append, run_cons, ih, List.append_assoc]

@[simp] theorem length_shown_run (us : List (Update × String)) :
    (d.run screen us).shown.length = us.length := by
  induction us generalizing d screen with
  | nil => rfl
  | cons x us ih => simp [run_cons, ih]

@[simp] theorem slots_run (us : List (Update × String)) :
    (d.run screen us).screen.slots = screen.slots := by
  induction us generalizing d screen with
  | nil => rfl
  | cons x us ih => simp [run_cons, ih]

@[simp] theorem hasSlot_run (us : List (Update × String)) (slot : String) :
    (d.run screen us).screen.hasSlot slot = screen.hasSlot slot := by
  simp [Screen.hasSlot]

@[simp] theorem active_run (us : List (Update × String)) :
    (d.run screen us).dashboard.active = d.active := by
  induction us generalizing d screen with
  | nil => rfl
  | cons x us ih => simp [run_cons, ih]

theorem read_run_of_hasSlot_eq_false {p : Place} (hp : screen.hasSlot p.slot = false)
    (us : List (Update × String)) : (d.run screen us).screen.read p = screen.read p := by
  induction us generalizing d screen with
  | nil => rfl
  | cons x us ih =>
      rw [run_cons]
      refine (ih (by simpa [Screen.hasSlot] using hp)).trans ?_
      cases hstale : d.isStale x.1 with
      | true => rw [apply_of_isStale hstale]
      | false => simp [apply_of_not_isStale hstale, Screen.read_writeAll, hp]

theorem read_run_of_owner?_eq_none {p : Place} (hp : p.owner? = none)
    (us : List (Update × String)) : (d.run screen us).screen.read p = screen.read p := by
  induction us generalizing d screen with
  | nil => rfl
  | cons x us ih =>
      rw [run_cons]
      exact ih.trans (read_apply_of_ne (by simp [hp]))

end Dashboard

end Telemetry
