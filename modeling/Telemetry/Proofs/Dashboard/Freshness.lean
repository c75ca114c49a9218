import Mathlib.Data.Set.Insert
import Mathlib.Order.Bounds.Defs
import Telemetry.Proofs.Dashboard.Run

/-!
The guard against late responses, over whole runs.

The dashboard compares a response with the last one that it has shown, and so
knows nothing of those it has dropped. That this is as good as comparing with
all of them is the invariant `IsNewest`: what is remembered of a source is the
greatest cycle among all that was received from it. One update preserves it
(`isNewest_apply`), whether the update is shown or dropped, and so does a run
(`isNewest_run`).
-/

namespace Telemetry

/-- The cycles of what was received from a source. -/
def Source.cyclesIn (s : Source) (us : List (Update × String)) : Set UInt64 :=
  {c | ∃ x ∈ us, x.1.source = s ∧ x.1.cycle = c}

@[simp] theorem Source.cyclesIn_nil (s : Source) : s.cyclesIn [] = ∅ := by
  simp [cyclesIn]

theorem Source.cyclesIn_cons_of_eq {s : Source} {x : Update × String} (h : x.1.source = s)
    (us : List (Update × String)) : s.cyclesIn (x :: us) = insert x.1.cycle (s.cyclesIn us) := by
  ext c
  simp [cyclesIn, h, eq_comm]

theorem Source.cyclesIn_cons_of_ne {s : Source} {x : Update × String} (h : x.1.source ≠ s)
    (us : List (Update × String)) : s.cyclesIn (x :: us) = s.cyclesIn us := by
  ext c
  simp [cyclesIn, h]

theorem Source.cyclesIn_mono {us vs : List (Update × String)} (h : ∀ x ∈ us, x ∈ vs)
    (s : Source) : s.cyclesIn us ⊆ s.cyclesIn vs := by
  rintro c ⟨x, hx, hs, hc⟩
  exact ⟨x, h x hx, hs, hc⟩

theorem Source.cyclesIn_eq_empty {s : Source} {us : List (Update × String)} :
    s.cyclesIn us = ∅ ↔ ∀ x ∈ us, x.1.source ≠ s := by
  rw [Set.eq_empty_iff_forall_notMem]
  constructor
  · intro h x hx hs
    exact h x.1.cycle ⟨x, hx, hs, rfl⟩
  · rintro h c ⟨x, hx, hs, -⟩
    exact h x hx hs

/-- A memory of cycles that holds the greatest of them, or nothing if there are none. -/
def IsNewest (cycles : Set UInt64) : Option UInt64 → Prop
  | none => cycles = ∅
  | some c => IsGreatest cycles c

namespace IsNewest

variable {cycles : Set UInt64} {memory : Option UInt64}

theorem eq_some_iff (h : IsNewest cycles memory) {c : UInt64} :
    memory = some c ↔ IsGreatest cycles c := by
  constructor
  · rintro rfl
    exact h
  · intro hc
    cases memory with
    | none => exact absurd hc.1 (by simp [show cycles = ∅ from h])
    | some m => rw [UInt64.le_antisymm (hc.2 h.1) (h.2 hc.1)]

theorem eq_none_iff (h : IsNewest cycles memory) : memory = none ↔ cycles = ∅ := by
  constructor
  · rintro rfl
    exact h
  · rintro rfl
    cases memory with
    | none => rfl
    | some m => exact absurd h.1 (Set.notMem_empty m)

theorem unique {memory' : Option UInt64} (h : IsNewest cycles memory)
    (h' : IsNewest cycles memory') : memory = memory' := by
  cases memory' with
  | none => exact h.eq_none_iff.2 h'
  | some c => exact h.eq_some_iff.2 h'

theorem insert_of_forall_le (c : UInt64) (hc : ∀ c' ∈ cycles, c' ≤ c) :
    IsNewest (insert c cycles) (some c) := by
  refine ⟨Set.mem_insert c cycles, ?_⟩
  rintro c' (rfl | hc')
  · exact UInt64.le_refl c'
  · exact hc c' hc'

theorem insert_of_lt {c m : UInt64} (h : IsNewest cycles (some m)) (hc : c < m) :
    IsNewest (insert c cycles) (some m) := by
  refine ⟨Set.mem_insert_of_mem c h.1, ?_⟩
  rintro c' (rfl | hc')
  · exact UInt64.le_of_lt hc
  · exact h.2 hc'

end IsNewest

namespace Dashboard

variable {d : Dashboard} {screen : Screen} {u : Update} {label : String} {s : Source}
  {cycles : Set UInt64}

/-- An update is stale if and only if something newer was received before. -/
theorem isStale_eq_false_iff (h : IsNewest cycles (d.lastCycle? u.source)) :
    d.isStale u = false ↔ ∀ c ∈ cycles, c ≤ u.cycle := by
  rw [← Bool.not_eq_true, isStale_iff]
  constructor
  · intro hfresh c hc
    cases hlast : d.lastCycle? u.source with
    | none =>
        rw [h.eq_none_iff.1 hlast] at hc
        exact absurd hc (Set.notMem_empty c)
    | some m =>
        have hm : ¬ u.cycle < m := fun hlt => hfresh ⟨m, hlast, hlt⟩
        exact UInt64.le_trans ((h.eq_some_iff.1 hlast).2 hc) (UInt64.not_lt.1 hm)
  · rintro hle ⟨m, hlast, hlt⟩
    exact UInt64.not_lt.2 (hle m (h.eq_some_iff.1 hlast).1) hlt

/-- **The invariant of one update.** -/
theorem isNewest_apply (h : IsNewest cycles (d.lastCycle? u.source)) :
    IsNewest (insert u.cycle cycles) ((d.apply screen u label).dashboard.lastCycle? u.source) := by
  cases hstale : d.isStale u with
  | true =>
      obtain ⟨m, hm, hlt⟩ := isStale_iff.1 hstale
      -- the update is dropped, but it was not the newest either
      rw [apply_of_isStale hstale]
      rw [hm] at h ⊢
      exact h.insert_of_lt hlt
  | false =>
      rw [apply_of_not_isStale hstale]
      simp only [lastCycle?_accept, if_true]
      exact .insert_of_forall_le _ ((isStale_eq_false_iff h).1 hstale)

/-- **The invariant of a run.** -/
theorem isNewest_run (screen : Screen) (h : IsNewest cycles (d.lastCycle? s))
    (us : List (Update × String)) :
    IsNewest (cycles ∪ s.cyclesIn us) ((d.run screen us).dashboard.lastCycle? s) := by
  induction us generalizing d screen cycles with
  | nil => simpa using h
  | cons x us ih =>
      rw [run_cons]
      by_cases hs : x.1.source = s
      · subst hs
        rw [Source.cyclesIn_cons_of_eq rfl, Set.union_insert, ← Set.insert_union]
        exact ih _ (isNewest_apply h)
      · -- what comes from another source changes neither side
        rw [Source.cyclesIn_cons_of_ne hs]
        refine ih _ ?_
        rwa [lastCycle?_apply_of_ne (Ne.symm hs)]

theorem isNewest_run_of_none (h : d.lastCycle? s = none) (us : List (Update × String)) :
    IsNewest (s.cyclesIn us) ((d.run screen us).dashboard.lastCycle? s) := by
  have hempty : IsNewest ∅ (d.lastCycle? s) := by
    rw [h]
    exact rfl
  simpa using isNewest_run screen hempty us

/-! ### Prefixes of a run -/

theorem getElem?_shown_run {us : List (Update × String)} {k : Nat} {x : Update × String}
    (hx : us[k]? = some x) :
    (d.run screen us).shown[k]? = some (!(d.run screen (us.take k)).dashboard.isStale x.1) := by
  induction us generalizing d screen k with
  | nil => simp at hx
  | cons y us ih =>
      cases k with
      | zero =>
          obtain rfl : y = x := by simpa using hx
          simp [run_cons]
      | succ k =>
          rw [List.getElem?_cons_succ] at hx
          simpa [run_cons] using ih hx

theorem run_take_succ (d : Dashboard) (screen : Screen) {us : List (Update × String)} {k : Nat}
    {x : Update × String} (hx : us[k]? = some x) :
    let before := d.run screen (us.take k)
    let applied := before.dashboard.apply before.screen x.1 x.2
    (d.run screen (us.take (k + 1))).dashboard = applied.dashboard ∧
      (d.run screen (us.take (k + 1))).screen = applied.screen := by
  rw [List.take_add_one, hx, Option.toList_some, run_append]
  exact ⟨rfl, rfl⟩

/-- **The guard is exact.** From a dashboard that remembers no cycle, and whatever is received:
an update is shown if and only if no update of its source that came before it, shown or dropped,
is of a greater cycle; what is remembered of a source is the greatest cycle received from it,
and never decreases; and an update that is dropped changes neither the dashboard nor the
screen. -/
theorem shown_iff_newest (d : Dashboard) (screen : Screen) (us : List (Update × String))
    (hd : ∀ s, d.lastCycle? s = none) :
    (∀ k u label, us[k]? = some (u, label) →
      (d.run screen us).shown[k]? =
        some (decide (∀ x ∈ us.take k, x.1.source = u.source → x.1.cycle ≤ u.cycle))) ∧
    (∀ k s c, (d.run screen (us.take k)).dashboard.lastCycle? s = some c ↔
      IsGreatest {c | ∃ x ∈ us.take k, x.1.source = s ∧ x.1.cycle = c} c) ∧
    (∀ k s, (d.run screen (us.take k)).dashboard.lastCycle? s = none ↔
      ∀ x ∈ us.take k, x.1.source ≠ s) ∧
    (∀ j k s c, j ≤ k → (d.run screen (us.take j)).dashboard.lastCycle? s = some c →
      ∃ c', (d.run screen (us.take k)).dashboard.lastCycle? s = some c' ∧ c ≤ c') ∧
    (∀ k, (d.run screen us).shown[k]? = some false →
      (d.run screen (us.take (k + 1))).dashboard = (d.run screen (us.take k)).dashboard ∧
      (d.run screen (us.take (k + 1))).screen = (d.run screen (us.take k)).screen) := by
  have hnewest (k : Nat) (s : Source) : IsNewest (s.cyclesIn (us.take k))
      ((d.run screen (us.take k)).dashboard.lastCycle? s) := isNewest_run_of_none (hd s) _
  refine ⟨?_, ?_, ?_, ?_, ?_⟩
  · intro k u label hx
    rw [getElem?_shown_run hx, Option.some.injEq, Bool.eq_iff_iff, Bool.not_eq_true',
      decide_eq_true_iff, isStale_eq_false_iff (hnewest k u.source)]
    constructor
    · intro h x hx hs
      exact h x.1.cycle ⟨x, hx, hs, rfl⟩
    · rintro h c ⟨x, hx, hs, rfl⟩
      exact h x hx hs
  · intro k s c
    exact (hnewest k s).eq_some_iff
  · intro k s
    rw [(hnewest k s).eq_none_iff, Source.cyclesIn_eq_empty]
  · intro j k s c hjk hc
    have hmem : c ∈ s.cyclesIn (us.take k) :=
      Source.cyclesIn_mono (fun x hx => List.take_subset_take_left us hjk hx) s
        ((hnewest j s).eq_some_iff.1 hc).1
    cases hlast : (d.run screen (us.take k)).dashboard.lastCycle? s with
    | none =>
        rw [(hnewest k s).eq_none_iff.1 hlast] at hmem
        exact absurd hmem (Set.notMem_empty c)
    | some c' => exact ⟨c', rfl, ((hnewest k s).eq_some_iff.1 hlast).2 hmem⟩
  · intro k hdropped
    have hk : k < us.length := by
      simpa using (List.getElem?_eq_some_iff.1 hdropped).1
    have hx : us[k]? = some us[k] := List.getElem?_eq_getElem hk
    have hstale : (d.run screen (us.take k)).dashboard.isStale us[k].1 = true := by
      simpa [getElem?_shown_run hx] using hdropped
    obtain ⟨hdash, hscreen⟩ := run_take_succ d screen hx
    rw [hdash, hscreen, apply_of_isStale hstale]
    exact ⟨rfl, rfl⟩

/-- A response that was overtaken is dropped without a trace, and a repeated one is shown. -/
theorem shown_iff_newest_overtaken :
    let us : List (Update × String) :=
      [(⟨0, .hosts []⟩, "12:00:00"), (⟨3, .hosts []⟩, "12:00:01"), (⟨2, .metrics []⟩, "12:00:02"),
        (⟨2, .hosts []⟩, "12:00:03"), (⟨3, .hosts []⟩, "12:00:04")]
    (∀ s, default.lastCycle? s = none) ∧
      (default.run (.withSlots []) us).shown = [true, true, true, false, true] ∧
      (default.run (.withSlots []) (us.take 4)).dashboard =
        (default.run (.withSlots []) (us.take 3)).dashboard := by
  intro us
  have hempty (s : Source) : default.lastCycle? s = none := rfl
  have hshown : (default.run (.withSlots []) us).shown = [true, true, true, false, true] := by
    decide
  obtain ⟨-, -, -, -, hdropped⟩ := shown_iff_newest default (.withSlots []) us hempty
  exact ⟨hempty, hshown, (hdropped 3 (by rw [hshown]; rfl)).1⟩

end Dashboard

end Telemetry
