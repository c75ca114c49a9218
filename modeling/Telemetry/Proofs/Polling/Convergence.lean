import Telemetry.Proofs.Dashboard.Display
import Telemetry.Proofs.Dashboard.Freshness
import Telemetry.Proofs.Dashboard.Isolation
import Telemetry.Proofs.Polling.Basic

/-!
Convergence: in the end the newest snapshot of each source is on display.

When nothing is left to happen, a dashboard has received every update exactly
once, in some order. The guard against late responses then leaves of each source
the update of the greatest cycle in which the source did not fail
(`Polling.exists_newest`), whatever that order was; what is on display of it is
the matter of `Dashboard.displays_run`.
-/

namespace Telemetry

/-- The snapshot of the greatest cycle in which a source does not fail. -/
def Answers.Newest (answers : Answers) (cycles : UInt64) (s : Source) (c : UInt64)
    (snapshot : Snapshot) : Prop :=
  IsGreatest (answers.successes cycles s) c ∧ answers.snapshot? c s = some snapshot

theorem Answers.Newest.unique {answers : Answers} {cycles : UInt64} {s : Source} {c c' : UInt64}
    {snapshot snapshot' : Snapshot} (h : answers.Newest cycles s c snapshot)
    (h' : answers.Newest cycles s c' snapshot') : snapshot = snapshot' := by
  obtain rfl : c = c' := UInt64.le_antisymm (h'.1.2 h.1.1) (h.1.2 h'.1.1)
  exact Option.some.inj (h.2.symm.trans h'.2)

namespace Polling

variable {answers : Answers} {cycles : UInt64} {screen : Screen} {slots : List String}
  {p q : Polling} {s : Source}

/-- The updates that were shown, with their labels. -/
def shown (p : Polling) (screen : Screen) : List (Update × String) :=
  Dashboard.default.accepted screen p.received

theorem Invariant.cyclesIn_received (h : p.Invariant answers cycles screen) (hdone : p.IsDone)
    (s : Source) : s.cyclesIn p.received = answers.successes cycles s := by
  have hperm := h.received_perm_sent hdone
  ext c
  constructor
  · rintro ⟨x, hx, rfl, rfl⟩
    obtain ⟨hpos, hle, hanswer⟩ :=
      Answers.mem_sent.1 (hperm.mem_iff.1 (List.mem_map_of_mem (f := Prod.fst) hx))
    exact ⟨hpos, hle, by rw [hanswer]; rfl⟩
  · rintro ⟨hpos, hle, hsome⟩
    obtain ⟨snapshot, hanswer⟩ := Option.isSome_iff_exists.1 hsome
    obtain rfl := answers.source_eq hanswer
    have hsent : (⟨c, snapshot⟩ : Update) ∈ answers.sent cycles :=
      Answers.mem_sent.2 ⟨hpos, hle, hanswer⟩
    obtain ⟨x, hx, hu⟩ := List.mem_map.1 (hperm.mem_iff.2 hsent)
    exact ⟨x, hx, by rw [hu]; rfl, by rw [hu]⟩

theorem Invariant.isNewest (h : p.Invariant answers cycles screen) (hdone : p.IsDone)
    (s : Source) : IsNewest (answers.successes cycles s) (p.dashboard.lastCycle? s) := by
  rw [← h.cyclesIn_received hdone, h.dashboard_eq]
  exact Dashboard.isNewest_run_of_none rfl _

theorem Invariant.lastCycle?_eq (h : p.Invariant answers cycles screen) (s : Source) :
    p.dashboard.lastCycle? s = (s.lastIn (p.shown screen)).map fun x => x.1.cycle := by
  rw [h.dashboard_eq, Dashboard.lastCycle?_run]
  exact Option.or_none

/-- **The last update of a source that is shown is its newest.** -/
theorem Invariant.exists_newest (h : p.Invariant answers cycles screen) (hdone : p.IsDone)
    (hs : (answers.successes cycles s).Nonempty) :
    ∃ x, s.lastIn (p.shown screen) = some x ∧ x ∈ p.received ∧
      answers.Newest cycles s x.1.cycle x.1.snapshot := by
  have hnewest := h.isNewest hdone s
  rw [h.lastCycle?_eq] at hnewest
  cases hlast : s.lastIn (p.shown screen) with
  | none =>
      rw [hlast] at hnewest
      exact absurd (hnewest.eq_none_iff.1 rfl) hs.ne_empty
  | some x =>
      rw [hlast] at hnewest
      have hreceived : x ∈ p.received :=
        (Dashboard.accepted_sublist _).subset (Source.mem_of_lastIn hlast)
      have hsent : x.1 ∈ answers.sent cycles :=
        (h.received_perm_sent hdone).mem_iff.1 (List.mem_map_of_mem hreceived)
      obtain rfl := Source.source_of_lastIn hlast
      exact ⟨x, rfl, hreceived, hnewest, (Answers.mem_sent.1 hsent).2.2⟩

theorem Invariant.agreeOn_start (h : p.Invariant answers cycles screen) (hdone : p.IsDone)
    (hs : answers.successes cycles s = ∅) :
    AgreeOn s p.dashboard p.screen .default screen := by
  rw [← h.cyclesIn_received hdone, Source.cyclesIn_eq_empty] at hs
  have hnil : s.updatesIn p.received = [] := by simpa [Source.updatesIn] using hs
  obtain ⟨hagree, -⟩ := Dashboard.agreeOn_run (.refl s .default screen) rfl p.received
  rw [hnil] at hagree
  rw [h.dashboard_eq, h.screen_eq]
  exact hagree

/-- The order of delivery has no influence on which snapshot of a source is shown last. -/
theorem Invariant.snapshot_lastIn_eq (hp : p.Invariant answers cycles screen)
    (hpdone : p.IsDone) (hq : q.Invariant answers cycles screen) (hqdone : q.IsDone) (s : Source) :
    ((s.lastIn (p.shown screen)).map fun x => x.1.snapshot) =
      (s.lastIn (q.shown screen)).map fun x => x.1.snapshot := by
  rcases (answers.successes cycles s).eq_empty_or_nonempty with hs | hs
  · have hnone {r : Polling} (h : r.Invariant answers cycles screen) (hdone : r.IsDone) :
        s.lastIn (r.shown screen) = none := by
      have hlast := (h.isNewest hdone s).eq_none_iff.2 hs
      rwa [h.lastCycle?_eq, Option.map_eq_none_iff] at hlast
    rw [hnone hp hpdone, hnone hq hqdone]
  · obtain ⟨x, hx, -, hnewest⟩ := hp.exists_newest hpdone hs
    obtain ⟨y, hy, -, hnewest'⟩ := hq.exists_newest hqdone hs
    rw [hx, hy, Option.map_some, Option.map_some, hnewest.unique hnewest']

theorem Invariant.pairwise_lt_shown (h : p.Invariant answers cycles screen) (hdone : p.IsDone)
    (s : Source) : (s.updatesIn (p.shown screen)).Pairwise fun x y => x.1.cycle < y.1.cycle := by
  have hsub : (s.updatesIn (p.shown screen)).Sublist p.received :=
    List.filter_sublist.trans (Dashboard.accepted_sublist _)
  have hnodup : (p.received.map fun x => (x.1.cycle, x.1.source)).Nodup := by
    have hperm := (h.received_perm_sent hdone).map fun u => (u.cycle, u.source)
    rw [List.map_map] at hperm
    exact hperm.nodup_iff.2 (answers.nodup_sent cycles)
  -- a source is asked once in a cycle, so two of its updates differ in the cycle
  have hne := List.pairwise_map.1 (hnodup.sublist (hsub.map _))
  have hle : (s.updatesIn (p.shown screen)).Pairwise fun x y => x.1.cycle ≤ y.1.cycle :=
    Dashboard.pairwise_le_accepted p.received
  refine (hle.and hne).imp_of_mem ?_
  rintro x y hx hy ⟨hle, hne⟩
  refine UInt64.lt_of_le_of_ne hle fun hcycle => hne ?_
  rw [hcycle, of_decide_eq_true (List.mem_filter.1 hx).2,
    of_decide_eq_true (List.mem_filter.1 hy).2]

/-- What two ends have in common: the newest cycle of every source, the tables, the fields of
the system, the fields that the newest snapshot of the metrics names, and the newest values of
the charts. They may differ in the labels of the charts, in their older points, and in fields
that only an older snapshot of the metrics names. -/
structure SameOutcome (answers : Answers) (cycles : UInt64) (p q : Polling) : Prop where
  lastCycle? : ∀ s, p.dashboard.lastCycle? s = q.dashboard.lastCycle? s
  rows : ∀ t, p.screen.rows t = q.screen.rows t
  system : ∀ slot ∈ systemSlots, p.screen.field? slot = q.screen.field? slot
  metric : ∀ {c samples}, answers.Newest cycles .metrics c (.metrics samples) →
    ∀ sample ∈ samples, p.screen.field? (Readout.metricSlot sample.name) =
      q.screen.field? (Readout.metricSlot sample.name)
  values : ∀ c, (p.dashboard.history.window c).points.getLast?.map Point.values =
    (q.dashboard.history.window c).points.getLast?.map Point.values
  chart : ∀ c, (p.screen.chart? c).map (fun data => data.series.map List.getLast?) =
    (q.screen.chart? c).map fun data => data.series.map List.getLast?

theorem Invariant.sameOutcome (hp : p.Invariant answers cycles (.withSlots slots))
    (hpdone : p.IsDone) (hq : q.Invariant answers cycles (.withSlots slots)) (hqdone : q.IsDone) :
    SameOutcome answers cycles p q := by
  have hlast := hp.snapshot_lastIn_eq hpdone hq hqdone
  refine ⟨?_, ?_, ?_, ?_, ?_, ?_⟩
  · intro s
    exact (hp.isNewest hpdone s).unique (hq.isNewest hqdone s)
  · intro t
    rw [hp.screen_eq, hq.screen_eq]
    exact Dashboard.rows_run_congr (hlast t.source)
  · intro slot hslot
    rw [hp.screen_eq, hq.screen_eq]
    exact Dashboard.system_run_congr hslot (hlast .systemInfo)
  · intro c samples hnewest sample hsample
    rw [hp.screen_eq, hq.screen_eq]
    refine Dashboard.metric_run_congr (hlast .metrics) fun x hx => ?_
    obtain ⟨y, hy, -, hnewest'⟩ := hp.exists_newest hpdone ⟨c, hnewest.1.1⟩
    obtain rfl : x = y := Option.some.inj (hx.symm.trans hy)
    rw [hnewest'.unique hnewest]
    exact hsample
  · intro c
    rw [hp.dashboard_eq, hq.dashboard_eq]
    exact Dashboard.values_run_congr (hlast .metrics) c
  · intro c
    rw [hp.screen_eq, hq.screen_eq]
    exact Dashboard.chart_run_congr (hlast .metrics) c

/-- **Convergence.** Let every update have been delivered and received, in whatever order. Of
each source that has not always failed, the newest cycle in which it has not is the one that is
remembered, and its snapshot is on display; a source that has always failed has left no trace.
So all orders come to the same outcome. On the way every update is received exactly once, what
is shown of a source is of ever greater cycles, and the charts hold the newest of what was
shown. The declared slots are what they were. -/
theorem converges (hp : Reaches answers (start cycles (.withSlots slots)) p) (hdone : p.IsDone) :
    (∀ s, (answers.successes cycles s).Nonempty →
      ∃ c snapshot label, answers.Newest cycles s c snapshot ∧
        p.dashboard.lastCycle? s = some c ∧
        (⟨c, snapshot⟩, label) ∈ p.received ∧
        p.dashboard.Displays p.screen label snapshot) ∧
    (∀ s, answers.successes cycles s = ∅ →
      p.dashboard.lastCycle? s = none ∧
        AgreeOn s p.dashboard p.screen .default (.withSlots slots)) ∧
    (∀ q, Reaches answers (start cycles (.withSlots slots)) q → q.IsDone →
      SameOutcome answers cycles p q) ∧
    (p.received.map Prod.fst).Perm (answers.sent cycles) ∧
    (∀ s : Source, (s.updatesIn (p.shown (.withSlots slots))).Pairwise fun x y =>
      x.1.cycle < y.1.cycle) ∧
    (∀ c : Chart, (p.dashboard.history.window c).points =
      (c.pointsIn (p.shown (.withSlots slots))).rtake Chart.defaultCapacity) ∧
    (∀ slot, p.screen.hasSlot slot = true ↔ slot ∈ slots) := by
  have h := invariant_of_reaches hp
  refine ⟨?_, ?_, ?_, h.received_perm_sent hdone, h.pairwise_lt_shown hdone, ?_, ?_⟩
  · intro s hs
    obtain ⟨⟨⟨c, snapshot⟩, label⟩, hlast, hreceived, hnewest⟩ := h.exists_newest hdone hs
    refine ⟨c, snapshot, label, hnewest, ?_, hreceived, ?_⟩
    · rw [h.lastCycle?_eq, hlast, Option.map_some]
    · rw [h.dashboard_eq, h.screen_eq]
      exact Dashboard.displays_run hlast
  · intro s hs
    exact ⟨(h.isNewest hdone s).eq_none_iff.2 hs, h.agreeOn_start hdone hs⟩
  · intro q hq hqdone
    exact h.sameOutcome hdone (invariant_of_reaches hq) hqdone
  · intro c
    rw [h.dashboard_eq]
    exact Dashboard.points_run_empty Chart.defaultCapacity (.withSlots slots) p.received c
  · intro slot
    rw [h.screen_eq, Dashboard.hasSlot_run, Screen.hasSlot_withSlots]

/-- In two cycles the hosts answer twice, the metrics only once, and nobody else answers. -/
def hostsTwice : Answers where
  snapshot? cycle source :=
    match source with
    | .hosts => some (.hosts [⟨"10.0.0.1", cycle⟩])
    | .metrics => if cycle = 1 then some (.metrics [⟨"load", ⟨0⟩⟩]) else none
    | _ => none
  source_eq {cycle source snapshot} h := by
    cases source with
    | metrics =>
        by_cases hcycle : cycle = 1
        · obtain rfl : Snapshot.metrics [⟨"load", ⟨0⟩⟩] = snapshot := by simpa [hcycle] using h
          rfl
        · simp [hcycle] at h
    | hosts =>
        obtain rfl := Option.some.inj h
        rfl
    | connections => exact nomatch h
    | systemInfo => exact nomatch h

/-- The hosts of the second cycle overtake those of the first, and remain. -/
theorem converges_hostsTwice :
    ∃ p, Reaches hostsTwice (start 2 (.withSlots [Table.hosts.slot])) p ∧ p.IsDone ∧
      (p.received.map fun x => (x.1.cycle, x.1.source)) =
        [(2, .hosts), (1, .metrics), (1, .hosts)] ∧
      ∃ c snapshot label, hostsTwice.Newest 2 .hosts c snapshot ∧
        p.dashboard.lastCycle? .hosts = some c ∧ (⟨c, snapshot⟩, label) ∈ p.received ∧
        p.dashboard.Displays p.screen label snapshot := by
  let received : List (Update × String) :=
    [(⟨2, .hosts [⟨"10.0.0.1", 2⟩]⟩, "12:00:02"), (⟨1, .metrics [⟨"load", ⟨0⟩⟩]⟩, "12:00:03"),
      (⟨1, .hosts [⟨"10.0.0.1", 1⟩]⟩, "12:00:03")]
  have hperm : (received.map Prod.fst).Perm (hostsTwice.sent 2) := by decide
  have hrun := reaches_of_perm hperm (.withSlots [Table.hosts.slot])
  exact ⟨_, hrun, ⟨rfl, rfl, rfl⟩, rfl,
    (converges hrun ⟨rfl, rfl, rfl⟩).1 .hosts ⟨1, by decide, by decide, rfl⟩⟩

end Polling

end Telemetry
