import Mathlib.Data.List.Nodup
import Mathlib.Order.Bounds.Defs
import Telemetry.Backend.Refresh

/-!
What the requests of a number of refresh cycles are answered with.

An `Answers` says for every request, that is for every cycle and every source,
whether it fails or which snapshot it brings, and that a snapshot is of the
source that was asked. Nothing else is assumed about them. Any backend gives
rise to such answers whatever comes of its exchanges (`Backend.answers`), and
what its first cycles deliver is then what is in the answers
(`Backend.schedule_eq_sent`).
-/

namespace Telemetry

/-- The snapshot that each request brings, if it does not fail. -/
structure Answers where
  snapshot? : UInt64 → Source → Option Snapshot
  source_eq : ∀ {cycle source snapshot}, snapshot? cycle source = some snapshot →
    snapshot.source = source

/-- The requests of the first cycles, in the order in which they are made. -/
def requests (count : Nat) : List (UInt64 × Source) :=
  (List.range count).flatMap fun i => Source.all.map fun source => (UInt64.ofNat (i + 1), source)

theorem requests_succ (count : Nat) :
    requests (count + 1) =
      requests count ++ Source.all.map fun source => (UInt64.ofNat (count + 1), source) := by
  simp [requests, List.range_succ]

theorem mem_requests {count : Nat} (hcount : count < 2 ^ 64) {request : UInt64 × Source} :
    request ∈ requests count ↔ 1 ≤ request.1.toNat ∧ request.1.toNat ≤ count := by
  rcases request with ⟨cycle, source⟩
  simp only [requests, List.mem_flatMap, List.mem_range, List.mem_map, Prod.mk.injEq]
  constructor
  · rintro ⟨i, hi, _, _, rfl, rfl⟩
    rw [UInt64.toNat_ofNat_of_lt' (by simp only [UInt64.size]; omega)]
    omega
  · rintro ⟨hpos, hle⟩
    refine ⟨cycle.toNat - 1, by omega, source, Source.mem_all source, ?_, rfl⟩
    rw [Nat.sub_add_cancel hpos, UInt64.ofNat_toNat]

theorem nodup_requests {count : Nat} (hcount : count < 2 ^ 64) : (requests count).Nodup := by
  induction count with
  | zero => exact List.nodup_nil
  | succ count ih =>
      rw [requests_succ, List.nodup_append]
      refine ⟨ih (by omega), ?_, ?_⟩
      · exact List.Nodup.map (fun _ _ h => congrArg Prod.snd h) (by decide)
      · -- all requests of earlier cycles have smaller numbers
        rintro request hrequest later hlater rfl
        obtain ⟨source, -, rfl⟩ := List.mem_map.1 hlater
        have hle := ((mem_requests (by omega)).1 hrequest).2
        rw [UInt64.toNat_ofNat_of_lt' (by simp only [UInt64.size]; omega)] at hle
        omega

namespace Answers

variable {answers : Answers}

/-- The update that a request delivers. -/
def update? (answers : Answers) (request : UInt64 × Source) : Option Update :=
  (answers.snapshot? request.1 request.2).map fun snapshot => ⟨request.1, snapshot⟩

/-- Every update that the first cycles deliver. -/
def sent (answers : Answers) (cycles : UInt64) : List Update :=
  (requests cycles.toNat).filterMap answers.update?

/-- The cycles up to `cycles` in which a source does not fail. -/
def successes (answers : Answers) (cycles : UInt64) (source : Source) : Set UInt64 :=
  {c | 1 ≤ c ∧ c ≤ cycles ∧ (answers.snapshot? c source).isSome}

theorem update?_eq_some_iff {request : UInt64 × Source} {u : Update} :
    answers.update? request = some u ↔
      request = (u.cycle, u.source) ∧ answers.snapshot? u.cycle u.source = some u.snapshot := by
  rcases request with ⟨cycle, source⟩
  rcases u with ⟨cycle', snapshot⟩
  simp only [update?, Option.map_eq_some_iff, Update.mk.injEq, Prod.mk.injEq]
  constructor
  · rintro ⟨_, hanswer, rfl, rfl⟩
    obtain rfl := answers.source_eq hanswer
    exact ⟨⟨rfl, rfl⟩, hanswer⟩
  · rintro ⟨⟨rfl, rfl⟩, hanswer⟩
    exact ⟨snapshot, hanswer, rfl, rfl⟩

theorem mem_sent {cycles : UInt64} {u : Update} :
    u ∈ answers.sent cycles ↔
      1 ≤ u.cycle ∧ u.cycle ≤ cycles ∧ answers.snapshot? u.cycle u.source = some u.snapshot := by
  simp only [sent, List.mem_filterMap, update?_eq_some_iff]
  constructor
  · rintro ⟨_, hrequest, rfl, hanswer⟩
    obtain ⟨hpos, hle⟩ := (mem_requests cycles.toNat_lt).1 hrequest
    exact ⟨hpos, hle, hanswer⟩
  · rintro ⟨hpos, hle, hanswer⟩
    have hrequest : (u.cycle, u.source) ∈ requests cycles.toNat :=
      (mem_requests cycles.toNat_lt).2 ⟨UInt64.le_iff_toNat_le.1 hpos, UInt64.le_iff_toNat_le.1 hle⟩
    exact ⟨_, hrequest, rfl, hanswer⟩

theorem nodup_sent (answers : Answers) (cycles : UInt64) :
    ((answers.sent cycles).map fun u => (u.cycle, u.source)).Nodup := by
  have hkey (request : UInt64 × Source) :
      ((answers.update? request).map fun u => (u.cycle, u.source)) =
        Option.guard (fun request => (answers.update? request).isSome) request := by
    cases h : answers.update? request with
    | none => simp [Option.guard, h]
    | some u =>
        obtain ⟨rfl, -⟩ := update?_eq_some_iff.1 h
        simp [Option.guard, h]
  rw [sent, List.map_filterMap, funext hkey, List.filterMap_eq_filter]
  exact (nodup_requests cycles.toNat_lt).filter _

end Answers

end Telemetry
