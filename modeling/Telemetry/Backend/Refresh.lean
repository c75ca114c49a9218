import Telemetry.Backend.Fetch
import Telemetry.Dashboard

/-!
Refresh cycles.

Every cycle asks all sources, each on its own: a source that fails costs only its
own update. Cycles are numbered from one.
-/

namespace Telemetry

namespace Backend

variable [Url.DomainRule]

/-- What one source contributes to a cycle. -/
def updateOf (b : Backend) (cycle : UInt64) (exchange : Source → Url → Exchange) (source : Source) :
    Option Update :=
  match b.fetch source (exchange source) with
  | .ok snapshot => some ⟨cycle, snapshot⟩
  | .error _ => none

/-- What a cycle delivers, in the order of the sources. -/
def refresh (b : Backend) (cycle : UInt64) (exchange : Source → Url → Exchange) : List Update :=
  Source.all.filterMap (b.updateOf cycle exchange)

/-- What the first `count` cycles deliver. -/
def schedule (b : Backend) (count : Nat) (exchange : UInt64 → Source → Url → Exchange) :
    List Update :=
  (List.range count).flatMap fun i =>
    b.refresh (UInt64.ofNat (i + 1)) (exchange (UInt64.ofNat (i + 1)))

end Backend

/-- What a run of updates did. -/
structure Run where
  /-- For each update, whether it was shown. -/
  shown : List Bool
  dashboard : Dashboard
  writes : List Write
  screen : Screen

/-- Shows updates one after the other, each under its label. -/
def Dashboard.run (d : Dashboard) (screen : Screen) : List (Update × String) → Run
  | [] => ⟨[], d, [], screen⟩
  | (update, label) :: rest =>
    let applied := d.apply screen update label
    let later := applied.dashboard.run applied.screen rest
    ⟨applied.shown :: later.shown, later.dashboard, applied.writes ++ later.writes, later.screen⟩

end Telemetry
