import Telemetry.Screen.Projection

/-!
What a snapshot holds, by the source that it comes from.

A snapshot of another source holds nothing of the kind, so that a list of
snapshots of all sources can be searched for what one of them reported.
-/

namespace Telemetry.Snapshot

/-- The samples of a snapshot of the metrics; there are none in any other. -/
def samples : Snapshot → List MetricSample
  | .metrics samples => samples
  | _ => []

def connections? : Snapshot → Option (List Connection)
  | .connections rows => some rows
  | _ => none

def hosts? : Snapshot → Option (List HostTraffic)
  | .hosts rows => some rows
  | _ => none

def systemInfo? : Snapshot → Option SystemInfo
  | .systemInfo info => some info
  | _ => none

theorem eq_metrics {snapshot : Snapshot} (h : snapshot.source = .metrics) :
    snapshot = .metrics snapshot.samples := by
  cases snapshot with
  | metrics samples => rfl
  | connections rows => exact nomatch h
  | hosts rows => exact nomatch h
  | systemInfo info => exact nomatch h

end Telemetry.Snapshot
