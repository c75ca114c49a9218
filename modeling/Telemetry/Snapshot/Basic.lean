import Telemetry.Binary64.Basic

/-!
What the backend reports.

Four sources are polled independently of each other. A `Snapshot` is one answer
of one of them, and an `Update` is a snapshot together with the number of the
refresh cycle that asked for it.
-/

namespace Telemetry

/-- A named measurement. -/
structure MetricSample where
  name : String
  value : Binary64
  deriving DecidableEq, Repr

/-- The traffic between two addresses under one protocol number. -/
structure Connection where
  source : String
  destination : String
  protocol : Int64
  bytesSent : UInt64
  bytesReceived : UInt64
  packetsSent : UInt64
  packetsReceived : UInt64
  deriving DecidableEq, Repr

/-- The traffic of one address. -/
structure HostTraffic where
  ip : String
  bytes : UInt64
  deriving DecidableEq, Repr

/-- The machine that is observed; the uptime is in seconds. -/
structure SystemInfo where
  hostname : String
  platform : String
  cpuCount : UInt32
  uptime : Binary64
  deriving DecidableEq, Repr

/-- The sources that are polled. -/
inductive Source where
  | metrics
  | connections
  | hosts
  | systemInfo
  deriving DecidableEq, Repr

namespace Source

/-- Every source, in the order in which a cycle asks them. -/
def all : List Source := [.metrics, .connections, .hosts, .systemInfo]

theorem mem_all (s : Source) : s ∈ all := by
  cases s <;> simp [all]

def name : Source → String
  | .metrics => "metrics"
  | .connections => "connections"
  | .hosts => "hosts"
  | .systemInfo => "system_info"

end Source

/-- One answer of one source. -/
inductive Snapshot where
  | metrics (samples : List MetricSample)
  | connections (rows : List Connection)
  | hosts (rows : List HostTraffic)
  | systemInfo (info : SystemInfo)
  deriving DecidableEq, Repr

namespace Snapshot

/-- The source that answers with such a snapshot. -/
def source : Snapshot → Source
  | .metrics _ => .metrics
  | .connections _ => .connections
  | .hosts _ => .hosts
  | .systemInfo _ => .systemInfo

@[simp] theorem source_metrics (samples : List MetricSample) :
    (metrics samples).source = .metrics := rfl

@[simp] theorem source_connections (rows : List Connection) :
    (connections rows).source = .connections := rfl

@[simp] theorem source_hosts (rows : List HostTraffic) : (hosts rows).source = .hosts := rfl

@[simp] theorem source_systemInfo (info : SystemInfo) :
    (systemInfo info).source = .systemInfo := rfl

end Snapshot

/-- A snapshot and the refresh cycle that asked for it. -/
structure Update where
  cycle : UInt64
  snapshot : Snapshot
  deriving DecidableEq, Repr

/-- The source that an update comes from. -/
def Update.source (u : Update) : Source := u.snapshot.source

end Telemetry
