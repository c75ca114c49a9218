import Telemetry.Json.Record
import Telemetry.Snapshot.Basic

/-!
Response bodies.

The three list sources answer with an object that holds one array, which may be
missing; the system source answers with a flat record. Every field of a record
is required.
-/

namespace Telemetry

open Json

namespace MetricSample

def fields : List Field :=
  [.required "name" (.text "a string"), .required "value" .real]

/-- Reads one sample. -/
def reader : Reader MetricSample :=
  (Reader.record "MetricSample" fields).map fun (name, value, ()) => ⟨name, value⟩

end MetricSample

namespace Connection

def fields : List Field :=
  [.required "source" (.text "a string"), .required "destination" (.text "a string"),
   .required "protocol" .signed64, .required "bytes_sent" (.unsigned64 "u64"),
   .required "bytes_received" (.unsigned64 "u64"), .required "packets_sent" (.unsigned64 "u64"),
   .required "packets_received" (.unsigned64 "u64")]

/-- Reads one connection. -/
def reader : Reader Connection :=
  (Reader.record "ConnectionRecord" fields).map
    fun (source, destination, protocol, bytesSent, bytesReceived, packetsSent, packetsReceived, ()) =>
      ⟨source, destination, protocol, bytesSent, bytesReceived, packetsSent, packetsReceived⟩

end Connection

namespace HostTraffic

def fields : List Field :=
  [.required "ip" (.text "a string"), .required "bytes" (.unsigned64 "u64")]

/-- Reads the traffic of one address. -/
def reader : Reader HostTraffic :=
  (Reader.record "HostRecord" fields).map fun (ip, bytes, ()) => ⟨ip, bytes⟩

end HostTraffic

namespace SystemInfo

def fields : List Field :=
  [.required "hostname" (.text "a string"), .required "platform" (.text "a string"),
   .required "num_cpus" .unsigned32, .required "uptime" .real]

/-- Reads the description of the machine. -/
def reader : Reader SystemInfo :=
  (Reader.record "SystemInfo" fields).map
    fun (hostname, platform, cpuCount, uptime, ()) => ⟨hostname, platform, cpuCount, uptime⟩

end SystemInfo

/-- Reads an object with one array, which is empty if it is missing. -/
def Json.Reader.envelope {α : Type} (record field : String) (read : Reader α) :
    Reader (List α) :=
  (Reader.record record [.withDefault field (.list read) []]).map fun (items, ()) => items

namespace Source

/-- Reads the body of a source's answer. -/
def reader : Source → Reader Snapshot
  | .metrics =>
    (Reader.envelope "MetricsResponse" "metrics" MetricSample.reader).map .metrics
  | .connections =>
    (Reader.envelope "ConnectionsResponse" "connections" Connection.reader).map .connections
  | .hosts => (Reader.envelope "HostsResponse" "hosts" HostTraffic.reader).map .hosts
  | .systemInfo => SystemInfo.reader.map .systemInfo

/-- The snapshot that a body holds. -/
def decode (source : Source) (body : String) : Except Json.Error Snapshot :=
  Json.decode source.reader body

end Source

end Telemetry
