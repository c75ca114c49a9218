import Telemetry.Proofs.Json.Records
import Telemetry.Settings.File
import Telemetry.Snapshot.Body

/-!
What is accepted as a response or a configuration.

For every type that is decoded there is a function from trees, made of columns.
Decoding a text of a tree gives what the function gives for the tree: it succeeds
for every text of a tree that fits the type, with one value, and for none of the
others.
-/

namespace Telemetry

open Json

variable {α : Type} {v : Tree} {text : String}

/-- Decoding a text, the answer depends on the tree alone. -/
theorem Json.toOption_decode {read : Reader α} {value? : Tree → Option α}
    (hread : read.Follows value?) (h : v.IsText text) : (decode read text).toOption = value? v := by
  obtain ⟨blanks, hblanks, hbegins⟩ := h
  have houtcome := hread hbegins (endsNumber_of_blanks hblanks)
  rw [decode]
  cases hvalue : value? v with
  | none =>
      obtain ⟨fault, hfault⟩ := eq_error_of_outcome_map houtcome hvalue
      simp [hfault, bind, Except.bind, mapError_error, Except.toOption]
  | some a =>
      obtain ⟨lt, hok⟩ := eq_ok_of_outcome_map houtcome hvalue
      simp [hok, skipBlanks_eq_nil hblanks, bind, Except.bind, pure, Except.pure, mapError_ok,
        Except.toOption]

theorem Json.decode_eq_ok_iff {read : Reader α} {value? : Tree → Option α}
    (hread : read.Follows value?) (h : v.IsText text) {a : α} :
    decode read text = .ok a ↔ value? v = some a := by
  rw [← toOption_decode hread h]
  cases decode read text <;> simp [Except.toOption]

/-! ### Responses -/

namespace MetricSample

def columns : List Column :=
  [.required "name" Tree.string? (follows_text "a string"),
   .required "value" Tree.real? follows_real]

def ofTree? (v : Tree) : Option MetricSample :=
  (v.row? columns).map fun (name, value, ()) => ⟨name, value⟩

theorem follows_reader : reader.Follows ofTree? :=
  (follows_record columns "MetricSample" (by decide)).map _

end MetricSample

namespace Connection

def columns : List Column :=
  [.required "source" Tree.string? (follows_text "a string"),
   .required "destination" Tree.string? (follows_text "a string"),
   .required "protocol" Tree.signed64? follows_signed64,
   .required "bytes_sent" Tree.unsigned64? (follows_unsigned64 "u64"),
   .required "bytes_received" Tree.unsigned64? (follows_unsigned64 "u64"),
   .required "packets_sent" Tree.unsigned64? (follows_unsigned64 "u64"),
   .required "packets_received" Tree.unsigned64? (follows_unsigned64 "u64")]

def ofTree? (v : Tree) : Option Connection :=
  (v.row? columns).map
    fun (source, destination, protocol, bytesSent, bytesReceived, packetsSent, packetsReceived,
        ()) =>
      ⟨source, destination, protocol, bytesSent, bytesReceived, packetsSent, packetsReceived⟩

theorem follows_reader : reader.Follows ofTree? :=
  (follows_record columns "ConnectionRecord" (by decide)).map _

end Connection

namespace HostTraffic

def columns : List Column :=
  [.required "ip" Tree.string? (follows_text "a string"),
   .required "bytes" Tree.unsigned64? (follows_unsigned64 "u64")]

def ofTree? (v : Tree) : Option HostTraffic :=
  (v.row? columns).map fun (ip, bytes, ()) => ⟨ip, bytes⟩

theorem follows_reader : reader.Follows ofTree? :=
  (follows_record columns "HostRecord" (by decide)).map _

end HostTraffic

namespace SystemInfo

def columns : List Column :=
  [.required "hostname" Tree.string? (follows_text "a string"),
   .required "platform" Tree.string? (follows_text "a string"),
   .required "num_cpus" Tree.unsigned32? follows_unsigned32,
   .required "uptime" Tree.real? follows_real]

def ofTree? (v : Tree) : Option SystemInfo :=
  (v.row? columns).map
    fun (hostname, platform, cpuCount, uptime, ()) => ⟨hostname, platform, cpuCount, uptime⟩

theorem follows_reader : reader.Follows ofTree? :=
  (follows_record columns "SystemInfo" (by decide)).map _

end SystemInfo

section

variable (field : String) {value? : Tree → Option α} {read : Reader α}
  (follows : read.Follows value?)

/-- The columns of an object with one array, which is empty if it is missing. -/
def Json.envelopeColumns : List Column :=
  [.withDefault field (Tree.list? value?) follows.list []]

/-- The items of an object with one array. -/
def Json.Tree.items? (v : Tree) : Option (List α) :=
  (v.row? (envelopeColumns field follows)).map fun (items, ()) => items

theorem Json.follows_envelope (record : String) :
    (Reader.envelope record field read).Follows (Tree.items? field follows) :=
  (follows_record (envelopeColumns field follows) record (by simp [envelopeColumns])).map _

end

namespace Source

/-- The columns of the record that a source answers with. -/
def columns : Source → List Column
  | .metrics => envelopeColumns "metrics" MetricSample.follows_reader
  | .connections => envelopeColumns "connections" Connection.follows_reader
  | .hosts => envelopeColumns "hosts" HostTraffic.follows_reader
  | .systemInfo => SystemInfo.columns

/-- The snapshot that a tree stands for. -/
def ofTree? : Source → Tree → Option Snapshot
  | .metrics, v => (v.items? "metrics" MetricSample.follows_reader).map .metrics
  | .connections, v => (v.items? "connections" Connection.follows_reader).map .connections
  | .hosts, v => (v.items? "hosts" HostTraffic.follows_reader).map .hosts
  | .systemInfo, v => (SystemInfo.ofTree? v).map .systemInfo

theorem isSome_ofTree? (source : Source) (v : Tree) :
    (source.ofTree? v).isSome ↔ v.FitsRecord source.columns := by
  rw [← Tree.isSome_row?]
  cases source <;> simp [ofTree?, columns, Tree.items?, SystemInfo.ofTree?]

theorem follows_reader (source : Source) : source.reader.Follows source.ofTree? := by
  cases source with
  | metrics => exact (follows_envelope _ MetricSample.follows_reader _).map _
  | connections => exact (follows_envelope _ Connection.follows_reader _).map _
  | hosts => exact (follows_envelope _ HostTraffic.follows_reader _).map _
  | systemInfo => exact SystemInfo.follows_reader.map _

end Source

/-! ### The configuration -/

namespace Config

def columns : List Column :=
  [.withDefault "url" Tree.string? (follows_text "a string") default.url,
   .withDefault "interval_ms" Tree.unsigned64? (follows_unsigned64 "u64") default.intervalMs,
   .withDefault "limit" Tree.unsigned64? (follows_unsigned64 "usize") default.limit,
   .withDefault "timeout_ms" (Tree.optional? Tree.unsigned64?) (follows_unsigned64 "u64").optional
     default.timeoutMs?,
   .withDefault "log_file" (Tree.optional? Tree.string?) (follows_text "path string").optional
     default.logFile?]

/-- The configuration that a tree stands for. -/
def ofTree? (v : Tree) : Option Config :=
  (v.row? columns).map fun (url, intervalMs, limit, timeoutMs?, logFile?, ()) =>
    ⟨url, intervalMs, limit, timeoutMs?, logFile?⟩

theorem follows_reader : reader.Follows ofTree? :=
  (follows_record columns "Config" (by decide)).map _

end Config

/-! ### What is accepted -/

/-- Decoding depends on the tree alone: it gives what the tree stands for, and succeeds for the
trees that fit the record. An item of a response fits as its own record. -/
theorem toOption_decode_isText (h : v.IsText text) :
    (∀ source : Source, (source.decode text).toOption = source.ofTree? v ∧
      ((source.decode text).toOption.isSome ↔ v.FitsRecord source.columns)) ∧
    (Config.decode text).toOption = Config.ofTree? v ∧
    ((Config.decode text).toOption.isSome ↔ v.FitsRecord Config.columns) ∧
    ∀ v : Tree,
      ((MetricSample.ofTree? v).isSome ↔ v.FitsRecord MetricSample.columns) ∧
      ((Connection.ofTree? v).isSome ↔ v.FitsRecord Connection.columns) ∧
      ((HostTraffic.ofTree? v).isSome ↔ v.FitsRecord HostTraffic.columns) := by
  have hconfig := toOption_decode Config.follows_reader h
  refine ⟨?_, hconfig, ?_, ?_⟩
  · intro source
    have hsource := toOption_decode source.follows_reader h
    refine ⟨hsource, ?_⟩
    rw [Source.decode, hsource]
    exact source.isSome_ofTree? v
  · rw [Config.decode, hconfig, Config.ofTree?, Option.isSome_map, Tree.isSome_row?]
  · intro v
    simp only [MetricSample.ofTree?, Connection.ofTree?, HostTraffic.ofTree?, Option.isSome_map,
      Tree.isSome_row?, and_self]

/-- An escape in a key, blanks, a pair of escapes for one character, and an unknown member that is
passed over. -/
theorem toOption_decode_isText_hosts :
    let v : Tree := .object [("hosts", .list [.object [("ip", .text [0xD83D, 0xDE00]),
      ("tags", .list [.null]), ("bytes", .number ⟨false, ['7'], [], none⟩)]])]
    let text :=
      "\x7b\"hosts\" : [\x7b\"\\u0069p\":\"\\ud83d\\ude00\",\"tags\":[null],\"bytes\":7\x7d]\x7d"
    v.IsText text ∧ (Source.hosts.decode text).toOption = some (.hosts [⟨"😀", 7⟩]) := by
  intro v text
  have hseven : (Token.numeral ⟨false, ['7'], [], none⟩).IsWritten ['7'] :=
    (IsWhole.digits rfl (by decide) (by simp)).isWritten
  have hip : Spelling (utf16 "ip") "\\u0069p".toList :=
    .unit rfl (.literal (by decide) (by decide) (by decide) .nil)
  have htext : v.IsText text := by
    dsimp only [v, text]
    refine ⟨[], by simp, ?_⟩
    refine .mark '{' (.text (.plain (by simp)) (.blank rfl (.mark ':' (.blank rfl ?_))))
    refine .mark '[' (.mark '{' (.text hip (.mark ':' ?_)))
    refine .text (.unit rfl (.unit rfl .nil)) (.mark ',' (.text (.plain (by simp)) ?_))
    refine .mark ':' (.mark '[' (.written (t := ['n', 'u', 'l', 'l']) rfl (.mark ']' ?_)))
    refine .mark ',' (.text (.plain (by simp)) (.mark ':' (.written hseven ?_)))
    exact .mark '}' (.mark ']' (.mark '}' (.nil [])))
  exact ⟨htext, ((toOption_decode_isText htext).1 .hosts).1.trans rfl⟩

end Telemetry
