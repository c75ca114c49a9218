import Telemetry.Json.Printer
import Telemetry.Json.Record
import Telemetry.Settings.Config
import Telemetry.Storage.Fault

/-!
The configuration file.

The file holds one JSON object; every member may be left out. A missing file
stands for the defaults. A file that cannot be read, or not as a configuration,
contributes nothing at all: none of its members is taken over.

`Config.print` writes what `Config.decode` reads back as the same configuration.
-/

namespace Telemetry

open Json

namespace Config

def fields : List Field :=
  [.withDefault "url" (.text "a string") default.url,
   .withDefault "interval_ms" (.unsigned64 "u64") default.intervalMs,
   .withDefault "limit" (.unsigned64 "usize") default.limit,
   .withDefault "timeout_ms" (.optional (.unsigned64 "u64")) default.timeoutMs?,
   .withDefault "log_file" (.optional (.text "path string")) default.logFile?]

/-- Reads a configuration. -/
def reader : Reader Config :=
  (Reader.record "Config" fields).map
    fun (url, intervalMs, limit, timeoutMs?, logFile?, ()) =>
      ⟨url, intervalMs, limit, timeoutMs?, logFile?⟩

/-- The configuration that a text holds. -/
def decode (text : String) : Except Json.Error Config := Json.decode reader text

/-- The members that are written. -/
def members (c : Config) : List (String × Scalar) :=
  [("url", .text c.url), ("interval_ms", .natural c.intervalMs.toNat),
   ("limit", .natural c.limit.toNat)] ++
    (c.timeoutMs?.map fun t => ("timeout_ms", Scalar.natural t.toNat)).toList ++
    (c.logFile?.map fun path => ("log_file", Scalar.text path)).toList

/-- A configuration as a JSON object; optional members that are not set are left out. -/
def print (c : Config) : String := printObject c.members

end Config

/-- What is found where a file is looked for. -/
inductive FileState where
  | missing
  | unreadable (reason : Storage.Fault)
  | content (bytes : ByteArray)

/-- Why a configuration file contributes nothing. -/
inductive LoadError where
  | unreadable (path : String) (reason : Storage.Fault)
  | malformed (path : String) (error : Json.Error)
  deriving DecidableEq, Repr

def LoadError.message : LoadError → String
  | .unreadable path reason => "cannot read " ++ path ++ ": " ++ reason.message
  | .malformed path error => "malformed config " ++ path ++ ": " ++ error.message

/-- Reads the configuration file at a path. -/
def Config.load (path : String) : FileState → Except LoadError Config
  | .missing => .ok .default
  | .unreadable reason => .error (.unreadable path reason)
  | .content bytes =>
    match String.fromUTF8? bytes with
    | none => .error (.unreadable path .notUtf8)
    | some text => (Config.decode text).mapError (.malformed path)

end Telemetry
