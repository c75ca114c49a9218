/-!
The configuration of the dashboard.

A configuration comes from a file, with defaults for what the file leaves out,
and single values may be overridden on the command line. A duration is in
milliseconds; without a timeout, a response is awaited as long as it takes.
-/

namespace Telemetry

structure Config where
  url : String
  intervalMs : UInt64
  limit : UInt64
  timeoutMs? : Option UInt64
  logFile? : Option String
  deriving DecidableEq, Repr

/-- The configuration without a file. -/
def Config.default : Config where
  url := "http://127.0.0.1:8080"
  intervalMs := 2000
  limit := 10
  timeoutMs? := none
  logFile? := none

instance : Inhabited Config := ⟨Config.default⟩

/-- Values given on the command line. -/
structure Overrides where
  url? : Option String
  intervalMs? : Option UInt64
  limit? : Option UInt64
  timeoutMs? : Option UInt64
  logFile? : Option String
  deriving DecidableEq, Repr

/-- No value is overridden. -/
def Overrides.none : Overrides := ⟨.none, .none, .none, .none, .none⟩

/-- The configuration with the given values in place of its own. -/
def Config.override (c : Config) (o : Overrides) : Config where
  url := o.url?.getD c.url
  intervalMs := o.intervalMs?.getD c.intervalMs
  limit := o.limit?.getD c.limit
  timeoutMs? := o.timeoutMs? <|> c.timeoutMs?
  logFile? := o.logFile? <|> c.logFile?

@[simp] theorem Config.override_none (c : Config) : c.override .none = c := by
  simp [Config.override, Overrides.none]

end Telemetry
