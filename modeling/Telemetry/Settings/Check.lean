import Telemetry.Settings.Config
import Telemetry.Settings.Location
import Telemetry.Text.Quoted
import Telemetry.Url.Reference

/-!
From a configuration to settings that can be used.

The values are looked at in a fixed order, and the first one that does not hold is
reported: the URL, its scheme, then the three numbers.
-/

namespace Telemetry

/-- Values that can be used. -/
structure Settings where
  base : Url
  intervalMs : UInt64
  limit : UInt64
  timeoutMs? : Option UInt64
  logFile : String
  deriving DecidableEq, Repr

/-- Why a configuration cannot be used. -/
inductive SettingsError where
  | url (text : String) (fault : Url.Fault)
  | scheme (text : String)
  | zero (name : String)
  deriving DecidableEq, Repr

def SettingsError.message : SettingsError → String
  | .url text fault => "invalid backend url " ++ Text.quoted text ++ ": " ++ fault.message
  | .scheme text => "backend url must be http or https, got " ++ Text.quoted text
  | .zero name => name ++ " must be greater than zero"

/-- Checks a configuration. A log file that is not set is kept where `environment` says. -/
def Config.check [Url.DomainRule] (environment : Environment) (c : Config) :
    Except SettingsError Settings := do
  let base ← (Url.parse c.url).mapError (.url c.url)
  if base.scheme ≠ "http" ∧ base.scheme ≠ "https" then throw (.scheme c.url)
  if c.intervalMs = 0 then throw (.zero "interval_ms")
  if c.limit = 0 then throw (.zero "limit")
  if c.timeoutMs? = some 0 then throw (.zero "timeout_ms")
  return ⟨base, c.intervalMs, c.limit, c.timeoutMs?, c.logFile?.getD environment.logPath⟩

end Telemetry
