import Telemetry.Snapshot.Basic
import Telemetry.Url.Reference

/-!
Where the sources are.

A backend is known by its base URL, all of whose path counts as a directory: each
source has a path below it. The two tables ask for a number of rows.
-/

namespace Telemetry

/-- The path of a source below the base. -/
def Source.path : Source → String
  | .metrics => "api/metrics"
  | .connections => "api/network/connections"
  | .hosts => "api/network/hosts"
  | .systemInfo => "api/system/info"

/-- Whether a source is asked for a number of rows. -/
def Source.isLimited : Source → Bool
  | .connections | .hosts => true
  | .metrics | .systemInfo => false

/-- A base URL, and how many rows of each table are asked for. -/
structure Backend where
  base : Url
  limit : UInt64
  deriving DecidableEq, Repr

namespace Backend

variable [Url.DomainRule]

/-- The backend at a URL. -/
def ofUrl (url : Url) (limit : UInt64) : Backend := ⟨url.asDirectory, limit⟩

/-- The URL of a path below the base, with the number of rows if one is asked for. -/
def endpoint (b : Backend) (path : String) (rows? : Option UInt64) : Except Url.Fault Url :=
  (b.base.resolve path).map fun url =>
    match rows? with
    | some rows => url.addQuery s!"limit={rows.toNat}"
    | none => url

/-- The URL of a source. -/
def endpointOf (b : Backend) (source : Source) : Except Url.Fault Url :=
  b.endpoint source.path (if source.isLimited then some b.limit else none)

end Backend

end Telemetry
