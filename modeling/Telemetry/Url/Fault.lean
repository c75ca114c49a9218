/-!
Why a text is no URL.
-/

namespace Telemetry.Url

inductive Fault where
  | emptyHost
  | invalidDomain
  | invalidDomainCharacter
  | invalidPort
  | invalidIPv4
  | invalidIPv6
  /-- The text has no scheme, and there is nothing that it could be relative to. -/
  | relativeWithoutBase
  /-- The text is relative to a URL that has no hierarchy. -/
  | relativeToFlat
  deriving DecidableEq, Repr

def Fault.message : Fault → String
  | .emptyHost => "empty host"
  | .invalidDomain => "invalid international domain name"
  | .invalidDomainCharacter => "invalid domain character"
  | .invalidPort => "invalid port number"
  | .invalidIPv4 => "invalid IPv4 address"
  | .invalidIPv6 => "invalid IPv6 address"
  | .relativeWithoutBase => "relative URL without a base"
  | .relativeToFlat => "relative URL with a cannot-be-a-base base"

end Telemetry.Url
