import Telemetry.Text.Split
import Telemetry.Url.Address
import Telemetry.Url.Fault

/-!
Hosts.

The host of a special URL is a domain or an address. A domain of plain ASCII is put
into lower case, any other into ASCII by the `DomainRule`; if the last label of the
result is a number, the whole has to be an IPv4 address. The host of any other URL is
an uninterpreted name. An IPv6 address stands between brackets in either case.

Which rule it is, is left open. The one that the URL standard prescribes maps and
composes characters by tables of all of Unicode, which are not part of the library;
everything that is said about URLs is said for every rule.
-/

namespace Telemetry.Url

inductive Host where
  | name (text : String)
  | ipv4 (address : BitVec 32)
  | ipv6 (groups : List Nat)
  deriving DecidableEq, Repr

def Host.text : Host → String
  | .name text => text
  | .ipv4 address => ipv4Text address
  | .ipv6 groups => "[" ++ ipv6Text groups ++ "]"

/-! ### Domains -/

/-- Characters that separate the parts of a URL or surround it. -/
def delimiters : List Char := ['#', '/', ':', '<', '>', '?', '@', '[', '\\', ']', '^', '|']

/-- Characters that no domain may hold. -/
def forbiddenInDomain (c : Char) : Bool :=
  c.toNat ≤ 0x20 || c.toNat = 0x7f || c = '%' || delimiters.contains c

def isAscii (c : Char) : Bool := c.toNat < 128

/-- The mark in front of a label in Punycode. -/
def punycodeMark : List Char := ['x', 'n', '-', '-']

def labelsOf (domain : List Char) : List (List Char) := Text.splitOn (· = '.') domain

/-- Whether a domain is ASCII and none of its labels is in Punycode. -/
def isPlainDomain (domain : List Char) : Bool :=
  domain.all isAscii && (labelsOf (domain.map Char.toLower)).all (!punycodeMark.isPrefixOf ·)

/-- How international domains are put into ASCII. -/
class DomainRule where
  /-- A domain with characters beyond ASCII, or with labels in Punycode, in the form in which it
  is looked up: its characters mapped and composed, its labels checked, and those beyond ASCII
  in Punycode. There is none if a label may not occur. -/
  toAscii : List Char → Option (List Char)

/-- A domain in lower case and in ASCII. -/
def domainToAscii [DomainRule] (domain : List Char) : Option (List Char) :=
  if isPlainDomain domain then
    if domain.any forbiddenInDomain then none else some (domain.map Char.toLower)
  else DomainRule.toAscii domain

/-! ### Reading hosts -/

/-- Reads a host between brackets, of which the first has been read. -/
def parseBracketed (rest : List Char) : Except Fault Host :=
  match rest.getLast? with
  | some ']' =>
    match parseIPv6? rest.dropLast with
    | some groups => .ok (.ipv6 groups)
    | none => .error .invalidIPv6
  | _ => .error .invalidIPv6

/-- Reads the host of a special URL. -/
def parseSpecialHost [DomainRule] : List Char → Except Fault Host
  | '[' :: rest => parseBracketed rest
  | cs =>
    match (String.fromUTF8? ⟨(percentDecode cs).toArray⟩).bind (domainToAscii ·.toList) with
    | none => .error .invalidDomain
    | some [] => .error .emptyHost
    | some domain =>
      if endsInNumber domain then
        match parseIPv4? domain with
        | some address => .ok (.ipv4 address)
        | none => .error .invalidIPv4
      else .ok (.name (String.ofList domain))

/-- Characters that an uninterpreted host may not hold. -/
def forbiddenInHost (c : Char) : Bool :=
  ['\x00', '\t', '\n', '\r', ' '].contains c || delimiters.contains c

/-- Reads the host of a URL that is not special. -/
def parsePlainHost : List Char → Except Fault Host
  | '[' :: rest => parseBracketed rest
  | cs =>
    if cs.any forbiddenInHost then .error .invalidDomainCharacter
    else .ok (.name (String.ofList (percentEncode isNeverPlain cs)))

end Telemetry.Url
