import Telemetry.Backend.Endpoint
import Telemetry.Backend.Status
import Telemetry.Snapshot.Body
import Telemetry.Text.Utf8

/-!
One request and what comes of it.

Talking to the backend is not part of the library: an `Exchange` records what came
of a request, and `Backend.fetch` says what a source delivers then. The status is
looked at before the body, and the body is read as a whole, so a source delivers a
complete snapshot or nothing.
-/

namespace Telemetry

/-- What came of the body of an answer. -/
inductive Body where
  | complete (bytes : List UInt8)
  | interrupted
  deriving DecidableEq, Repr

/-- What came of a request. -/
inductive Exchange where
  | unanswered
  | answered (status : Nat) (body : Body)
  deriving DecidableEq, Repr

/-- How talking to the backend can fail. -/
inductive TransportFault where
  | notHttp
  | unanswered
  | interrupted
  deriving DecidableEq, Repr

/-- Why a source delivers nothing. -/
inductive FetchError where
  | endpoint (fault : Url.Fault)
  | transport (url : Url) (fault : TransportFault)
  | status (url : Url) (code : Nat)
  | malformed (url : Url) (error : Json.Error)
  deriving DecidableEq, Repr

/-- A failure to talk to a URL, whose user and password are not shown. -/
def TransportFault.message (url : Url) : TransportFault → String
  | .notHttp => "builder error for url (" ++ url.withoutUser.text ++ ")"
  | .unanswered => "error sending request for url (" ++ url.withoutUser.text ++ ")"
  | .interrupted => "error decoding response body"

def FetchError.message : FetchError → String
  | .endpoint fault => "invalid endpoint url: " ++ fault.message
  | .transport url fault => "request to " ++ url.text ++ " failed: " ++ fault.message url
  | .status url code => url.text ++ " answered " ++ Backend.statusText code
  | .malformed url error => "malformed body from " ++ url.text ++ ": " ++ error.message

namespace Backend

/-- Whether requests can be sent to a URL at all. -/
def isHttp (url : Url) : Bool := url.scheme = "http" || url.scheme = "https"

/-- The snapshot in the bytes of a body. -/
def decodeBody (source : Source) (bytes : List UInt8) : Except Json.Error Snapshot :=
  source.decode (String.ofList (Text.decodeLossy bytes))

/-- What a source delivers, given what came of the request to its URL. -/
def conclude (source : Source) (url : Url) : Exchange → Except FetchError Snapshot
  | .unanswered => .error (.transport url .unanswered)
  | .answered status body =>
    if isSuccess status then
      match body with
      | .complete bytes => (decodeBody source bytes).mapError (.malformed url)
      | .interrupted => .error (.transport url .interrupted)
    else .error (.status url status)

/-- What a source delivers, `exchange` being what comes of a request to a URL. -/
def fetch [Url.DomainRule] (b : Backend) (source : Source) (exchange : Url → Exchange) :
    Except FetchError Snapshot :=
  match b.endpointOf source with
  | .error fault => .error (.endpoint fault)
  | .ok url =>
    if isHttp url then conclude source url (exchange url) else .error (.transport url .notHttp)

end Backend

end Telemetry
