import WebhookDelivery.Http.Body
import WebhookDelivery.Http.Outcome
import WebhookDelivery.Http.Request
import WebhookDelivery.Settings.Pipeline

/-!
# HTTP exchanges

A delivery is a chain of exchanges: a request, its answer, and as long as the answer is a redirect
that may be followed, the request that it leads to. The network is whatever answers requests; it
may remember all that it was sent before.
-/

namespace WebhookDelivery

-- ---------------------------------------------------------------------------
-- The wire
-- ---------------------------------------------------------------------------

/-- A request as it goes on the wire. -/
structure WireRequest where
  method : Method
  /-- Where it goes, without user name, password and fragment. -/
  url : Url
  headers : List (String × String)
  body : Octets
  deriving DecidableEq, Repr

/-- An answer. -/
structure Response where
  status : UInt16
  headers : List (String × String)
  chunks : List Octets
  ending : BodyEnd
  deriving DecidableEq, Repr

/-- What becomes of one request. -/
inductive Reply where
  | response (r : Response)
  /-- No connection could be made. -/
  | refused
  /-- The connection ended without a usable answer. -/
  | unusable
  /-- No answer came in time. -/
  | timedOut
  deriving DecidableEq, Repr

/-- What answers a request, given all that were sent before, the latest first. -/
abbrev Network := List WireRequest → WireRequest → Reply

/-- A network on which nothing can be reached. -/
def Network.unreachable : Network := fun _ _ => .refused

-- ---------------------------------------------------------------------------
-- The first request
-- ---------------------------------------------------------------------------

/-- Credentials as the value of an authorization header. -/
def basicAuthorization (user : String) (password : Option String) : String :=
  "Basic " ++ String.ofList (Base64.encode (utf8 (user ++ ":" ++ password.getD "")))

/-- The headers that a URL's credentials add. -/
def credentialHeaders (url : Url) : List (String × String) :=
  url.credentials?.elim [] fun (user, password) =>
    [("authorization", basicAuthorization user password)]

/-- The request of a delivery as it first goes on the wire: what `deliver` puts into it, and what
the client adds. -/
def DeliveryRequest.wire (r : DeliveryRequest) (userAgent : String) : WireRequest :=
  { method := r.method, url := r.url.requested, body := r.body
    headers := [("content-type", "application/json"), ("user-agent", userAgent)]
      ++ credentialHeaders r.url
      ++ r.signature.elim [] fun s => s.headers.map fun (name, v) => (name.toLower, v) }

-- ---------------------------------------------------------------------------
-- Redirects
-- ---------------------------------------------------------------------------

/-- Whether an answer of this status asks to go elsewhere. -/
def isRedirect (status : UInt16) : Bool :=
  [301, 302, 303, 307, 308].contains status

/-- The value of a header. -/
def Response.header? (r : Response) (name : String) : Option String :=
  (r.headers.find? (·.1.toLower = name)).map (·.2)

/-- The method after a redirect: a 303 asks to get the answer, and a post that was moved is not
repeated. By another account of the client a 301 or 302 turns every method but `GET` and `HEAD` into
`GET`; here, as in the client that the deliveries are made with, `PUT`, `PATCH` and `DELETE` stay
what they are. On a post the two accounts agree. -/
def redirectedMethod (status : UInt16) (m : Method) : Method :=
  if status = 303 then (if m = .head then .head else .get)
  else if (status = 301 ∨ status = 302) ∧ m = .post then .get
  else m

/-- Whether a redirect leaves the body behind. By that other account every 301 and 302 does; here
only those of a post do, and of a post both say the same. -/
def dropsBody (status : UInt16) (m : Method) : Bool :=
  status = 303 || ((status = 301 || status = 302) && m = .post)

/-- The request that a redirect leads to. Credentials are for one host and port only. -/
def WireRequest.redirected (r : WireRequest) (status : UInt16) (target : Url) : WireRequest :=
  let keeps (name : String) : Bool :=
    (name ≠ "content-type" || !dropsBody status r.method)
      && (name ≠ "authorization"
        || (target.host = r.url.host && target.effectivePort = r.url.effectivePort))
  { method := redirectedMethod status r.method, url := target.requested
    headers := r.headers.filter fun (name, _) => keeps name
    body := if dropsBody status r.method then [] else r.body }

/-- Whether a redirect to a target can be followed or must fail; otherwise it is no redirect. -/
def Url.Reading.isTarget : Url.Reading → Bool
  | .web url => url.isSendable
  | .other _ => true

/-- Where an answer leads, seen from the URL that it came from. -/
def Response.target? (r : Response) (source : Url) : Option Url.Reading :=
  if isRedirect r.status then
    ((r.header? "location").bind fun text => (Url.resolve source text.toList).toOption).filter
      (·.isTarget)
  else none

-- ---------------------------------------------------------------------------
-- The chain
-- ---------------------------------------------------------------------------

/-- Why a chain of exchanges brought no answer. -/
inductive ChainFailure where
  /-- The URL does not fit into a request. -/
  | unsendable
  | refused
  | unusable
  | timedOut
  /-- One redirect too many, at this URL. -/
  | tooManyRedirects (source : Url)
  /-- A redirect out of the Web. -/
  | leavesWeb (target : String)
  deriving DecidableEq, Repr

/-- The chain that a request starts, with at most so many redirects (`max_redirects`): the last
answer with the request it answers, and all requests sent so far, the latest first. `shown` is the
URL that the request came from, fragment included. -/
def followChain (network : Network) (redirects : Nat) (shown : Url) (request : WireRequest)
    (sent : List WireRequest) :
    Except ChainFailure (WireRequest × Response) × List WireRequest :=
  let sent' := request :: sent
  match network sent request with
  | .refused => (.error .refused, sent')
  | .unusable => (.error .unusable, sent')
  | .timedOut => (.error .timedOut, sent')
  | .response r =>
    match r.target? shown with
    | none => (.ok (request, r), sent')
    | some (.other _) => (.error (.leavesWeb ((r.header? "location").getD "")), sent')
    | some (.web target) =>
      match redirects with
      | 0 => (.error (.tooManyRedirects shown), sent')
      | left + 1 => followChain network left target (request.redirected r.status target) sent'

end WebhookDelivery
