import WebhookDelivery.Http.Exchange

/-!
# The delivery client

Sends a delivery request and says how it went. A failure on the way is an outcome like any other:
it is recorded, and the retry policy decides what follows.
-/

namespace WebhookDelivery

/-- A client that can send requests (`DeliveryClient`). -/
structure Client where
  settings : ClientSettings
  deriving DecidableEq, Repr

namespace Client

/-- Whether an octet may stand in a header. -/
def mayStandInHeader (b : UInt8) : Bool :=
  b = 9 || (32 ≤ b && b ≠ 127)

/-- The client with some settings, if its user agent can be sent (`new` of `DeliveryClient`). -/
def build (settings : ClientSettings) : Except PipelineError Client :=
  if (utf8 settings.userAgent).all mayStandInHeader then .ok ⟨settings⟩
  else .error (.configuration "failed to build HTTP client: builder error")

/-- Whether an answer has a body: a request for the head alone has none, and neither do answers
that say there is none. -/
def hasBody (m : Method) (status : UInt16) : Bool :=
  m ≠ .head && status ≠ 204 && status ≠ 304

/-- What is recorded of a failure, for a delivery to a URL (`describe_error`). -/
def describe (c : Client) (url : Url) : ChainFailure → PipelineError
  | .unsendable => .network ("builder error for url (" ++ url.shown.text ++ ")")
  | .refused =>
    .network ("connection failed: error sending request for url (" ++ url.shown.text ++ ")")
  | .unusable => .network ("error sending request for url (" ++ url.shown.text ++ ")")
  | .timedOut => .timeout c.settings.timeout.seconds
  | .tooManyRedirects source =>
    .network ("error following redirect for url (" ++ source.shown.text ++ ")")
  | .leavesWeb target => .network ("builder error for url (" ++ target ++ ")")

/-- Sends a request: how it went, and all requests sent so far, the latest first (`deliver`). -/
def deliver (c : Client) (network : Network) (sent : List WireRequest) (r : DeliveryRequest) :
    Outcome × List WireRequest :=
  let exchanges := if r.url.isSendable then
      followChain network c.settings.maxRedirects.toNat r.url (r.wire c.settings.userAgent) sent
    else (.error .unsendable, sent)
  match exchanges with
  | (.ok (last, response), sent) =>
    let body := if hasBody last.method response.status then
      readBody response.chunks response.ending else none
    (.ofResponse response.status body, sent)
  | (.error failure, sent) => (.transportError (c.describe r.url failure).text, sent)

end Client

end WebhookDelivery
