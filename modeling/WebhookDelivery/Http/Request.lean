import WebhookDelivery.Http.Method
import WebhookDelivery.Message
import WebhookDelivery.PipelineError
import WebhookDelivery.Signing
import WebhookDelivery.Text.Quoted
import WebhookDelivery.Url.Reader

/-!
# Delivery requests

What is needed to send a message: its method and URL, read and in normal form, its payload as it
is, the number of the attempt, and the signature if there is one to make. A message whose method or
URL cannot be read can never be sent.
-/

namespace WebhookDelivery

-- ---------------------------------------------------------------------------
-- What cannot be sent
-- ---------------------------------------------------------------------------

/-- Why a message cannot be sent: the cases of `InvalidRequest` in `parse_method`, `parse_url` and
`submit`. -/
inductive Unsendable where
  | unsupportedMethod (raw : String)
  | invalidUrl (raw : String) (problem : Url.Problem)
  | unsupportedScheme (scheme : String)
  | payloadTooLarge (size : Nat)
  deriving DecidableEq, Repr

/-- Most octets that a payload may have (`MAX_PAYLOAD_BYTES`). -/
def maxPayloadBytes : Nat := 1048576

/-- The reason in words. -/
def Unsendable.text : Unsendable → String
  | unsupportedMethod raw => "unsupported HTTP method: " ++ quoted raw
  | invalidUrl raw problem => "invalid URL " ++ quoted raw ++ ": " ++ problem.text
  | unsupportedScheme scheme => "unsupported URL scheme: " ++ scheme
  | payloadTooLarge size =>
    "payload of " ++ toString size ++ " bytes exceeds the " ++ toString maxPayloadBytes
      ++ " byte limit"

/-- The reason as a failure of the pipeline (`invalid_request`). -/
def Unsendable.toPipeline (u : Unsendable) : PipelineError :=
  .invalidRequest u.text

/-- The method that a text names (`parse_method`). -/
def Method.parse (raw : String) : Except Unsendable Method :=
  match ofText? raw with
  | some m => .ok m
  | none => .error (.unsupportedMethod raw)

/-- What a method is written as is read as that method. -/
theorem Method.parse_text (m : Method) : parse m.text = .ok m := by
  rw [parse, ofText?_text]

/-- The URL of the Web that a text spells (`parse_url`). -/
def Url.parse (raw : String) : Except Unsendable Url :=
  match Url.read (trimBlanks raw.toList) with
  | .error problem => .error (.invalidUrl raw problem)
  | .ok (.other scheme) => .error (.unsupportedScheme (String.ofList scheme))
  | .ok (.web url) => .ok url

-- ---------------------------------------------------------------------------
-- Requests
-- ---------------------------------------------------------------------------

/-- A message ready to be sent (`DeliveryRequest`). -/
structure DeliveryRequest where
  messageId : MessageId
  attemptNumber : Count
  method : Method
  url : Url
  body : Octets
  signature : Option Signature
  deriving DecidableEq, Repr

namespace DeliveryRequest

/-- The unsigned request of a message (`from_message`). -/
def ofMessage (m : Message) : Except Unsendable DeliveryRequest := do
  let method ← Method.parse m.method
  let url ← Url.parse m.url
  return { messageId := m.id, attemptNumber := m.nextAttemptNumber, method, url
           body := m.payload, signature := none }

/-- A request is made of a method and a URL that can be read, and of the message as it is. -/
theorem ofMessage_eq_ok {m : Message} {r : DeliveryRequest} :
    ofMessage m = .ok r ↔ ∃ method url, Method.parse m.method = .ok method
      ∧ Url.parse m.url = .ok url
      ∧ r = { messageId := m.id, attemptNumber := m.nextAttemptNumber, method, url
              body := m.payload, signature := none } := by
  rw [ofMessage]
  cases hmethod : Method.parse m.method with
  | error reason => simp [bind, Except.bind]
  | ok method =>
    cases hurl : Url.parse m.url with
    | error reason => simp [bind, Except.bind]
    | ok url => simp [bind, Except.bind, pure, Except.pure, eq_comm]

/-- The request with a signature, if there is one (`with_signature`). -/
def sign (r : DeliveryRequest) (signature : Option Signature) : DeliveryRequest :=
  { r with signature }

end DeliveryRequest

end WebhookDelivery
