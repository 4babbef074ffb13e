import WebhookDelivery.Message

/-!
# Attempts

The audit trail of deliveries. An attempt produced a response or failed on the way, never both, and
its record shows which in separate columns.
-/

namespace WebhookDelivery

/-- What an attempt produced (`AttemptResult`). -/
inductive AttemptResult where
  /-- The receiver answered; an empty body is left out. -/
  | response (statusCode : UInt16) (body : Option String)
  /-- No answer came. -/
  | error (message : String)
  deriving DecidableEq, Repr

/-- An attempt that is about to be recorded (`NewDeliveryAttempt`). -/
structure NewAttempt where
  messageId : MessageId
  number : Count
  result : AttemptResult
  durationMs : Option Int64
  attemptedAt : Instant
  deriving DecidableEq, Repr

/-- A recorded attempt (`DeliveryAttempt`). -/
structure Attempt where
  id : Uuid
  messageId : MessageId
  number : Count
  statusCode : Option Int32
  responseBody : Option String
  errorMessage : Option String
  durationMs : Option Int64
  attemptedAt : Instant
  deriving DecidableEq, Repr

namespace AttemptResult

/-- The column for the status code (`status_code`). -/
def statusCode : AttemptResult → Option Int32
  | response code _ => some (Int32.ofNat code.toNat)
  | error _ => none

/-- The column for the body (`response_body`). -/
def responseBody : AttemptResult → Option String
  | response _ body => body
  | error _ => none

/-- The column for the failure (`error_message`). -/
def errorMessage : AttemptResult → Option String
  | response _ _ => none
  | error message => some message

end AttemptResult

/-- The record of an attempt under an identifier (`into_record`). -/
def NewAttempt.record (a : NewAttempt) (id : Uuid) : Attempt :=
  { id, messageId := a.messageId, number := a.number
    statusCode := a.result.statusCode, responseBody := a.result.responseBody
    errorMessage := a.result.errorMessage
    durationMs := a.durationMs, attemptedAt := a.attemptedAt }

namespace Attempt

/-- Exactly one of status code and failure is there (`is_well_formed`). -/
def isWellFormed (a : Attempt) : Bool :=
  a.statusCode.isSome != a.errorMessage.isSome

/-- Whether the receiver accepted the webhook (`succeeded`). -/
def succeeded (a : Attempt) : Bool :=
  a.statusCode.any fun code => 200 ≤ code && code < 300

end Attempt

/-- Whatever is recorded is well formed, as a result is a response or a failure and not both. -/
theorem NewAttempt.isWellFormed_record (a : NewAttempt) (id : Uuid) :
    (a.record id).isWellFormed = true := by
  obtain ⟨_, _, result, _, _⟩ := a
  cases result <;> rfl

end WebhookDelivery
