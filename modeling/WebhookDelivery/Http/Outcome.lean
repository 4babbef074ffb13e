import WebhookDelivery.Attempt

/-!
# Outcomes

How one HTTP call went, and how long it took. Only an answer with a status from 200 to 299 is a
success.
-/

namespace WebhookDelivery

/-- How a call went (`AttemptOutcome`). -/
inductive Outcome where
  | success (statusCode : UInt16) (body : Option String)
  /-- An answer with another status. -/
  | httpError (statusCode : UInt16) (body : Option String)
  /-- No answer. -/
  | transportError (message : String)
  deriving DecidableEq, Repr

namespace Outcome

/-- Whether a status code means success (`is_success` of a status). -/
def isSuccessCode (code : UInt16) : Bool :=
  200 ≤ code && code < 300

/-- The outcome of an answer. -/
def ofResponse (code : UInt16) (body : Option String) : Outcome :=
  if isSuccessCode code then success code body else httpError code body

/-- Whether the receiver has accepted the webhook (`is_success`). -/
def isSuccess : Outcome → Bool
  | success _ _ => true
  | _ => false

/-- The status code, if there was an answer (`status_code`). -/
def statusCode? : Outcome → Option UInt16
  | success code _ | httpError code _ => some code
  | transportError _ => none

/-- What is recorded of the outcome (`to_attempt_result`). -/
def result : Outcome → AttemptResult
  | success code body | httpError code body => .response code body
  | transportError message => .error message

end Outcome

/-- An outcome with the time it took (`DeliveryReport`). -/
structure Report where
  outcome : Outcome
  duration : Duration
  deriving DecidableEq, Repr

/-- The time in whole milliseconds, at most the highest signed 64-bit number (`duration_ms`). -/
def Report.durationMs (r : Report) : Int64 :=
  if r.duration.millis ≤ 9223372036854775807 then Int64.ofInt r.duration.millis
  else Int64.ofInt 9223372036854775807

end WebhookDelivery
