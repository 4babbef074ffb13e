import WebhookDelivery.Count
import WebhookDelivery.Instant.Rfc3339
import WebhookDelivery.StoreError
import WebhookDelivery.Uuid

/-!
# Messages

A message is one webhook to be delivered. What the producer supplies is its draft; the pipeline
gives it an identity and moves it through its statuses. A due time is present exactly while the
message waits for a retry: every transition here keeps that.
-/

namespace WebhookDelivery

-- ---------------------------------------------------------------------------
-- Identifiers
-- ---------------------------------------------------------------------------

/-- Identifier of a message (`MessageId`). -/
structure MessageId where
  uuid : Uuid
  deriving DecidableEq, Repr, Inhabited

/-- Identifier of the organisation that a message belongs to (`OrgId`). -/
structure OrgId where
  uuid : Uuid
  deriving DecidableEq, Repr, Inhabited

/-- The canonical text of a message identifier, as it stands in the queue and after `msg_` in a
header (`fmt` of `MessageId`). -/
def MessageId.text (id : MessageId) : String :=
  id.uuid.text

/-- The canonical text of an organisation identifier (`fmt` of `OrgId`). -/
def OrgId.text (id : OrgId) : String :=
  id.uuid.text

/-- The message identifier that a text spells, blanks around it aside (`from_str` of `MessageId`).
-/
def MessageId.ofText? (s : String) : Option MessageId :=
  (Uuid.read? (trimBlanks s.toList)).map MessageId.mk

-- ---------------------------------------------------------------------------
-- Messages
-- ---------------------------------------------------------------------------

/-- What a producer supplies (`SubmitRequest`, and `NewMessage` once it is in normal form). -/
structure Draft where
  org : OrgId
  method : String
  url : String
  payload : Octets
  deriving DecidableEq, Repr

/-- A webhook on its way (`Message`). -/
structure Message where
  id : MessageId
  org : OrgId
  method : String
  url : String
  payload : Octets
  status : Status
  /-- Attempts made, except that the one that ends in giving up is not counted. -/
  attemptCount : Count
  nextRetryAt : Option Instant
  createdAt : Instant
  updatedAt : Instant
  deriving DecidableEq, Repr

namespace Message

/-- A fresh message from a draft (`from_new`): pending, and with no attempt made. -/
def ofDraft (id : MessageId) (draft : Draft) (now : Instant) : Message :=
  { id, org := draft.org, method := draft.method, url := draft.url, payload := draft.payload
    status := .pending, attemptCount := .zero, nextRetryAt := none
    createdAt := now, updatedAt := now }

/-- The number under which the next attempt is recorded (`next_attempt_number`). -/
def nextAttemptNumber (m : Message) : Count :=
  m.attemptCount.next

/-- Whether the message waits for a retry that is due (`is_retry_due`). -/
def isRetryDue (m : Message) (now : Instant) : Bool :=
  m.status = .retry && m.nextRetryAt.any (· ≤ now)

/-- The identifier that receivers see (`webhook_id`). -/
def webhookId (m : Message) : String :=
  "msg_" ++ m.id.text

/-- A due time is present exactly in the retry status. -/
def IsConsistent (m : Message) : Prop :=
  m.nextRetryAt.isSome = true ↔ m.status = .retry

instance (m : Message) : Decidable m.IsConsistent :=
  inferInstanceAs (Decidable (m.nextRetryAt.isSome = true ↔ m.status = .retry))

-- ---------------------------------------------------------------------------
-- Transitions
-- ---------------------------------------------------------------------------

/-- After a successful attempt (`mark_delivered`). -/
def markDelivered (m : Message) (now : Instant) : Message :=
  { m with attemptCount := m.nextAttemptNumber, status := .success, nextRetryAt := none
           updatedAt := now }

/-- After a failed attempt that is to be followed by another (`schedule_retry`). -/
def scheduleRetry (m : Message) (due now : Instant) : Message :=
  { m with attemptCount := m.nextAttemptNumber, status := .retry, nextRetryAt := some due
           updatedAt := now }

/-- After the last failed attempt, which is not counted (`mark_dead_lettered`). -/
def markDeadLettered (m : Message) (now : Instant) : Message :=
  { m with status := .failed, nextRetryAt := none, updatedAt := now }

/-- Set aside until a due time, with no attempt made (`defer`). -/
def defer (m : Message) (due now : Instant) : Message :=
  { m with status := .retry, nextRetryAt := some due, updatedAt := now }

/-- A plain change of status (`set_status`). Entering the retry status needs a due time, which this
does not supply; every other status loses it. -/
def setStatus (m : Message) (status : Status) (now : Instant) : Except StoreError Message :=
  if status = .retry ∧ m.nextRetryAt = none then
    .error (.constraintViolation
      ("message " ++ m.id.text ++ " cannot enter retry without next_retry_at"))
  else
    .ok { m with status, updatedAt := now
                 nextRetryAt := if status = .retry then m.nextRetryAt else none }

end Message

end WebhookDelivery
