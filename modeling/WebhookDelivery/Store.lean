import WebhookDelivery.Attempt

/-!
# The message store

Messages, the attempts made on them, and the signing secrets of organisations, all in memory. Every
operation either does what it says or fails and changes nothing. Failures can be asked for, to see
what the rest of the pipeline makes of them.

A message's due time and its retry status go together; the writes here refuse a message that
breaks this.

The operations are those of `DeliveryStorage`, as `MockDeliveryStorage` carries them out.
-/

namespace WebhookDelivery

/-- The message store (`MockDeliveryStorage`). -/
structure Store where
  /-- No identifier twice. The source keeps them in a map (`messages`), whose order is arbitrary: here
  every order makes a store, and what is said of all stores is said of all orders. -/
  messages : List Message := []
  /-- In the order in which they were recorded (`attempts`). -/
  attempts : List Attempt := []
  secrets : List (OrgId × String) := []
  /-- The failure that the next query for due retries meets (`inject_retry_ready_error`). -/
  dueQueryFailure : Option String := none
  /-- Whether attempts cannot be recorded (`fail_attempt_writes`). -/
  failAttemptWrites : Bool := false
  /-- Whether messages cannot be changed (`fail_message_updates`). -/
  failMessageUpdates : Bool := false
  deriving DecidableEq, Repr

namespace Store

-- ---------------------------------------------------------------------------
-- Messages by identifier
-- ---------------------------------------------------------------------------

/-- The message of an identifier, if it is stored (`message`). -/
def get? (s : Store) (id : MessageId) : Option Message :=
  s.messages.find? (·.id = id)

/-- Whether a message is stored under an identifier. -/
def contains (s : Store) (id : MessageId) : Bool :=
  s.messages.any (·.id = id)

/-- Puts a message in the place of the one with its identifier, or at the end. -/
def place (m : Message) : List Message → List Message
  | [] => [m]
  | n :: rest => if n.id = m.id then m :: rest else n :: place m rest

/-- Stores a message as it is (`insert_message`). -/
def insert (s : Store) (m : Message) : Store :=
  { s with messages := place m s.messages }

/-- The failure to find a message (`not_found`). -/
def missing (id : MessageId) : StoreError :=
  .notFound ("message " ++ id.text ++ " not found")

/-- The failure that is asked for by `failMessageUpdates` (`check_updates_allowed`). -/
def updateFailure : StoreError :=
  .database "injected message update failure"

-- ---------------------------------------------------------------------------
-- Operations on messages
-- ---------------------------------------------------------------------------

/-- Stores a new pending message (`create_message`). -/
def create (s : Store) (id : MessageId) (draft : Draft) (now : Instant) : Message × Store :=
  let m := Message.ofDraft id draft now
  (m, s.insert m)

/-- Loads a message (`find_message`). -/
def find (s : Store) (id : MessageId) : Except StoreError Message :=
  match s.get? id with
  | some m => .ok m
  | none => .error (missing id)

/-- Changes the status of a message (`update_message_status`). -/
def setStatus (s : Store) (id : MessageId) (status : Status) (now : Instant) :
    Except StoreError (Message × Store) :=
  if s.failMessageUpdates then .error updateFailure
  else
    match s.get? id with
    | none => .error (missing id)
    | some m =>
      match m.setStatus status now with
      | .error e => .error e
      | .ok m => .ok (m, s.insert m)

/-- Writes back what a delivery may change: status, count, due time and the time of the change
(`update_message`). Everything else stays as it is stored. Nothing tells whether the copy is out of
date. -/
def update (s : Store) (m : Message) : Except StoreError Store :=
  if s.failMessageUpdates then .error updateFailure
  else if ¬ m.IsConsistent then
    .error (.constraintViolation ("message " ++ m.id.text ++ " has inconsistent retry state"))
  else
    match s.get? m.id with
    | none => .error (missing m.id)
    | some stored =>
      .ok (s.insert { stored with
        status := m.status, attemptCount := m.attemptCount, nextRetryAt := m.nextRetryAt
        updatedAt := m.updatedAt })

/-- Whether one instant is not after another; no instant comes before all, as with `sort_by_key` on
an optional due time. -/
def notAfter : Option Instant → Option Instant → Bool
  | none, _ => true
  | some _, none => false
  | some a, some b => a ≤ b

/-- The messages whose retry is due, the earliest first, at most `limit` of them
(`find_retry_ready`). Those due at the same instant stay in the order of the list, which is
arbitrary: the source sorts what its map gives out. -/
def dueRetries (s : Store) (limit : Nat) (now : Instant) : List Message :=
  ((s.messages.filter (·.isRetryDue now)).mergeSort
    fun a b => notAfter a.nextRetryAt b.nextRetryAt).take limit

/-- The query for due retries (`find_retry_ready`); a failure that was asked for is met once. -/
def findDue (s : Store) (limit : Nat) (now : Instant) :
    Except StoreError (List Message) × Store :=
  match s.dueQueryFailure with
  | some message => (.error (.database message), { s with dueQueryFailure := none })
  | none => (.ok (s.dueRetries limit now), s)

/-- The pending messages, the oldest first, at most `limit` of them (`find_pending`). Those of one
instant stay in the order of the list, as in `dueRetries`. -/
def pending (s : Store) (limit : Nat) : List Message :=
  ((s.messages.filter (·.status = .pending)).mergeSort
    fun a b => decide (a.createdAt ≤ b.createdAt)).take limit

/-- Makes a message pending again if it still waits for the retry that was due at `due`; whether it
did (`requeue_message`). Status and due time are all that is compared. -/
def requeue (s : Store) (id : MessageId) (due now : Instant) :
    Except StoreError (Bool × Store) :=
  if s.failMessageUpdates then .error updateFailure
  else
    match s.get? id with
    | none => .ok (false, s)
    | some m =>
      if m.status ≠ .retry ∨ m.nextRetryAt ≠ some due then .ok (false, s)
      else
        match m.setStatus .pending now with
        | .error e => .error e
        | .ok m => .ok (true, s.insert m)

-- ---------------------------------------------------------------------------
-- Operations on attempts and secrets
-- ---------------------------------------------------------------------------

/-- Appends an attempt to the audit trail (`record_attempt`). A text with a NUL in it cannot be
stored, and neither can an attempt on a message that is not there. -/
def record (s : Store) (id : Uuid) (a : NewAttempt) : Except StoreError (Attempt × Store) :=
  if s.failAttemptWrites then .error (.database "injected attempt write failure")
  else if a.result.responseBody.any (·.toList.contains '\x00') then
    .error (.database "invalid byte sequence for encoding \"UTF8\": 0x00")
  else if !s.contains a.messageId then
    .error (.constraintViolation ("attempt references unknown message " ++ a.messageId.text))
  else
    let record := a.record id
    .ok (record, { s with attempts := s.attempts ++ [record] })

/-- The attempts made on a message, in the order of their numbers (`find_attempts`). -/
def attemptsOf (s : Store) (id : MessageId) : List Attempt :=
  (s.attempts.filter (·.messageId = id)).mergeSort
    fun a b => decide (a.number.value ≤ b.number.value)

/-- Sets the secret of an organisation (`add_signing_secret`). -/
def addSecret (s : Store) (org : OrgId) (secret : String) : Store :=
  { s with secrets := (org, secret) :: s.secrets.filter (·.1 ≠ org) }

/-- The secret of an organisation; an empty one counts as none (`find_signing_secret`). -/
def secretOf (s : Store) (org : OrgId) : Except StoreError String :=
  match s.secrets.lookup org with
  | some secret =>
    if secret = "" then .error (.notFound ("no signing secret for organization " ++ org.text))
    else .ok secret
  | none => .error (.notFound ("no signing secret for organization " ++ org.text))

end Store

end WebhookDelivery
