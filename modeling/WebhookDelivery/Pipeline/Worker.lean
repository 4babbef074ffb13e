import WebhookDelivery.Pipeline.Task

/-!
# Workers

A worker takes identifiers off the queue and makes one attempt for each. The order of an attempt is
fixed: make the request, sign it, send it, record the attempt, move the message on. The attempt is
recorded before the message moves on, so that a crash in between still leaves a trace of it.
-/

namespace WebhookDelivery

/-- What a delivery made of its message (`DeliveryTransition`). -/
inductive Transition where
  /-- The receiver accepted it. -/
  | delivered (statusCode : UInt16)
  /-- The attempt failed and another is to follow. -/
  | retryScheduled (attemptCount : Count) (nextRetryAt : Instant)
  /-- The attempt failed and was the last. -/
  | deadLettered (attemptCount : Count)
  /-- No request could be made of the message. -/
  | rejected (reason : String)
  deriving DecidableEq, Repr

namespace Transition

/-- What is counted when the transition has been stored (`observe`, and `reject` for the last). -/
def event : Transition → Event
  | delivered _ => .delivered
  | retryScheduled _ _ => .retryScheduled
  | deadLettered _ => .deadLettered
  | rejected _ => .rejected

end Transition

namespace Message

/-- A message after a successful attempt, as `deliver` leaves it. -/
def delivered (m : Message) (code : UInt16) (now : Instant) : Message × Transition :=
  (m.markDelivered now, .delivered code)

/-- A message after a failed attempt, as was decided. -/
def failed (m : Message) (decision : Retry.Decision) (now : Instant) : Message × Transition :=
  match decision with
  | .retry next _ =>
    let m := m.scheduleRetry next now
    (m, .retryScheduled m.attemptCount next)
  | .giveUp _ => (m.markDeadLettered now, .deadLettered m.attemptCount)

/-- Attempts that count against the budget: a negative count is none (`prior_attempts` in
`deliver`). -/
def priorAttempts (m : Message) : Nat :=
  m.attemptCount.value.toNat

/-- The record of an attempt on the message, as `record_attempt` makes it. -/
def attempt (m : Message) (report : Report) (now : Instant) : NewAttempt :=
  { messageId := m.id, number := m.nextAttemptNumber, result := report.outcome.result
    durationMs := some report.durationMs, attemptedAt := now }

end Message

/-- What a worker works with (`DeliveryWorker`). -/
structure Worker where
  client : Client
  policy : Retry.Policy
  /-- Pause after a failure of the queue or the store (`queue_error_backoff`). -/
  errorBackoff : Duration

namespace Worker

-- ---------------------------------------------------------------------------
-- One delivery
-- ---------------------------------------------------------------------------

/-- The signature for a message, if its organisation has a secret that can be looked up
(`signature_for`). A message without one goes out unsigned. -/
def signatureFor (m : Message) : Task (Option Signature) := do
  match ← Task.perform (.findSigningSecret m.org) with
  | .error _ => return none
  | .ok secret =>
    let now ← Task.perform .now
    return some (.sign m.webhookId secret m.payload now.seconds)

/-- Sends a request, between two changes of `in_flight_deliveries`. -/
def exchange (w : Worker) (r : DeliveryRequest) : Task Report := do
  Task.perform (.note .sending)
  let report ← Task.perform (.send w.client r)
  Task.perform (.note .sent)
  return report

/-- The offset for the wait after so many attempts: drawn only if the policy asks for jitter
(`apply_jitter`). -/
def drawOffset (p : Retry.Policy) (prior : Nat) : Task Float :=
  if 0 < p.jitter then Task.perform (.drawOffset (p.jitterRange (p.plainDelay prior)))
  else .done 0

/-- The decision after a failed attempt (`decide`); where there is none, the worker breaks down. -/
def decideRetry (p : Retry.Policy) (prior : Nat) (failedAt : Instant) : Task Retry.Decision := do
  let offset ← drawOffset p prior
  match p.decide (fun _ => offset) prior failedAt with
  | .ok decision => return decision
  | .error _ => .breakdown

/-- The message after an attempt, and the transition that this is: what `deliver` does between the
record and the write. -/
def settle (w : Worker) (m : Message) (outcome : Outcome) (now : Instant) :
    Task (Message × Transition) := do
  match outcome with
  | .success code _ => return m.delivered code now
  | _ =>
    let decision ← decideRetry w.policy m.priorAttempts now
    return m.failed decision now

/-- Stores what a delivery made of its message: `update_message`, and only then `observe`. -/
def conclude (m : Message) (t : Transition) : Task (Except PipelineError Transition) := do
  match ← Task.perform (.updateMessage m) with
  | .error e => return .error e.toPipeline
  | .ok () =>
    Task.perform (.note t.event)
    return .ok t

/-- One attempt on a message: `deliver` from the signature on. A failure to record it does not stop
the delivery. -/
def attempt (w : Worker) (m : Message) (r : DeliveryRequest) :
    Task (Except PipelineError Transition) := do
  let signature ← signatureFor m
  let report ← w.exchange (r.sign signature)
  let now ← Task.perform .now
  let _ ← Task.perform (.recordAttempt (m.attempt report now))
  let (m, t) ← w.settle m report.outcome now
  conclude m t

/-- Marks a message that can never be sent as failed (`reject`). -/
def reject (m : Message) (reason : Unsendable) : Task (Except PipelineError Transition) := do
  match ← Task.perform (.updateMessageStatus m.id .failed) with
  | .error e => return .error e.toPipeline
  | .ok _ =>
    Task.perform (.note .rejected)
    return .ok (.rejected reason.toPipeline.text)

/-- Makes one attempt to deliver a message and moves it on (`deliver`). The copy that is moved on is
the one that was given, however old it is. -/
def deliver (w : Worker) (m : Message) : Task (Except PipelineError Transition) :=
  match DeliveryRequest.ofMessage m with
  | .ok r => w.attempt m r
  | .error reason => reject m reason

-- ---------------------------------------------------------------------------
-- One queue entry
-- ---------------------------------------------------------------------------

/-- Delivers a loaded message, unless it has come to its end: `process` from `is_terminal` on. -/
def processMessage (w : Worker) (m : Message) : Task (Except PipelineError (Option Transition)) :=
  if m.status.isTerminal then .done (.ok none)
  else do
    match ← w.deliver m with
    | .error e => return .error e
    | .ok t =>
      Task.perform (.note .processed)
      return .ok (some t)

/-- Deals with one queue entry (`process`). Entries that name no stored message, or one that has
come to its end, are skipped. -/
def process (w : Worker) (entry : String) : Task (Except PipelineError (Option Transition)) :=
  match MessageId.ofText? entry with
  | none => .done (.ok none)
  | some id => do
    match ← Task.perform (.findMessage id) with
    | .ok m => w.processMessage m
    | .error e => if e.isNotFound then return .ok none else return .error e.toPipeline

-- ---------------------------------------------------------------------------
-- The loop
-- ---------------------------------------------------------------------------

/-- After a failure to deal with an entry: it goes back into the queue if it may succeed later
(`push_back`), and the worker pauses. -/
def afterFailure (w : Worker) (entry : String) (e : PipelineError) : Task Unit := do
  Task.perform (.note (.failure e.category))
  if e.isRetryable then
    let _ ← Task.perform (.push entry)
    Task.perform (.sleep w.errorBackoff)

/-- One round of the loop in `run`: one pop and what follows from it. -/
def round (w : Worker) : Task Unit := do
  match ← Task.perform .pop with
  | .error _ => Task.perform (.sleep w.errorBackoff)
  | .ok none => return ()
  | .ok (some entry) =>
    match ← w.process entry with
    | .ok _ => return ()
    | .error e => w.afterFailure entry e

/-- Rounds until the worker is told to stop, at most so many (`run`). -/
def run (w : Worker) : Nat → World → Option Unit × World
  | 0, world => (some (), world)
  | rounds + 1, world =>
    if world.cancelled then (some (), world)
    else
      match w.round.run world with
      | (none, world) => (none, world)
      | (some (), world) => w.run rounds world

end Worker

/-- Rounds after which a worker on trial has been told to stop. -/
def PopPlan.rounds (plan : PopPlan) : Nat :=
  plan.failing + plan.handouts + 1

end WebhookDelivery
