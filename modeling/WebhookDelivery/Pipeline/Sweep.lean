import WebhookDelivery.Pipeline.Task

/-!
# Sweep and recovery

A sweep puts messages whose retry is due back into the queue. Each is pushed first and marked
pending second, and only if it still waits for the same due time: a message that could not be
pushed is found by the next sweep, and one that changed in the meantime is left as it is.

Recovery puts pending messages into the queue that are not there, as after a restart.
-/

namespace WebhookDelivery

-- ---------------------------------------------------------------------------
-- Sweep
-- ---------------------------------------------------------------------------

namespace Sweep

/-- Puts one due message back; whether it was marked pending. This is the body of the loop in
`sweep`: the push first, `requeue_message` second. -/
def requeueOne (m : Message) : Task Bool :=
  match m.nextRetryAt with
  | none => .done false
  | some due => do
    match ← Task.perform (.push m.id.text) with
    | .error _ => return false
    | .ok () =>
      match ← Task.perform (.requeueMessage m.id due) with
      | .ok requeued => return requeued
      | .error _ => return false

/-- Puts due messages back; how many were marked pending. -/
def requeueAll : List Message → Task Nat
  | [] => .done 0
  | m :: rest => do
    let requeued ← requeueOne m
    let others ← requeueAll rest
    return requeued.toNat + others

/-- Counts what a sweep has requeued, if it has requeued anything. -/
def report (requeued : Nat) : Task Nat :=
  if requeued = 0 then .done 0
  else do
    Task.perform (.note (.requeued requeued))
    return requeued

end Sweep

/-- One sweep: how many messages were requeued (`sweep` of `RetryScheduler`). -/
def SweepSettings.sweep (s : SweepSettings) : Task (Except PipelineError Nat) := do
  let now ← Task.perform .now
  match ← Task.perform (.findRetryReady s.batchSize.toNat now) with
  | .error e => return .error (.database ("failed to find due retries: " ++ e.text))
  | .ok due =>
    let requeued ← Sweep.requeueAll due
    let requeued ← Sweep.report requeued
    return .ok requeued

/-- So many sweeps in a row, whatever comes of each (`run` of `RetryScheduler`). There is no ticking
without a time between two ticks. -/
def SweepSettings.run (s : SweepSettings) (sweeps : Nat) : Task Unit :=
  if s.interval = .zero then .breakdown
  else go sweeps
where
  /-- The sweeps that are left. -/
  go : Nat → Task Unit
    | 0 => .done ()
    | n + 1 => do
      let _ ← s.sweep
      go n

-- ---------------------------------------------------------------------------
-- Recovery
-- ---------------------------------------------------------------------------

namespace Recovery

/-- Puts one pending message into the queue unless it is there; whether it was put. This is the body
of the loop in `recover_pending`. -/
def enqueueOne (m : Message) : Task (Except PipelineError Bool) := do
  match ← Task.perform (.queueContains m.id.text) with
  | .error e => return .error e
  | .ok true => return .ok false
  | .ok false =>
    match ← Task.perform (.push m.id.text) with
    | .ok () => return .ok true
    | .error _ => return .ok false

/-- Puts pending messages into the queue; how many were put. -/
def enqueueAll : List Message → Task (Except PipelineError Nat)
  | [] => .done (.ok 0)
  | m :: rest => do
    match ← enqueueOne m with
    | .error e => return .error e
    | .ok enqueued =>
      match ← enqueueAll rest with
      | .error e => return .error e
      | .ok others => return .ok (enqueued.toNat + others)

/-- Counts what a recovery has put into the queue, if it has put anything. -/
def report (recovered : Nat) : Task (Except PipelineError Nat) :=
  if recovered = 0 then .done (.ok 0)
  else do
    Task.perform (.note (.recovered recovered))
    return .ok recovered

end Recovery

/-- One recovery: how many pending messages were put into the queue (`recover_pending`). Those that
are in the queue count against the limit as well. -/
def SweepSettings.recover (s : SweepSettings) : Task (Except PipelineError Nat) := do
  match ← Task.perform (.findPending s.recoveryLimit.toNat) with
  | .error e => return .error (.database ("failed to find pending messages: " ++ e.text))
  | .ok pending =>
    match ← Recovery.enqueueAll pending with
    | .error e => return .error e
    | .ok recovered => Recovery.report recovered

end WebhookDelivery
