import WebhookDelivery.PipelineError

/-!
# Counters

What the pipeline counts: a record for its own callers, and metrics for whoever watches it. Both
change with the same events.
-/

namespace WebhookDelivery

/-- The counters of an engine (`EngineStats`). -/
structure Stats where
  activeWorkers : Nat := 0
  /-- Messages taken off the queue and delivered or refused. -/
  processed : Nat := 0
  successful : Nat := 0
  /-- Failed attempts that are to be followed by another. -/
  failed : Nat := 0
  deadLettered : Nat := 0
  /-- Messages that no request could be made of. -/
  rejected : Nat := 0
  /-- Requests on the wire. -/
  inFlight : Nat := 0
  /-- Retries put back into the queue. -/
  requeued : Nat := 0
  deriving DecidableEq, Repr, Inhabited

/-- The metrics: counters and the number of samples of the histogram `webhook_delivery_duration_ms`.
-/
structure Metrics where
  durationSamples : Nat := 0
  deliveredSuccess : Nat := 0
  deliveredFailed : Nat := 0
  deliveredDeadLetter : Nat := 0
  requeued : Nat := 0
  recovered : Nat := 0
  /-- The category of each failure to process an entry, the latest first. -/
  failures : List ErrorCategory := []
  deriving DecidableEq, Repr, Inhabited

/-- What is counted. -/
inductive Event where
  /-- Workers were started or stopped. -/
  | workers (count : Nat)
  /-- A request goes out. -/
  | sending
  /-- Its answer, or the lack of one, is in. -/
  | sent
  /-- An entry has been dealt with. -/
  | processed
  | delivered
  | retryScheduled
  | deadLettered
  | rejected
  /-- A sweep has requeued this many messages. -/
  | requeued (count : Nat)
  /-- A recovery has put this many messages into the queue. -/
  | recovered (count : Nat)
  /-- An entry could not be dealt with. -/
  | failure (category : ErrorCategory)
  deriving DecidableEq, Repr

/-- The counters after an event. -/
def Stats.count (s : Stats) : Event → Stats
  | .workers n => { s with activeWorkers := n }
  | .sending => { s with inFlight := s.inFlight + 1 }
  | .sent => { s with inFlight := s.inFlight - 1 }
  | .processed => { s with processed := s.processed + 1 }
  | .delivered => { s with successful := s.successful + 1 }
  | .retryScheduled => { s with failed := s.failed + 1 }
  | .deadLettered => { s with deadLettered := s.deadLettered + 1 }
  | .rejected => { s with rejected := s.rejected + 1 }
  | .requeued n => { s with requeued := s.requeued + n }
  | .recovered _ | .failure _ => s

/-- The metrics after an event. -/
def Metrics.count (m : Metrics) : Event → Metrics
  | .delivered =>
    { m with durationSamples := m.durationSamples + 1, deliveredSuccess := m.deliveredSuccess + 1 }
  | .retryScheduled =>
    { m with durationSamples := m.durationSamples + 1, deliveredFailed := m.deliveredFailed + 1 }
  | .deadLettered =>
    { m with durationSamples := m.durationSamples + 1
             deliveredDeadLetter := m.deliveredDeadLetter + 1 }
  | .requeued n => { m with requeued := m.requeued + n }
  | .recovered n => { m with recovered := m.recovered + n }
  | .failure category => { m with failures := category :: m.failures }
  | .workers _ | .sending | .sent | .processed | .rejected => m

/-- The metrics by name, in no particular order. -/
def Metrics.entries (m : Metrics) : List (String × Nat) :=
  let label (name key value : String) : String := name ++ "\x7b" ++ key ++ "=" ++ value ++ "\x7d"
  [("webhook_delivery_duration_ms", m.durationSamples),
    (label "webhooks_delivered_total" "status" "success", m.deliveredSuccess),
    (label "webhooks_delivered_total" "status" "failed", m.deliveredFailed),
    (label "webhooks_delivered_total" "status" "dead_letter", m.deliveredDeadLetter),
    ("webhooks_requeued_total", m.requeued), ("webhooks_recovered_total", m.recovered)]
  ++ [ErrorCategory.network, .request, .database, .queue, .configuration, .internal].map
    fun c => (label "webhook_processing_errors_total" "category" c.text, m.failures.count c)

/-- The counters by name, as the fields of `EngineStats` are called. -/
def Stats.entries (s : Stats) : List (String × Nat) :=
  [("active_workers", s.activeWorkers), ("messages_processed", s.processed),
    ("successful_deliveries", s.successful), ("failed_deliveries", s.failed),
    ("dead_lettered", s.deadLettered), ("rejected", s.rejected),
    ("in_flight_deliveries", s.inFlight), ("requeued", s.requeued)]

end WebhookDelivery
