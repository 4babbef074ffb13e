import WebhookDelivery.Retry

/-!
# Settings of the pipeline

What each part of the pipeline can be told, with the values it takes if it is told nothing.
-/

namespace WebhookDelivery

/-- Settings of the HTTP client (`ClientConfig`). -/
structure ClientSettings where
  /-- Longest time for a whole request, its body included. -/
  timeout : Duration := .ofSeconds 10
  userAgent : String := "Courier-Webhook-Delivery/1.0"
  maxRedirects : UInt32 := 3
  deriving DecidableEq, Repr, Inhabited

/-- Settings of the sweep over due retries (`SchedulerConfig`). -/
structure SweepSettings where
  /-- Time between two sweeps. -/
  interval : Duration := .ofMillis 5000
  /-- Most messages requeued by one sweep. -/
  batchSize : UInt64 := 10
  /-- Most pending messages looked at when recovering at start. -/
  recoveryLimit : UInt64 := 10000
  deriving DecidableEq, Repr, Inhabited

/-- Settings of a work queue (`QueueConfig`). -/
structure QueueSettings where
  name : String := "main"
  /-- Longest wait of one pop. -/
  popTimeout : Duration := .ofMillis 3000
  /-- Time between two looks at an empty backing store. -/
  pollInterval : Duration := .ofMillis 250
  deriving DecidableEq, Repr, Inhabited

/-- Settings of the delivery engine (`DeliveryConfig`). -/
structure DeliverySettings where
  workerCount : UInt64 := 1
  client : ClientSettings := {}
  retry : Retry.Policy := {}
  sweep : SweepSettings := {}
  /-- Longest wait for tasks to stop. -/
  shutdownTimeout : Duration := .ofSeconds 30
  /-- Pause of a worker after a failure of the queue or the store. -/
  queueErrorBackoff : Duration := .ofSeconds 1
  deriving Inhabited

end WebhookDelivery
