import WebhookDelivery.Json
import WebhookDelivery.Settings

/-!
# JSON shapes of the settings

The same rules as for the other records. A duration is an object of seconds and nanoseconds that
may hold nothing else, and the service's settings take the usual value for a member that is
missing.
-/

namespace WebhookDelivery

namespace Duration

def toJson (d : Duration) : Json :=
  .obj [("secs", .int d.seconds), ("nanos", .int d.subsecNanos)]

/-- A duration from its two members and no others. Nanoseconds beyond a second are carried. -/
def ofJson? (v : Json) : Option Duration := do
  let ms ← v.members? ["secs", "nanos"]
  if ms.all fun m => m.1 = "secs" || m.1 = "nanos" then
    let seconds ← Json.member? ms "secs" Json.uint64?
    let nanos ← Json.member? ms "nanos" Json.uint32?
    ofNanos? (seconds.toNat * 1000000000 + nanos.toNat)
  else none

end Duration

namespace ClientSettings

def toJson (s : ClientSettings) : Json :=
  .obj [("timeout", s.timeout.toJson), ("user_agent", .str s.userAgent),
    ("max_redirects", .int s.maxRedirects.toNat)]

def ofJson? (v : Json) : Option ClientSettings := do
  let ms ← v.members? ["timeout", "user_agent", "max_redirects"]
  let timeout ← Json.member? ms "timeout" Duration.ofJson?
  let userAgent ← Json.member? ms "user_agent" Json.string?
  let maxRedirects ← Json.member? ms "max_redirects" Json.uint32?
  some { timeout, userAgent, maxRedirects }

end ClientSettings

namespace Retry.Policy

def toJson (p : Policy) : Json :=
  .obj [("max_attempts", .int p.maxAttempts.toNat), ("base_delay", p.baseDelay.toJson),
    ("max_delay", p.maxDelay.toJson), ("jitter_factor", .ofFloat p.jitter)]

def ofJson? (v : Json) : Option Policy := do
  let ms ← v.members? ["max_attempts", "base_delay", "max_delay", "jitter_factor"]
  let maxAttempts ← Json.member? ms "max_attempts" Json.uint32?
  let baseDelay ← Json.member? ms "base_delay" Duration.ofJson?
  let maxDelay ← Json.member? ms "max_delay" Duration.ofJson?
  let jitter ← Json.member? ms "jitter_factor" Json.float?
  some { maxAttempts, baseDelay, maxDelay, jitter }

end Retry.Policy

namespace SweepSettings

def toJson (s : SweepSettings) : Json :=
  .obj [("interval", s.interval.toJson), ("batch_size", .int s.batchSize.toNat),
    ("recovery_limit", .int s.recoveryLimit.toNat)]

def ofJson? (v : Json) : Option SweepSettings := do
  let ms ← v.members? ["interval", "batch_size", "recovery_limit"]
  let interval ← Json.member? ms "interval" Duration.ofJson?
  let batchSize ← Json.member? ms "batch_size" Json.uint64?
  let recoveryLimit ← Json.member? ms "recovery_limit" Json.uint64?
  some { interval, batchSize, recoveryLimit }

end SweepSettings

namespace QueueSettings

def toJson (s : QueueSettings) : Json :=
  .obj [("name", .str s.name), ("pop_timeout", s.popTimeout.toJson),
    ("poll_interval", s.pollInterval.toJson)]

def ofJson? (v : Json) : Option QueueSettings := do
  let ms ← v.members? ["name", "pop_timeout", "poll_interval"]
  let name ← Json.member? ms "name" Json.string?
  let popTimeout ← Json.member? ms "pop_timeout" Duration.ofJson?
  let pollInterval ← Json.member? ms "poll_interval" Duration.ofJson?
  some { name, popTimeout, pollInterval }

end QueueSettings

namespace DeliverySettings

def toJson (s : DeliverySettings) : Json :=
  .obj [("worker_count", .int s.workerCount.toNat), ("client_config", s.client.toJson),
    ("retry_policy", s.retry.toJson), ("scheduler", s.sweep.toJson),
    ("shutdown_timeout", s.shutdownTimeout.toJson),
    ("queue_error_backoff", s.queueErrorBackoff.toJson)]

def ofJson? (v : Json) : Option DeliverySettings := do
  let ms ← v.members? ["worker_count", "client_config", "retry_policy", "scheduler",
    "shutdown_timeout", "queue_error_backoff"]
  let workerCount ← Json.member? ms "worker_count" Json.uint64?
  let client ← Json.member? ms "client_config" ClientSettings.ofJson?
  let retry ← Json.member? ms "retry_policy" Retry.Policy.ofJson?
  let sweep ← Json.member? ms "scheduler" SweepSettings.ofJson?
  let shutdownTimeout ← Json.member? ms "shutdown_timeout" Duration.ofJson?
  let queueErrorBackoff ← Json.member? ms "queue_error_backoff" Duration.ofJson?
  some { workerCount, client, retry, sweep, shutdownTimeout, queueErrorBackoff }

end DeliverySettings

namespace Settings

/-- The names of the settings, in order. -/
def keys : List String :=
  ["database_url", "database_max_connections", "database_min_connections",
    "database_connection_timeout", "queue_name", "queue_pop_timeout_ms", "queue_poll_interval_ms",
    "worker_count", "delivery_timeout_seconds", "shutdown_timeout_seconds", "max_attempts",
    "retry_base_delay_ms", "retry_max_delay_ms", "retry_jitter_factor", "scheduler_interval_ms",
    "scheduler_batch_size", "recovery_limit", "rust_log"]

def toJson (s : Settings) : Json :=
  .obj [("database_url", .str s.databaseUrl),
    ("database_max_connections", .int s.databaseMaxConnections.toNat),
    ("database_min_connections", .int s.databaseMinConnections.toNat),
    ("database_connection_timeout", .int s.databaseConnectionTimeout.toNat),
    ("queue_name", .str s.queueName),
    ("queue_pop_timeout_ms", .int s.queuePopTimeoutMs.toNat),
    ("queue_poll_interval_ms", .int s.queuePollIntervalMs.toNat),
    ("worker_count", .int s.workerCount.toNat),
    ("delivery_timeout_seconds", .int s.deliveryTimeoutSeconds.toNat),
    ("shutdown_timeout_seconds", .int s.shutdownTimeoutSeconds.toNat),
    ("max_attempts", .int s.maxAttempts.toNat),
    ("retry_base_delay_ms", .int s.retryBaseDelayMs.toNat),
    ("retry_max_delay_ms", .int s.retryMaxDelayMs.toNat),
    ("retry_jitter_factor", .ofFloat s.retryJitterFactor),
    ("scheduler_interval_ms", .int s.schedulerIntervalMs.toNat),
    ("scheduler_batch_size", .int s.schedulerBatchSize.toNat),
    ("recovery_limit", .int s.recoveryLimit.toNat),
    ("rust_log", .str s.logFilter)]

/-- One setting put in place under its name; `none` if the value does not suit it. A name that is
no setting changes nothing. -/
def set? (s : Settings) (key : String) (v : Json) : Option Settings :=
  match key with
  | "database_url" => v.string?.map fun x => { s with databaseUrl := x }
  | "database_max_connections" => v.uint32?.map fun x => { s with databaseMaxConnections := x }
  | "database_min_connections" => v.uint32?.map fun x => { s with databaseMinConnections := x }
  | "database_connection_timeout" =>
    v.uint64?.map fun x => { s with databaseConnectionTimeout := x }
  | "queue_name" => v.string?.map fun x => { s with queueName := x }
  | "queue_pop_timeout_ms" => v.uint64?.map fun x => { s with queuePopTimeoutMs := x }
  | "queue_poll_interval_ms" => v.uint64?.map fun x => { s with queuePollIntervalMs := x }
  | "worker_count" => v.uint64?.map fun x => { s with workerCount := x }
  | "delivery_timeout_seconds" => v.uint64?.map fun x => { s with deliveryTimeoutSeconds := x }
  | "shutdown_timeout_seconds" => v.uint64?.map fun x => { s with shutdownTimeoutSeconds := x }
  | "max_attempts" => v.uint32?.map fun x => { s with maxAttempts := x }
  | "retry_base_delay_ms" => v.uint64?.map fun x => { s with retryBaseDelayMs := x }
  | "retry_max_delay_ms" => v.uint64?.map fun x => { s with retryMaxDelayMs := x }
  | "retry_jitter_factor" => v.float?.map fun x => { s with retryJitterFactor := x }
  | "scheduler_interval_ms" => v.uint64?.map fun x => { s with schedulerIntervalMs := x }
  | "scheduler_batch_size" => v.uint64?.map fun x => { s with schedulerBatchSize := x }
  | "recovery_limit" => v.uint64?.map fun x => { s with recoveryLimit := x }
  | "rust_log" => v.string?.map fun x => { s with logFilter := x }
  | _ => some s

/-- Settings from an object, or from an array of the first of them in order; what is missing keeps
its usual value. -/
def ofJson? : Json → Option Settings
  | .obj ms => ms.foldlM (fun s (key, v) => s.set? key v) {}
  | .arr items =>
    if items.length ≤ keys.length then
      (keys.zip items).foldlM (fun s (key, v) => s.set? key v) {}
    else none
  | _ => none

end Settings

end WebhookDelivery
