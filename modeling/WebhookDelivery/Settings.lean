import WebhookDelivery.Settings.Pipeline

/-!
# Service settings

All that the service can be configured with, the values taken where nothing is said, the check
that a configuration can be run with, the settings of the pipeline's parts that follow from it, and
the database address with its password hidden.
-/

namespace WebhookDelivery

/-- The service's configuration (`Config`). -/
structure Settings where
  databaseUrl : String := "postgresql://localhost/courier"
  databaseMaxConnections : UInt32 := 10
  databaseMinConnections : UInt32 := 2
  /-- Seconds. -/
  databaseConnectionTimeout : UInt64 := 10
  queueName : String := "main"
  queuePopTimeoutMs : UInt64 := 3000
  queuePollIntervalMs : UInt64 := 250
  workerCount : UInt64 := 1
  deliveryTimeoutSeconds : UInt64 := 10
  shutdownTimeoutSeconds : UInt64 := 30
  maxAttempts : UInt32 := 5
  retryBaseDelayMs : UInt64 := 1000
  retryMaxDelayMs : UInt64 := 3600000
  retryJitterFactor : Float := 0
  schedulerIntervalMs : UInt64 := 5000
  schedulerBatchSize : UInt64 := 10
  recoveryLimit : UInt64 := 10000
  /-- Filter for the log, used where none is set elsewhere. -/
  logFilter : String := "info"
  deriving Inhabited

namespace Settings

-- ---------------------------------------------------------------------------
-- Validity
-- ---------------------------------------------------------------------------

/-- Why a configuration cannot be run with: the cases of `validate`. -/
inductive Problem where
  | noConnections
  | minAboveMax
  | queueUnnamed
  | noWorkers
  | noAttempts
  | emptyBatch
  | noInterval
  | jitterOutOfRange
  deriving DecidableEq, Repr

/-- The problem in words. Each names the setting it is about. -/
def Problem.text : Problem → String
  | noConnections => "database_max_connections must be greater than 0"
  | minAboveMax => "database_min_connections cannot exceed database_max_connections"
  | queueUnnamed => "queue_name must not be empty"
  | noWorkers => "worker_count must be greater than 0"
  | noAttempts => "max_attempts must be greater than 0"
  | emptyBatch => "scheduler_batch_size must be greater than 0"
  | noInterval => "scheduler_interval_ms must be greater than 0"
  | jitterOutOfRange => "retry_jitter_factor must be between 0.0 and 1.0"

/-- The checks in the order in which `validate` makes them, each with the problem it finds. -/
def checks (s : Settings) : List (Bool × Problem) :=
  [(s.databaseMaxConnections = 0, .noConnections),
    (s.databaseMaxConnections < s.databaseMinConnections, .minAboveMax),
    (s.queueName = "", .queueUnnamed),
    (s.workerCount = 0, .noWorkers),
    (s.maxAttempts = 0, .noAttempts),
    (s.schedulerBatchSize = 0, .emptyBatch),
    (s.schedulerIntervalMs = 0, .noInterval),
    (!(0 ≤ s.retryJitterFactor && s.retryJitterFactor ≤ 1), .jitterOutOfRange)]

/-- The first problem of a configuration, if it has one (`validate`). -/
def problem? (s : Settings) : Option Problem :=
  (s.checks.find? (·.1)).map (·.2)

-- ---------------------------------------------------------------------------
-- Settings of the parts
-- ---------------------------------------------------------------------------

/-- Settings of the HTTP client (`to_client_config`). -/
def client (s : Settings) : ClientSettings :=
  { timeout := .ofSeconds s.deliveryTimeoutSeconds }

/-- The retry policy (`to_retry_policy`). -/
def retry (s : Settings) : Retry.Policy :=
  { maxAttempts := s.maxAttempts, baseDelay := .ofMillis s.retryBaseDelayMs
    maxDelay := .ofMillis s.retryMaxDelayMs, jitter := s.retryJitterFactor }

/-- Settings of the sweep (`to_scheduler_config`). -/
def sweep (s : Settings) : SweepSettings :=
  { interval := .ofMillis s.schedulerIntervalMs, batchSize := s.schedulerBatchSize
    recoveryLimit := s.recoveryLimit }

/-- Settings of the queue (`to_queue_config`). -/
def queue (s : Settings) : QueueSettings :=
  { name := s.queueName, popTimeout := .ofMillis s.queuePopTimeoutMs
    pollInterval := .ofMillis s.queuePollIntervalMs }

/-- Settings of the delivery engine (`to_delivery_config`). -/
def delivery (s : Settings) : DeliverySettings :=
  { workerCount := s.workerCount, client := s.client, retry := s.retry, sweep := s.sweep
    shutdownTimeout := .ofSeconds s.shutdownTimeoutSeconds }

-- ---------------------------------------------------------------------------
-- Masking
-- ---------------------------------------------------------------------------

/-- Splits at the first place where a character stands: what is before it, and what follows
(`find`). -/
def cutAtFirst? (c : Char) (cs : List Char) : Option (List Char × List Char) :=
  match cs.dropWhile (· ≠ c) with
  | [] => none
  | _ :: rest => some (cs.takeWhile (· ≠ c), rest)

/-- Splits at the last place where a character stands (`rfind`). -/
def cutAtLast? (c : Char) (cs : List Char) : Option (List Char × List Char) :=
  (cutAtFirst? c cs.reverse).map fun (after, before) => (before.reverse, after.reverse)

/-- An address with what stands between the last colon before the first `@` and that `@` replaced
by stars, unless the colon is the one after the scheme. -/
def maskPassword (url : List Char) : List Char :=
  match cutAtFirst? '@' url with
  | none => url
  | some (before, host) =>
    match cutAtLast? ':' before with
    | none => url
    | some (user, secret) =>
      if ['/', '/'].isPrefixOf (secret ++ '@' :: host) then url
      else user ++ ':' :: "***".toList ++ '@' :: host

/-- The database address as it may be logged (`database_url_masked`). -/
def maskedDatabaseUrl (s : Settings) : String :=
  String.ofList (maskPassword s.databaseUrl.toList)

end Settings

end WebhookDelivery
