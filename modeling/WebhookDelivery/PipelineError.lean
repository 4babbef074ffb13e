import WebhookDelivery.Duration
import WebhookDelivery.StoreError

/-!
# Errors of the pipeline

What can go wrong around deliveries. A receiver that answers with an error or not at all is no
such failure: it is recorded as an attempt.
-/

namespace WebhookDelivery

/-- A failure of the pipeline (`DeliveryError`). -/
inductive PipelineError where
  | network (message : String)
  | timeout (seconds : Nat)
  | invalidRequest (message : String)
  | database (message : String)
  | queue (message : String)
  | configuration (message : String)
  /-- Tasks were still running after this time. -/
  | shutdownTimeout (limit : Duration)
  /-- A task came to an unforeseen end. -/
  | taskPanicked (task message : String)
  deriving DecidableEq, Repr

/-- The kinds of failure that are counted apart (`ErrorCategory`). -/
inductive ErrorCategory where
  | network
  | request
  | database
  | queue
  | configuration
  | internal
  deriving DecidableEq, Repr

/-- The label under which a category is counted. -/
def ErrorCategory.text : ErrorCategory → String
  | network => "network"
  | request => "request"
  | database => "database"
  | queue => "queue"
  | configuration => "configuration"
  | internal => "internal"

namespace PipelineError

/-- The full text of the error. -/
def text : PipelineError → String
  | network m => "network connection failed: " ++ m
  | timeout seconds => "request timeout after " ++ toString seconds ++ "s"
  | invalidRequest m => "invalid request: " ++ m
  | database m => "database error: " ++ m
  | queue m => "queue error: " ++ m
  | configuration m => "configuration error: " ++ m
  | shutdownTimeout limit => "shutdown timed out after " ++ limit.text
  | taskPanicked task m => "task " ++ task ++ " panicked: " ++ m

/-- Whether the same operation could succeed later (`is_retryable`). -/
def isRetryable : PipelineError → Bool
  | network _ | timeout _ | database _ | queue _ => true
  | invalidRequest _ | configuration _ | shutdownTimeout _ | taskPanicked _ _ => false

/-- The category that the error is counted under (`from` of `ErrorCategory`). -/
def category : PipelineError → ErrorCategory
  | network _ | timeout _ => .network
  | invalidRequest _ => .request
  | database _ => .database
  | queue _ => .queue
  | configuration _ => .configuration
  | shutdownTimeout _ | taskPanicked _ _ => .internal

end PipelineError

/-- A store error inside the pipeline (`from` of `DeliveryError`): invalid input is the request's
fault, the rest the database's. -/
def StoreError.toPipeline : StoreError → PipelineError
  | .invalidInput m => .invalidRequest m
  | other => .database other.text

end WebhookDelivery
