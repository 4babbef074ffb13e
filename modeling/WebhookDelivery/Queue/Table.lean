import WebhookDelivery.PipelineError

/-!
# Queues in a database

A queue may be kept in a database table. Its failures are those of the database's driver, told
with what was being done on which queue.
-/

namespace WebhookDelivery

/-- What is asked of a queue. -/
inductive QueueOperation where
  | push
  | pop
  | length
  | contains
  deriving DecidableEq, Repr

/-- What was being done, in words, as `PostgresWorkQueue` puts it. -/
def QueueOperation.failureText (queue : String) : QueueOperation → String
  | push => "failed to push to " ++ queue
  | pop => "failed to pop from " ++ queue
  | length => "failed to count queue"
  | contains => "failed to look up queue entry"

/-- A driver failure on a queue, as the pipeline sees it. -/
def DriverFailure.toQueueError (failure : DriverFailure) (queue : String) (op : QueueOperation) :
    PipelineError :=
  .queue (op.failureText queue ++ ": " ++ failure.text)

end WebhookDelivery
