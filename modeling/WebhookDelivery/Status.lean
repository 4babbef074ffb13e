/-!
# Message status

A message waits in the queue, waits for its next try, or has come to an end one way or the other.
-/

namespace WebhookDelivery

/-- Where a message stands (`MessageStatus`). -/
inductive Status where
  /-- Waiting to be delivered. -/
  | pending
  /-- Failed before, waiting for its due time. -/
  | retry
  /-- Delivered. -/
  | success
  /-- Given up or refused. -/
  | failed
  deriving DecidableEq, Repr

namespace Status

/-- Every status. -/
def all : List Status := [pending, retry, success, failed]

/-- The name under which a status is stored (`as_str`). -/
def text : Status → String
  | pending => "pending"
  | retry => "retry"
  | success => "success"
  | failed => "failed"

/-- The status of a name (`from_str`). -/
def ofText? (s : String) : Option Status :=
  all.find? (·.text = s)

/-- Whether a message in this status is never touched again (`is_terminal`). -/
def isTerminal : Status → Bool
  | success | failed => true
  | pending | retry => false

/-- Every status is read back from its name. -/
theorem ofText?_text (s : Status) : ofText? s.text = some s := by
  cases s <;> decide

end Status

end WebhookDelivery
