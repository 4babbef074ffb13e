import WebhookDelivery.PipelineError
import WebhookDelivery.Settings.Pipeline

/-!
# The work queue

Hands message identifiers, as texts, from producers to workers in the order in which they came.
It is a handoff and no source of truth: what is lost here is found again in the store.
-/

namespace WebhookDelivery

/-- A queue in memory (`MemoryWorkQueue`). -/
structure Queue where
  settings : QueueSettings := {}
  /-- Waiting entries, the head first. -/
  entries : List String := []
  /-- Whether pushes fail (`reject_pushes`). -/
  rejecting : Bool := false
  deriving DecidableEq, Repr

namespace Queue

/-- Appends an entry (`push`). -/
def push (q : Queue) (entry : String) : Except PipelineError Queue :=
  if q.rejecting then .error (.queue ("queue " ++ q.settings.name ++ " is rejecting pushes"))
  else .ok { q with entries := q.entries ++ [entry] }

/-- Takes the head, if there is one (`pop`, as far as it does not wait). -/
def pop (q : Queue) : Option String × Queue :=
  match q.entries with
  | [] => (none, q)
  | entry :: rest => (some entry, { q with entries := rest })

/-- Whether an entry is waiting (`contains`). Entries are compared as texts. -/
def contains (q : Queue) (entry : String) : Bool :=
  q.entries.contains entry

end Queue

end WebhookDelivery
