import WebhookDelivery.Pipeline.Task

/-!
# Submission

How a message comes in: the draft is checked and brought to normal form, stored as pending, and its
identifier handed to the queue. A message that is stored but cannot be queued is set aside as a
retry that is due at once, so that the next sweep picks it up.
-/

namespace WebhookDelivery

/-- The draft as it is stored, method and URL in normal form, if it can be sent: the checks of
`submit`. It is the text given that is checked (`parse_method`, `parse_url`), and another that is
stored. -/
def Draft.normalize (d : Draft) : Except Unsendable Draft := do
  let method ← Method.parse d.method
  let url ← Url.parse d.url
  if maxPayloadBytes < d.payload.length then .error (.payloadTooLarge d.payload.length)
  else .ok { d with method := method.text, url := url.text }

/-- A draft in normal form writes the method and the URL that were read. -/
theorem Draft.normalize_eq_ok {d draft : Draft} :
    d.normalize = .ok draft ↔ ∃ method url, Method.parse d.method = .ok method
      ∧ Url.parse d.url = .ok url ∧ d.payload.length ≤ maxPayloadBytes
      ∧ draft = { d with method := method.text, url := url.text } := by
  rw [normalize]
  cases hmethod : Method.parse d.method with
  | error reason => simp [bind, Except.bind]
  | ok method =>
    cases hurl : Url.parse d.url with
    | error reason => simp [bind, Except.bind]
    | ok url =>
      by_cases hlarge : maxPayloadBytes < d.payload.length
      · have hnot := Nat.not_le.mpr hlarge
        simp [bind, Except.bind, hlarge, hnot]
      · have hle := Nat.not_lt.mp hlarge
        simp [bind, Except.bind, hlarge, hle, eq_comm]

namespace Submission

/-- Sets a message aside as a retry that is due at once (`defer`), where `submit` could not queue
it. -/
def setAside (m : Message) : Task (Except PipelineError Message) := do
  let now ← Task.perform .now
  let deferred := m.defer now now
  match ← Task.perform (.updateMessage deferred) with
  | .ok () => return .ok deferred
  | .error e => return .error e.toPipeline

/-- Hands a stored message to the queue. -/
def enqueue (m : Message) : Task (Except PipelineError Message) := do
  match ← Task.perform (.push m.id.text) with
  | .ok () => return .ok m
  | .error _ => setAside m

/-- Stores a draft in normal form and hands it to the queue. -/
def accept (d : Draft) : Task (Except PipelineError Message) := do
  match ← Task.perform (.createMessage d) with
  | .ok m => enqueue m
  | .error e => return .error e.toPipeline

end Submission

/-- Takes a draft in: the message as it was stored last, or why it was refused (`submit`). -/
def submit (d : Draft) : Task (Except PipelineError Message) :=
  match d.normalize with
  | .ok draft => Submission.accept draft
  | .error u => .done (.error u.toPipeline)

end WebhookDelivery
