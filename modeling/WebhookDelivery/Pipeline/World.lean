import WebhookDelivery.Clock
import WebhookDelivery.Http.Client
import WebhookDelivery.Pipeline.Stats
import WebhookDelivery.Queue
import WebhookDelivery.Store

/-!
# The world of the pipeline

Everything that the pipeline's parts share: store, queue, clock, counters and network, and what the
outside supplies when asked. The parts reach it by calls, each of which happens at once; between
two calls of one part any call of another may happen.

Calls have the names of the functions that they stand for: those on the store are the methods of
`DeliveryStorage`, those on the queue the methods of `WorkQueue`.
-/

namespace WebhookDelivery

-- ---------------------------------------------------------------------------
-- Calls
-- ---------------------------------------------------------------------------

/-- The store operations, by which failures are planned (the methods of `DeliveryStorage`). -/
inductive StoreOperation where
  | createMessage
  | findMessage
  | updateMessageStatus
  | updateMessage
  | findRetryReady
  | findPending
  | requeueMessage
  | recordAttempt
  | findAttempts
  | findSigningSecret
  deriving DecidableEq, Repr

/-- One call on the world. -/
inductive Call where
  | createMessage (draft : Draft)
  | findMessage (id : MessageId)
  | updateMessageStatus (id : MessageId) (status : Status)
  | updateMessage (m : Message)
  | findRetryReady (limit : Nat) (now : Instant)
  | findPending (limit : Nat)
  | requeueMessage (id : MessageId) (due : Instant)
  | recordAttempt (a : NewAttempt)
  | findAttempts (id : MessageId)
  | findSigningSecret (org : OrgId)
  | push (entry : String)
  | pop
  | queueLength
  | queueContains (entry : String)
  /-- The clock's reading (`now_utc`). -/
  | now
  | sleep (d : Duration)
  /-- A request to a receiver (`deliver` of `DeliveryClient`). -/
  | send (client : Client) (request : DeliveryRequest)
  /-- An offset from a range around zero, as `apply_jitter` draws it. -/
  | drawOffset (range : Float)
  /-- A change of counters (`EngineStats`) and metrics. -/
  | note (event : Event)

/-- What a call is answered with. -/
@[reducible] def Call.Answer : Call → Type
  | createMessage _ => Except StoreError Message
  | findMessage _ => Except StoreError Message
  | updateMessageStatus _ _ => Except StoreError Message
  | updateMessage _ => Except StoreError Unit
  | findRetryReady _ _ => Except StoreError (List Message)
  | findPending _ => Except StoreError (List Message)
  | requeueMessage _ _ => Except StoreError Bool
  | recordAttempt _ => Except StoreError Attempt
  | findAttempts _ => Except StoreError (List Attempt)
  | findSigningSecret _ => Except StoreError String
  | push _ => Except PipelineError Unit
  | pop => Except PipelineError (Option String)
  | queueLength => Except PipelineError Nat
  | queueContains _ => Except PipelineError Bool
  | now => Instant
  | sleep _ => Unit
  | send _ _ => Report
  | drawOffset _ => Float
  | note _ => Unit

-- ---------------------------------------------------------------------------
-- The world
-- ---------------------------------------------------------------------------

/-- What the outside supplies, by how much was asked for before. -/
structure Supply where
  /-- Identifiers of new messages (`MessageId::new`). -/
  messageIds : Nat → MessageId
  /-- Identifiers of recorded attempts. -/
  attemptIds : Nat → Uuid
  /-- Readings of the store's own clock, which is not the pipeline's (`Utc::now`). -/
  storeTimes : Nat → Instant
  /-- How long calls to receivers take. -/
  durations : Nat → Duration
  /-- Offsets drawn from a range. -/
  offsets : Nat → Float → Float

/-- How the pops of a worker on trial go: so many fail, then so many entries are handed out, then
the worker is told to stop. -/
structure PopPlan where
  failing : Nat
  handouts : Nat
  deriving DecidableEq, Repr

/-- All that the parts of the pipeline share. -/
structure World where
  store : Store := {}
  queue : Queue := {}
  clock : Clock
  stats : Stats := {}
  metrics : Metrics := {}
  network : Network := .unreachable
  /-- All requests that went out, the latest first. -/
  sent : List WireRequest := []
  supply : Supply
  /-- Messages created so far. -/
  created : Nat := 0
  /-- How often anything else was asked of the outside. -/
  asked : Nat := 0
  /-- Failures that the next calls of an operation meet, in order. -/
  planned : List (StoreOperation × StoreError) := []
  popPlan : Option PopPlan := none
  /-- Whether the parts have been told to stop (`cancellation_token`). -/
  cancelled : Bool := false

namespace World

/-- The first planned failure of an operation, and the others. -/
def takePlanned (op : StoreOperation) :
    List (StoreOperation × StoreError) → Option (StoreError × List (StoreOperation × StoreError))
  | [] => none
  | (o, e) :: rest =>
    if o = op then some (e, rest)
    else (takePlanned op rest).map fun (e', rest') => (e', (o, e) :: rest')

/-- A store operation, unless a failure is planned for it. -/
def storeCall {α : Type} (w : World) (op : StoreOperation)
    (run : Unit → Except StoreError α × World) : Except StoreError α × World :=
  match takePlanned op w.planned with
  | some (e, planned) => (.error e, { w with planned })
  | none => run ()

/-- A write to the store: a failure changes nothing. -/
def write {α : Type} (w : World) :
    Except StoreError (α × Store) → Except StoreError α × World
  | .ok (a, store) => (.ok a, { w with store })
  | .error e => (.error e, w)

/-- The store's own time (`Utc::now`), and the world in which it has been asked for. -/
def storeTime (w : World) : Instant × World :=
  (w.supply.storeTimes w.asked, { w with asked := w.asked + 1 })

/-- A pop as planned for a worker on trial. -/
def plannedPop (w : World) (plan : PopPlan) : Except PipelineError (Option String) × World :=
  match plan.failing, plan.handouts with
  | failing + 1, _ =>
    (.error (.queue "pop failed"), { w with popPlan := some { plan with failing } })
  | 0, 0 => (.ok none, { w with cancelled := true })
  | 0, handouts + 1 =>
    match w.queue.pop with
    | (none, _) => (.ok none, { w with cancelled := true })
    | (some entry, queue) =>
      (.ok (some entry), { w with queue, popPlan := some { plan with handouts } })

/-- Carries out a call. There is no answer if the clock cannot be read or moved as asked; what had
moved by then stays. -/
def perform (w : World) : (c : Call) → Option c.Answer × World
  | .createMessage draft =>
    let (r, w) := w.storeCall .createMessage fun _ =>
      let (now, w) := w.storeTime
      let (m, store) := w.store.create (w.supply.messageIds w.created) draft now
      (.ok m, { w with store, created := w.created + 1 })
    (some r, w)
  | .findMessage id =>
    let (r, w) := w.storeCall .findMessage fun _ => (w.store.find id, w)
    (some r, w)
  | .updateMessageStatus id status =>
    let (r, w) := w.storeCall .updateMessageStatus fun _ =>
      let (now, w) := w.storeTime
      w.write (w.store.setStatus id status now)
    (some r, w)
  | .updateMessage m =>
    let (r, w) := w.storeCall .updateMessage fun _ =>
      w.write ((w.store.update m).map fun store => ((), store))
    (some r, w)
  | .findRetryReady limit now =>
    let (r, w) := w.storeCall .findRetryReady fun _ =>
      let (r, store) := w.store.findDue limit now
      (r, { w with store })
    (some r, w)
  | .findPending limit =>
    let (r, w) := w.storeCall .findPending fun _ => (.ok (w.store.pending limit), w)
    (some r, w)
  | .requeueMessage id due =>
    let (r, w) := w.storeCall .requeueMessage fun _ =>
      let (now, w) := w.storeTime
      w.write (w.store.requeue id due now)
    (some r, w)
  | .recordAttempt a =>
    let (r, w) := w.storeCall .recordAttempt fun _ =>
      { w with asked := w.asked + 1 }.write (w.store.record (w.supply.attemptIds w.asked) a)
    (some r, w)
  | .findAttempts id =>
    let (r, w) := w.storeCall .findAttempts fun _ => (.ok (w.store.attemptsOf id), w)
    (some r, w)
  | .findSigningSecret org =>
    let (r, w) := w.storeCall .findSigningSecret fun _ => (w.store.secretOf org, w)
    (some r, w)
  | .push entry =>
    match w.queue.push entry with
    | .ok queue => (some (.ok ()), { w with queue })
    | .error e => (some (.error e), w)
  | .pop =>
    match w.popPlan with
    | some plan =>
      let (r, w) := w.plannedPop plan
      (some r, w)
    | none =>
      let (entry, queue) := w.queue.pop
      (some (.ok entry), { w with queue })
  | .queueLength => (some (.ok w.queue.entries.length), w)
  | .queueContains entry => (some (.ok (w.queue.contains entry)), w)
  | .now => (w.clock.utc?, w)
  | .sleep d =>
    match w.clock.advance d with
    | .ok clock => (some (), { w with clock })
    | .error clock => (none, { w with clock })
  | .send client request =>
    let (outcome, sent) := client.deliver w.network w.sent request
    (some ⟨outcome, w.supply.durations w.asked⟩, { w with sent, asked := w.asked + 1 })
  | .drawOffset range => (some (w.supply.offsets w.asked range), { w with asked := w.asked + 1 })
  | .note event =>
    (some (), { w with stats := w.stats.count event, metrics := w.metrics.count event })

end World

end WebhookDelivery
