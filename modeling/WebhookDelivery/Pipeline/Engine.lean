import WebhookDelivery.Pipeline.Submission
import WebhookDelivery.Pipeline.Sweep
import WebhookDelivery.Pipeline.Worker

/-!
# The engine

Workers and a sweep over one world, from start to shutdown. Here they take turns: first the workers
deal with the entries that wait, then there is a sweep. A task that breaks down is not started
again, and the shutdown tells of it.
-/

namespace WebhookDelivery

/-- An engine and its tasks (`DeliveryEngine` with its `WorkerPool`). -/
structure Engine where
  settings : DeliverySettings
  client : Client
  started : Bool := false
  /-- Numbers of the workers that are at work. -/
  workers : List Nat := []
  /-- Whether the sweep is at work. -/
  sweeping : Bool := false
  /-- Numbers of the workers that broke down. -/
  brokenWorkers : List Nat := []

namespace Engine

/-- An engine that has not been started (`with_clock`). -/
def build (s : DeliverySettings) : Except PipelineError Engine :=
  if s.sweep.interval = .zero then .error (.configuration "scheduler interval must be non-zero")
  else
    match Client.build s.client with
    | .ok client => .ok { settings := s, client }
    | .error e => .error e

/-- What each worker works with. -/
def worker (e : Engine) : Worker :=
  { client := e.client, policy := e.settings.retry, errorBackoff := e.settings.queueErrorBackoff }

/-- Whether a task is at work (`is_running`). -/
def isRunning (e : Engine) : Bool :=
  !e.workers.isEmpty || e.sweeping

/-- Starts an engine: a recovery, whose failure changes nothing, then all tasks (`start`). -/
def start (e : Engine) (w : World) : Except PipelineError Engine × World :=
  if e.started then (.error (.configuration "delivery engine already started"), w)
  else
    let count := e.settings.workerCount.toNat
    let (_, w) := e.settings.sweep.recover.run w
    let (_, w) := (Task.perform (.note (.workers count))).run w
    (.ok { e with started := true, workers := List.range count, sweeping := true }, w)

/-- So many rounds of the workers, as long as entries wait. -/
def work : Nat → Engine → World → Engine × World
  | 0, e, w => (e, w)
  | rounds + 1, e, w =>
    match e.workers with
    | [] => (e, w)
    | number :: others =>
      if w.queue.entries.isEmpty then (e, w)
      else
        match e.worker.round.run w with
        | (some (), w) => work rounds e w
        | (none, w) =>
          work rounds
            { e with workers := others, brokenWorkers := e.brokenWorkers ++ [number] } w

/-- One sweep, if the sweep is at work. -/
def sweep (e : Engine) (w : World) : Engine × World :=
  if e.sweeping then
    match e.settings.sweep.sweep.run w with
    | (some _, w) => (e, w)
    | (none, w) => ({ e with sweeping := false }, w)
  else (e, w)

/-- One turn: every waiting entry once, then a sweep. -/
def turn (e : Engine) (w : World) : Engine × World :=
  let (e, w) := work w.queue.entries.length e w
  e.sweep w

/-- Whether nothing is left to do at the present time. -/
def isQuiet (w : World) : Bool :=
  w.queue.entries.isEmpty && w.store.messages.all fun m =>
    m.status ≠ .pending && !w.clock.utc?.any (m.isRetryDue ·)

/-- Turns until nothing is left to do, at most so many. After each the clock moves on by `pace`,
which is nothing for a clock that is moved by hand. -/
def settle (pace : Duration) : Nat → Engine → World → Engine × World
  | 0, e, w => (e, w)
  | turns + 1, e, w =>
    if isQuiet w then (e, w)
    else
      let (e, w) := e.turn w
      let (_, w) := (Task.perform (.sleep pace)).run w
      settle pace turns e w

/-- Names of the tasks that broke down, workers first. -/
def brokenTasks (e : Engine) : List String :=
  (e.brokenWorkers.map fun number => "worker-" ++ toString number)
    ++ if e.started && !e.sweeping then ["scheduler"] else []

/-- The end of an engine (`shutdown`): it waits for its tasks, each of which ends with the pop that
it has begun. -/
def shutdown (e : Engine) (popTimeout : Duration) : Except PipelineError Unit :=
  if !e.workers.isEmpty && !(popTimeout ≤ e.settings.shutdownTimeout) then
    .error (.shutdownTimeout e.settings.shutdownTimeout)
  else
    match e.brokenTasks with
    | [] => .ok ()
    | task :: _ => .error (.taskPanicked task "unforeseen end")

end Engine

end WebhookDelivery
