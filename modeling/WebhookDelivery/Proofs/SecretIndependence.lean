import WebhookDelivery.Proofs.Lifecycle
import WebhookDelivery.Proofs.Unsealed

/-!
# Signing changes nothing but the signature

Two worlds that differ only in their secrets go through the same actions with the same results, as
long as the headers of a signature make no difference to the receivers.

There is one thing that signing does besides: it reads the clock (`signature_for`). A clock that
shows no instant breaks an attempt down in any case, but the signed one before its request and the
unsigned one after it. The messages do not show it: neither attempt is recorded. A receiver does
show it, if it answers by what it was sent before, in what becomes of later attempts. So two runs go
the same way up to the first attempt that the clock breaks down, and that one included.

An action that breaks down for any other reason does so alike in both runs, and they go on.

* `Worker.mirrors_attempt` — an attempt with a secret and one without.
* `Action.mirrors_run` — what holds of one action.
* `Action.secrets_unseen` — runs from two worlds that differ in their secrets.
* `Action.secrets_seen_after_stall` — why no further than that.
-/

namespace WebhookDelivery

-- ---------------------------------------------------------------------------
-- An attempt
-- ---------------------------------------------------------------------------

/-- Without secrets no secret is found. Either way a lookup changes nothing but the failures that
are planned for it. -/
theorem World.perform_findSigningSecret_unsealed (w : World) (org : OrgId) :
    ∃ answer e w', w.perform (.findSigningSecret org) = (some answer, w')
      ∧ w.unsealed.perform (.findSigningSecret org) = (some (.error e), w'.unsealed)
      ∧ w'.standing = w.standing ∧ w'.clock = w.clock := by
  simp only [perform, storeCall, show w.unsealed.planned = w.planned from rfl]
  cases takePlanned .findSigningSecret w.planned with
  | none => exact ⟨_, _, w, rfl, rfl, rfl, rfl⟩
  | some taken => exact ⟨_, _, { w with planned := taken.2 }, rfl, rfl, rfl, rfl⟩

/-- An attempt is recorded alike whatever time it took. -/
theorem World.perform_recordAttempt_unsealed (w : World) (a : NewAttempt) :
    w.unsealed.perform (.recordAttempt a.untimed)
      = ((w.perform (.recordAttempt a)).1.map (·.map (·.untimed)),
          (w.perform (.recordAttempt a)).2.unsealed) := by
  have hrecord := w.store.record_unsealed (w.supply.attemptIds w.asked) a
  simp only [perform, storeCall, show w.unsealed.planned = w.planned from rfl,
    show w.unsealed.store = w.store.unsealed from rfl,
    show w.unsealed.supply.attemptIds w.unsealed.asked = w.supply.attemptIds w.asked from rfl,
    hrecord]
  cases takePlanned .recordAttempt w.planned with
  | some taken => rfl
  | none => cases w.store.record (w.supply.attemptIds w.asked) a <;> rfl

/-- The measured time is all that an untimed attempt is without. -/
theorem Message.attempt_untimed (m : Message) (report : Report) (now : Instant) :
    (m.attempt report now).untimed = m.attempt ⟨report.outcome, .zero⟩ now := by
  have hzero : (⟨report.outcome, .zero⟩ : Report).durationMs = 0 := by
    simp [Report.durationMs, Duration.zero, Duration.millis]
  rw [attempt, attempt, hzero]
  rfl

theorem World.perform_now (w : World) : w.perform .now = (w.clock.utc?, w) :=
  rfl

namespace Worker

variable (worker : Worker) (m : Message) (r : DeliveryRequest) (w : World)

/-- Without secrets there is no signature. With one, the clock must show an instant. -/
theorem signatureFor_unsealed :
    ∃ signature? w', (signatureFor m).run w = (signature?, w')
      ∧ (signatureFor m).run w.unsealed = (some none, w'.unsealed)
      ∧ w'.standing = w.standing ∧ w'.clock = w.clock
      ∧ (w.clock.utc?.isSome = true → signature?.isSome = true) := by
  obtain ⟨answer, e, w', hlookup, hlookup', hstanding, hclock⟩ :=
    w.perform_findSigningSecret_unsealed m.org
  have hunsigned : (signatureFor m).run w.unsealed = (some none, w'.unsealed) :=
    Task.run_call hlookup'
  have hrun : (signatureFor m).run w = _ := Task.run_call hlookup
  rw [hunsigned, hrun]
  -- no secret, no signature; with one the clock is read for the time of signing
  cases answer with
  | error e => exact ⟨some none, w', rfl, rfl, hstanding, hclock, fun _ => rfl⟩
  | ok secret =>
    rw [← hclock]
    cases hnow : w'.clock.utc? with
    | none =>
      have hbreaks : w'.perform .now = (none, w') := by rw [World.perform_now, hnow]
      exact ⟨none, w', Task.run_call_none hbreaks, rfl, hstanding, rfl, by simp⟩
    | some now =>
      have hreads : w'.perform .now = (some now, w') := by rw [World.perform_now, hnow]
      exact ⟨_, w', Task.run_call hreads, rfl, hstanding, rfl, fun _ => rfl⟩

/-- An exchange is a call to a receiver: what is counted for it is counted off again. -/
theorem exchange_run :
    (worker.exchange r).run w
      = (some ⟨(worker.client.deliver w.network w.sent r).1, w.supply.durations w.asked⟩,
          { w with
            sent := (worker.client.deliver w.network w.sent r).2, asked := w.asked + 1 }) := by
  rfl

/-- A request goes the same way without secrets. -/
theorem exchange_unsealed (hblind : w.network.Blind) (signature : Option Signature) :
    ∃ report w', (worker.exchange (r.sign signature)).run w = (some report, w')
      ∧ (worker.exchange (r.sign none)).run w.unsealed
        = (some ⟨report.outcome, .zero⟩, w'.unsealed)
      ∧ w'.clock = w.clock := by
  refine ⟨_, _, exchange_run .., ?_, rfl⟩
  have hdeliver : worker.client.deliver w.unsealed.network w.unsealed.sent (r.sign none) = _ :=
    worker.client.deliver_stripped hblind w.sent r signature
  rw [exchange_run, hdeliver]
  rfl

/-- An attempt without the signing. -/
def attemptSigned (worker : Worker) (m : Message) (r : DeliveryRequest)
    (signature : Option Signature) : Task (Except PipelineError Transition) := do
  let report ← worker.exchange (r.sign signature)
  let now ← Task.perform .now
  let _ ← Task.perform (.recordAttempt (m.attempt report now))
  let (m, t) ← worker.settle m report.outcome now
  conclude m t

theorem attempt_eq :
    worker.attempt m r = signatureFor m >>= worker.attemptSigned m r :=
  rfl

theorem indifferent_settle (outcome : Outcome) (now : Instant) :
    (worker.settle m outcome now).Indifferent :=
  (makes_settle (P := Call.Indifferent) (fun _ => trivial) worker m outcome now).indifferent

theorem indifferent_conclude (t : Transition) : (conclude m t).Indifferent :=
  (makes_conclude (P := Call.Indifferent) trivial trivial).indifferent

theorem indifferent_reject (reason : Unsendable) : (reject m reason).Indifferent :=
  (makes_reject (P := Call.Indifferent) trivial trivial reason).indifferent

/-- With a clock that shows an instant an attempt goes the same way without a signature. -/
theorem mirrors_attemptSigned (hblind : w.network.Blind) {now : Instant}
    (hclock : w.clock.utc? = some now) (signature : Option Signature) :
    Mirrors (w.clock.utc?.isSome = true) ((worker.attemptSigned m r signature).run w)
      ((worker.attemptSigned m r none).run w.unsealed) := by
  obtain ⟨report, w₁, hexchange, hexchange', hclock₁⟩ :=
    worker.exchange_unsealed r w hblind signature
  have hnow : w₁.perform .now = (some now, w₁) := by rw [World.perform_now, hclock₁, hclock]
  have hnow' : w₁.unsealed.perform .now = (some now, w₁.unsealed) := by
    rw [World.perform_now, show w₁.unsealed.clock = w₁.clock from rfl, hclock₁, hclock]
  have hrecord' := w₁.perform_recordAttempt_unsealed (m.attempt report now)
  obtain ⟨answer, w₂, hrecord⟩ : ∃ answer w₂,
      w₁.perform (.recordAttempt (m.attempt report now)) = (some answer, w₂) := ⟨_, _, rfl⟩
  rw [Message.attempt_untimed, hrecord] at hrecord'
  -- both runs come to the same rest, which has nothing to do with secrets
  have hrest : (worker.attemptSigned m r signature).run w
      = (worker.settle m report.outcome now >>= fun (m, t) => conclude m t).run w₂ :=
    (Task.run_bind_some hexchange).trans ((Task.run_call hnow).trans (Task.run_call hrecord))
  have hrest' : (worker.attemptSigned m r none).run w.unsealed
      = (worker.settle m report.outcome now >>= fun (m, t) => conclude m t).run w₂.unsealed :=
    (Task.run_bind_some hexchange').trans ((Task.run_call hnow').trans (Task.run_call hrecord'))
  rw [hrest, hrest']
  exact .of_indifferent
    ((worker.indifferent_settle m _ _).bind fun (m, t) => indifferent_conclude m t) w₂

/-- With a clock that shows no instant an attempt breaks down, and nothing has come of it. -/
theorem attempt_breaks (hclock : w.clock.utc? = none) :
    ∃ w', (worker.attempt m r).run w = (none, w') ∧ w'.standing = w.standing := by
  obtain ⟨signature?, w₁, hsigning, -, hstanding, hclock₁, -⟩ := signatureFor_unsealed m w
  rw [attempt_eq]
  -- it breaks down at the signing, or at the time of the attempt
  cases signature? with
  | none => exact ⟨w₁, Task.run_bind_none hsigning, hstanding⟩
  | some signature =>
    obtain ⟨report, w₂, hexchange, hstanding₂, hclock₂⟩ : ∃ report w₂,
        (worker.exchange (r.sign signature)).run w₁ = (some report, w₂)
          ∧ w₂.standing = w₁.standing ∧ w₂.clock = w₁.clock :=
      ⟨_, _, exchange_run .., rfl, rfl⟩
    have hnow : w₂.perform .now = (none, w₂) := by
      rw [World.perform_now, hclock₂, hclock₁, hclock]
    have hbreaks : (worker.attemptSigned m r signature).run w₁ = (none, w₂) :=
      (Task.run_bind_some hexchange).trans (Task.run_call_none hnow)
    exact ⟨w₂, (Task.run_bind_some hsigning).trans hbreaks, hstanding₂.trans hstanding⟩

/-- An attempt goes the same way without secrets, and what it leaves is the same too if the clock
shows an instant. -/
theorem mirrors_attempt (hblind : w.network.Blind) :
    Mirrors (w.clock.utc?.isSome = true) ((worker.attempt m r).run w)
      ((worker.attempt m r).run w.unsealed) := by
  cases hclock : w.clock.utc? with
  | none =>
    obtain ⟨w₁, hrun, hstanding⟩ := worker.attempt_breaks m r w hclock
    obtain ⟨w₂, hrun', hstanding'⟩ := worker.attempt_breaks m r w.unsealed hclock
    rw [hrun, hrun']
    refine ⟨rfl, ?_, by simp⟩
    rw [hstanding', World.standing_unsealed, hstanding]
  | some now =>
    obtain ⟨signature?, w₁, hsigning, hsigning', -, hclock₁, hsome⟩ := signatureFor_unsealed m w
    obtain ⟨signature, rfl⟩ := Option.isSome_iff_exists.mp (hsome (by rw [hclock]; rfl))
    rw [attempt_eq, Task.run_bind_some hsigning, Task.run_bind_some hsigning', ← hclock,
      ← hclock₁]
    exact worker.mirrors_attemptSigned m r w₁ (hblind.of_run hsigning) (hclock₁ ▸ hclock) signature

-- ---------------------------------------------------------------------------
-- A worker
-- ---------------------------------------------------------------------------

/-- A delivery goes alike with and without secrets, if the clock can be read. -/
theorem mirrors_deliver (hblind : w.network.Blind) :
    Mirrors (w.clock.utc?.isSome = true) ((worker.deliver m).run w)
      ((worker.deliver m).run w.unsealed) := by
  rw [deliver]
  cases DeliveryRequest.ofMessage m with
  | ok r => exact worker.mirrors_attempt m r w hblind
  | error reason => exact .of_indifferent (indifferent_reject m reason) w

/-- Processing a message goes alike with and without secrets. -/
theorem mirrors_processMessage (hblind : w.network.Blind) :
    Mirrors (w.clock.utc?.isSome = true) ((worker.processMessage m).run w)
      ((worker.processMessage m).run w.unsealed) := by
  rw [processMessage]
  split
  · exact .done _ w
  · refine (worker.mirrors_deliver m w hblind).bind fun result w₁ _ => ?_
    cases result with
    | error e => exact .done _ w₁
    | ok t => exact .call (c := .note .processed) trivial fun _ w₂ _ => .done _ w₂

/-- Processing an entry goes alike with and without secrets. -/
theorem mirrors_process (entry : String) (hblind : w.network.Blind) :
    Mirrors (w.clock.utc?.isSome = true) ((worker.process entry).run w)
      ((worker.process entry).run w.unsealed) := by
  rw [process]
  cases MessageId.ofText? entry with
  | none => exact .done _ w
  | some id =>
    refine Mirrors.call (c := .findMessage id) trivial fun found w₁ hfind => ?_
    rw [← w.clock_of_perform hfind fun _ => by simp]
    cases found with
    | ok m => exact worker.mirrors_processMessage m w₁ (hblind.of_perform hfind)
    | error e =>
      have hended : (if e.isNotFound then pure (.ok none) else pure (.error e.toPipeline) :
          Task (Except PipelineError (Option Transition))).Indifferent := by
        split <;> trivial
      exact .of_indifferent hended w₁

/-- What a worker does after a failure has nothing to do with secrets. -/
theorem indifferent_afterFailure (entry : String) (e : PipelineError) :
    (worker.afterFailure entry e).Indifferent := by
  refine ⟨trivial, fun _ => ?_⟩
  show (if e.isRetryable then _ else _ : Task _).Indifferent
  split
  · exact ⟨trivial, fun _ => ⟨trivial, fun _ => trivial⟩⟩
  · trivial

/-- Takes an entry off the queue, if there is one, and deals with it. -/
def serve (worker : Worker) : Task (Except PipelineError (Option Transition)) := do
  match ← Task.perform .pop with
  | .error e => return .error e
  | .ok none => return .ok none
  | .ok (some entry) => worker.process entry

/-- Serving an entry goes alike with and without secrets. -/
theorem mirrors_serve (hblind : w.network.Blind) :
    Mirrors (w.clock.utc?.isSome = true) (worker.serve.run w) (worker.serve.run w.unsealed) := by
  refine Mirrors.call (c := .pop) trivial fun popped w₁ hpop => ?_
  rw [← w.clock_of_perform hpop fun _ => by simp]
  match popped with
  | .error e => exact .done _ w₁
  | .ok none => exact .done _ w₁
  | .ok (some entry) => exact worker.mirrors_process w₁ entry (hblind.of_perform hpop)

/-- What follows after the entry has been dealt with is mirrored in any case, so it is the dealing
with the entry that has to be steady. -/
theorem mirrors_round (hblind : w.network.Blind) :
    Mirrors (w.clock.utc?.isSome = true ∨ (worker.serve.run w).1.isSome = true)
      (worker.round.run w) (worker.round.run w.unsealed) := by
  refine Mirrors.call (c := .pop) trivial fun popped w₁ hpop => ?_
  -- without an entry no secret is looked up
  match popped with
  | .error e => exact .call (c := .sleep worker.errorBackoff) trivial fun _ w₂ _ => .done _ w₂
  | .ok none => exact .done _ w₁
  | .ok (some entry) =>
    have hserve : worker.serve.run w = (worker.process entry).run w₁ := Task.run_call hpop
    have hprocess := worker.mirrors_process w₁ entry (hblind.of_perform hpop)
    rw [← w.clock_of_perform hpop fun _ => by simp, hserve]
    refine (hprocess.of_imp fun hnone => ?_).bind fun result w₂ _ => ?_
    · rintro (hclock | hends)
      · exact hclock
      · rw [hnone] at hends
        cases hends
    · cases result with
      | ok _ => exact .done _ w₂
      | error e => exact .of_indifferent (worker.indifferent_afterFailure entry e) w₂

end Worker

-- ---------------------------------------------------------------------------
-- Submissions, sweeps and recoveries
-- ---------------------------------------------------------------------------

/-- A submission has nothing to do with secrets. -/
theorem indifferent_submit (d : Draft) : (submit d).Indifferent := by
  rw [submit]
  cases d.normalize with
  | error u => trivial
  | ok draft =>
    refine ⟨trivial, fun created => ?_⟩
    cases created with
    | error e => trivial
    | ok m =>
      refine ⟨trivial, fun pushed => ?_⟩
      cases pushed with
      | ok _ => trivial
      | error e =>
        refine ⟨trivial, fun now => ⟨trivial, fun updated => ?_⟩⟩
        cases updated <;> trivial

/-- Requeuing a message has nothing to do with secrets. -/
theorem Sweep.indifferent_requeueOne (m : Message) : (requeueOne m).Indifferent := by
  rw [requeueOne]
  cases m.nextRetryAt with
  | none => trivial
  | some due =>
    refine ⟨trivial, fun pushed => ?_⟩
    cases pushed with
    | error e => trivial
    | ok _ =>
      refine ⟨trivial, fun requeued => ?_⟩
      cases requeued <;> trivial

/-- Requeuing messages has nothing to do with secrets. -/
theorem Sweep.indifferent_requeueAll (ms : List Message) : (requeueAll ms).Indifferent := by
  induction ms with
  | nil => trivial
  | cons m rest ih =>
    exact (indifferent_requeueOne m).bind fun requeued => ih.bind fun others => trivial

/-- A sweep has nothing to do with secrets. -/
theorem SweepSettings.indifferent_sweep (s : SweepSettings) : s.sweep.Indifferent := by
  refine ⟨trivial, fun now => ⟨trivial, fun found => ?_⟩⟩
  cases found with
  | error e => trivial
  | ok due =>
    refine (Sweep.indifferent_requeueAll due).bind fun requeued => Task.Indifferent.bind ?_ fun _ =>
      trivial
    rw [Sweep.report]
    split
    · trivial
    · exact ⟨trivial, fun _ => trivial⟩

/-- Recovering messages has nothing to do with secrets. -/
theorem Recovery.indifferent_enqueueAll (ms : List Message) : (enqueueAll ms).Indifferent := by
  induction ms with
  | nil => trivial
  | cons m rest ih =>
    have hone : (enqueueOne m).Indifferent := by
      refine ⟨trivial, fun contained => ?_⟩
      match contained with
      | .error e => trivial
      | .ok true => trivial
      | .ok false =>
        refine ⟨trivial, fun pushed => ?_⟩
        cases pushed <;> trivial
    refine hone.bind fun enqueued => ?_
    cases enqueued with
    | error e => trivial
    | ok _ =>
      refine ih.bind fun others => ?_
      cases others <;> trivial

/-- A recovery has nothing to do with secrets. -/
theorem SweepSettings.indifferent_recover (s : SweepSettings) : s.recover.Indifferent := by
  refine ⟨trivial, fun found => ?_⟩
  cases found with
  | error e => trivial
  | ok pending =>
    refine (Recovery.indifferent_enqueueAll pending).bind fun recovered => ?_
    cases recovered with
    | error e => trivial
    | ok n =>
      show (Recovery.report n).Indifferent
      rw [Recovery.report]
      split
      · trivial
      · exact ⟨trivial, fun _ => trivial⟩

-- ---------------------------------------------------------------------------
-- Actions
-- ---------------------------------------------------------------------------

/-- What is asked to fail. -/
structure Failures where
  planned : List (StoreOperation × StoreError)
  dueQuery : Option String
  attemptWrites : Bool
  messageUpdates : Bool
  pushes : Bool
  pops : Option PopPlan

/-- The world in which these failures, and no others, are asked for. -/
def World.failingAs (w : World) (f : Failures) : World :=
  { w with
    store := { w.store with
      dueQueryFailure := f.dueQuery, failAttemptWrites := f.attemptWrites
      failMessageUpdates := f.messageUpdates }
    queue := { w.queue with rejecting := f.pushes }
    planned := f.planned, popPlan := f.pops }

/-- The world with its messages found in the order of some rank. -/
def World.ranked (w : World) (rank : MessageId → Nat) : World :=
  { w with store := { w.store with
      messages := w.store.messages.mergeSort fun a b => rank a.id ≤ rank b.id } }

/-- What can be done with a world, one after another. -/
inductive Action where
  | submit (d : Draft)
  /-- An entry is taken off the queue and dealt with. -/
  | serve (worker : Worker)
  /-- The same, as a worker does it in its loop. -/
  | round (worker : Worker)
  | sweep (s : SweepSettings)
  | recover (s : SweepSettings)
  /-- Time passes. -/
  | wait (d : Duration)
  /-- The clock is set. -/
  | set (wall : WallTime)
  /-- From now on these failures are asked for. -/
  | fail (f : Failures)
  /-- The store comes to find its messages in another order, as its map may at any time. -/
  | rank (rank : MessageId → Nat)

/-- What an action is answered with. -/
inductive Action.Answer where
  | submitted (r : Except PipelineError Message)
  | served (r : Except PipelineError (Option Transition))
  | swept (r : Except PipelineError Nat)
  | recovered (r : Except PipelineError Nat)
  | done

namespace Action

/-- Runs a task whose result is an answer of this kind. -/
def answering {α : Type} (kind : α → Answer) (t : Task α) (w : World) : Option Answer × World :=
  ((t.run w).1.map kind, (t.run w).2)

/-- Carries out an action; there is no answer if it breaks down. -/
def run : Action → World → Option Answer × World
  | submit d, w => answering .submitted (WebhookDelivery.submit d) w
  | serve worker, w => answering .served worker.serve w
  | round worker, w => answering (fun _ => .done) worker.round w
  | sweep s, w => answering .swept s.sweep w
  | recover s, w => answering .recovered s.recover w
  | wait d, w => answering (fun _ => .done) (Task.perform (.sleep d)) w
  | set wall, w =>
    match w.clock.jumpTo wall with
    | .ok clock => (some .done, { w with clock })
    | .error clock => (none, { w with clock })
  | fail f, w => (some .done, w.failingAs f)
  | rank r, w => (some .done, w.ranked r)

/-- Carries out actions, one after another, be it that some of them break down: the answers, and the
world at the end. -/
def runAll : List Action → World → List (Option Answer) × World
  | [], w => ([], w)
  | action :: rest, w =>
    let (answer?, w) := action.run w
    (answer? :: (runAll rest w).1, (runAll rest w).2)

/-- Whether dealing with an entry breaks down at a clock that shows no instant. -/
def Stalls : Action → World → Prop
  | serve worker, w | round worker, w => w.clock.utc? = none ∧ (worker.serve.run w).1 = none
  | submit _, _ | sweep _, _ | recover _, _ | wait _, _ | set _, _ | fail _, _ | rank _, _ => False

/-- Whether no action but the last one stalls. -/
def Steady : List Action → World → Prop
  | [], _ => True
  | action :: rest, w => (rest ≠ [] → ¬ action.Stalls w) ∧ Steady rest (action.run w).2

/-- An action goes the same way without secrets, and unless it stalls all that it leaves is the same
too. -/
theorem mirrors_run (action : Action) (w : World) (hblind : w.network.Blind) :
    Mirrors (¬ action.Stalls w) (action.run w) (action.run w.unsealed) := by
  cases action with
  | submit d => exact (Mirrors.of_indifferent (indifferent_submit d) w).map _
  | sweep s => exact (Mirrors.of_indifferent s.indifferent_sweep w).map _
  | recover s => exact (Mirrors.of_indifferent s.indifferent_recover w).map _
  | wait d =>
    have hsleep : (Task.perform (.sleep d)).Indifferent := Task.indifferent_perform trivial
    exact (Mirrors.of_indifferent hsleep w).map _
  | set wall =>
    simp only [run, show w.unsealed.clock = w.clock from rfl]
    cases w.clock.jumpTo wall <;> exact .of_eq rfl
  | fail f => exact .of_eq rfl
  | rank r => exact .of_eq rfl
  | serve worker =>
    -- a stall is a reading that fails where there is no answer
    refine ((worker.mirrors_serve w hblind).of_imp fun hnone hsteady => ?_).map _
    rw [← Option.ne_none_iff_isSome]
    exact fun hclock => hsteady ⟨hclock, hnone⟩
  | round worker =>
    refine ((worker.mirrors_round w hblind).of_imp fun _ hsteady => ?_).map _
    rw [← Option.ne_none_iff_isSome, ← Option.ne_none_iff_isSome]
    exact Classical.not_and_iff_not_or_not.mp hsteady

/-- No action changes the network. -/
theorem network_run (action : Action) (w : World) : (action.run w).2.network = w.network := by
  cases action with
  | submit | serve | round | sweep | recover | wait => exact Task.network_run _ w
  | set wall =>
    simp only [run]
    cases w.clock.jumpTo wall <;> rfl
  | fail | rank => rfl

/-- An action stalls with secrets if, and only if, it does without. -/
theorem stalls_unsealed (action : Action) (w : World) (hblind : w.network.Blind) :
    action.Stalls w.unsealed ↔ action.Stalls w := by
  cases action with
  | serve worker | round worker =>
    simp only [Stalls, (worker.mirrors_serve w hblind).result]
    rfl
  | submit | sweep | recover | wait | set | fail | rank => rfl

/-- After an action that does not stall nothing but the secrets sets the two worlds apart. -/
theorem run_unsealed {action : Action} {w : World} (hblind : w.network.Blind)
    (hsteady : ¬ action.Stalls w) :
    (action.run w.unsealed).2 = (action.run w).2.unsealed :=
  (action.mirrors_run w hblind).world (.inr hsteady)

/-- Whether actions stall does not depend on the secrets. -/
theorem steady_unsealed (actions : List Action) (w : World) (hblind : w.network.Blind) :
    Steady actions w.unsealed ↔ Steady actions w := by
  induction actions generalizing w with
  | nil => rfl
  | cons action rest ih =>
    simp only [Steady, action.stalls_unsealed w hblind]
    by_cases hrest : rest = []
    · simp [hrest, Steady]
    · refine and_congr_right fun hsteady => ?_
      rw [run_unsealed hblind (hsteady hrest)]
      exact ih _ ((action.network_run w).symm ▸ hblind)

/-- A run in which no action but the last one stalls goes the same way without secrets. -/
theorem runAll_unsealed (actions : List Action) (w : World) (hblind : w.network.Blind)
    (hsteady : Steady actions w) :
    (runAll actions w.unsealed).1 = (runAll actions w).1
      ∧ (runAll actions w.unsealed).2.standing = (runAll actions w).2.standing := by
  induction actions generalizing w with
  | nil => exact ⟨rfl, w.standing_unsealed⟩
  | cons action rest ih =>
    obtain ⟨hfirst, hlater⟩ := hsteady
    have hrun := action.mirrors_run w hblind
    by_cases hrest : rest = []
    -- After the last action only what it leaves of the messages has to be the same.
    · subst hrest
      exact ⟨congrArg (· :: []) hrun.result, hrun.standing⟩
    · obtain ⟨hanswers, hstanding⟩ :=
        ih (action.run w).2 ((action.network_run w).symm ▸ hblind) hlater
      simp only [runAll, run_unsealed hblind (hfirst hrest), hrun.result]
      exact ⟨congrArg ((action.run w).1 :: ·) hanswers, hstanding⟩

/-- Two worlds that differ only in their secrets, and in how long calls to receivers will take, go
through the same actions with the same answers, and to the same end, as long as receivers are blind
to the headers of signatures and no action but the last one stalls. -/
theorem secrets_unseen (actions : List Action) (w : World) (hblind : w.network.Blind)
    (hsteady : Steady actions w) (secrets : List (OrgId × String)) (durations : Nat → Duration) :
    let w' : World :=
      { w with store := { w.store with secrets }, supply := { w.supply with durations } }
    (runAll actions w').1 = (runAll actions w).1
      ∧ (runAll actions w').2.standing = (runAll actions w).2.standing := by
  intro w'
  have hunsealed : w'.unsealed = w.unsealed := rfl
  have hsteady' : Steady actions w' :=
    (steady_unsealed actions w' hblind).mp ((steady_unsealed actions w hblind).mpr hsteady)
  obtain ⟨hanswers, hstanding⟩ := runAll_unsealed actions w hblind hsteady
  obtain ⟨hanswers', hstanding'⟩ := runAll_unsealed actions w' hblind hsteady'
  rw [hunsealed] at hanswers' hstanding'
  exact ⟨hanswers'.symm.trans hanswers, hstanding'.symm.trans hstanding⟩

-- A receiver accepts one webhook, and the organisation may have a secret or not.

/-- Whether there were requests does not depend on the headers of signatures. -/
theorem isEmpty_of_stripped {sent sent' : List WireRequest}
    (h : sent.map (·.stripped) = sent'.map (·.stripped)) : sent.isEmpty = sent'.isEmpty := by
  simpa using congrArg List.isEmpty h

/-- A receiver that only tells the first request from the others is blind to signatures. -/
theorem blind_acceptingOnce : Network.acceptingOnce.Blind := by
  intro sent sent' r r' hsent _
  rw [Network.acceptingOnce, Network.acceptingOnce, isEmpty_of_stripped hsent]

/-- A webhook is submitted and delivered, and then nothing is left to do. -/
def delivery : List Action :=
  [.submit .toLoopback, .serve .plain, .sweep {}, .recover {}, .serve .plain]

/-- No action stalls at a clock that shows an instant. -/
theorem not_stalls_of_clock {action : Action} {w : World} (h : w.clock.utc?.isSome = true) :
    ¬ action.Stalls w := by
  have hclock : w.clock.utc? ≠ none := Option.ne_none_iff_isSome.mpr h
  cases action with
  | serve | round => exact fun hstalls => hclock hstalls.1
  | submit | sweep | recover | wait | set | fail | rank => exact id

theorem steady_delivery : Steady delivery .accepting :=
  ⟨fun _ => not_stalls_of_clock (by decide), fun _ => not_stalls_of_clock (by decide +kernel),
    fun _ => not_stalls_of_clock (by decide +kernel),
    fun _ => not_stalls_of_clock (by decide +kernel), fun h => absurd rfl h, trivial⟩

/-- With a secret the same comes of them as without, though the request has three headers more: the
message is delivered. -/
theorem secrets_unseen_delivered :
    Network.acceptingOnce.Blind ∧ Steady delivery .accepting
    ∧ let w : World := { World.accepting with store := { secrets := [(default, "s3cret")] } }
      (runAll delivery w).1 = (runAll delivery World.accepting).1
        ∧ (runAll delivery World.accepting).2.sent.map (·.headers.length) = [2]
        ∧ (runAll delivery w).2.sent.map (·.headers.length) = [5]
        ∧ (runAll delivery w).2.standing.messages.map (·.status) = [.success] := by
  refine ⟨blind_acceptingOnce, steady_delivery, ?_⟩
  intro w
  obtain ⟨hanswers, hstanding⟩ := secrets_unseen delivery .accepting blind_acceptingOnce
    steady_delivery [(default, "s3cret")] World.accepting.supply.durations
  have hend : (runAll delivery w).2.standing = (runAll delivery World.accepting).2.standing :=
    hstanding
  refine ⟨hanswers, by decide +kernel, by decide +kernel, ?_⟩
  rw [hend]
  decide +kernel

-- A receiver is busy at first. While the clock is set beyond the calendar, an attempt breaks down,
-- and only without a secret has the receiver been asked by then.

/-- A receiver that turns the first request away for a while, and accepts all others. -/
def busyOnce : Network := fun sent _ =>
  .response { status := if sent.isEmpty then 503 else 200, headers := [], chunks := []
              ending := .complete }

theorem blind_busyOnce : busyOnce.Blind := by
  intro sent sent' r r' hsent _
  rw [busyOnce, busyOnce, isEmpty_of_stripped hsent]

/-- A wall time far beyond the years that an instant can have. -/
def farFuture : WallTime :=
  ⟨9000000000000000000000, by decide, by decide⟩

/-- A webhook is submitted and served at such a time. With the clock back where it was, it is
recovered and served once more. -/
def stalledDelivery : List Action :=
  [.submit .toLoopback, .set farFuture, .serve .plain, .set (.ofInstant .epoch), .recover {},
    .serve .plain]

/-- Without a secret that delivers the message, as the receiver is asked for the second time. With a
secret it is asked for the first time, and the message has to wait. -/
theorem secrets_seen_after_stall :
    let w : World := { World.fresh with network := busyOnce }
    let w' : World := { w with store := { w.store with secrets := [(default, "s3cret")] } }
    w.network.Blind
      ∧ (runAll stalledDelivery w).2.standing.messages.map (·.status) = [.success]
      ∧ (runAll stalledDelivery w').2.standing.messages.map (·.status) = [.retry] :=
  ⟨blind_busyOnce, by decide +kernel, by decide +kernel⟩

end Action

end WebhookDelivery
