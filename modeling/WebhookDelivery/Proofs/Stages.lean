import WebhookDelivery.Pipeline.Sequence
import WebhookDelivery.Proofs.Calls
import WebhookDelivery.Proofs.Ledger

/-!
# Stages

A task is a tree of calls, and what matters of its place in the tree is little: which message it has
in hand, and how far it has come with it. This is its stage. `Stage.Next` says from which stage
which call is made, and to which stage which answer leads; `Role.follows_round` says that every
round keeps to it, whatever it is answered.

From then on nothing looks into a task again. What holds of a pipeline is shown for one move at a
time: a move is a `Stage.Next` together with the `Effect` of the call on the ledger. Two lemmas turn
that into statements about whole runs: `Role.Follows.run` for a round that is made in one go, and
`Staff.act` for the acts of a scene.
-/

namespace WebhookDelivery

-- ---------------------------------------------------------------------------
-- Stages
-- ---------------------------------------------------------------------------

/-- How far a round has come. -/
inductive Stage where
  /-- With nothing in hand. -/
  | idle
  /-- A worker has taken an entry that names a message. -/
  | popped (entry : String) (id : MessageId)
  /-- The message is loaded and has not come to its end. -/
  | loaded (entry : String) (m : Message)
  /-- The message was sent. -/
  | answered (entry : String) (m : Message) (report : Report)
  /-- The time of the attempt is known. -/
  | timed (entry : String) (m : Message) (report : Report) (now : Instant)
  /-- The attempt was to be recorded. -/
  | recorded (entry : String) (m : Message) (report : Report) (now : Instant)
  /-- The entry is to go back into the queue. -/
  | troubled (entry : String) (id : MessageId)
  /-- A worker is about to pause. -/
  | pausing
  /-- These messages are still to be swept. -/
  | sweeping (batch : List Message)
  /-- A message with this due time was pushed, and is to be marked pending. -/
  | pushed (m : Message) (due : Instant) (batch : List Message)
  /-- These messages are still to be recovered. -/
  | recovering (batch : List Message)
  /-- A message was not in the queue. -/
  | absent (m : Message) (batch : List Message)
  /-- A new message is stored. -/
  | accepted (m : Message)
  /-- The queue has not taken the new message. -/
  | refused (m : Message)
  /-- The new message is to be set aside. -/
  | deferring (m : Message) (now : Instant)

namespace Stage

/-- Where a worker is after a failure of the store: an entry that may succeed later goes back. -/
def afterFailure (e : StoreError) (entry : String) (id : MessageId) : Stage :=
  if e.toPipeline.isRetryable then .troubled entry id else .idle

/-- From which stage a role makes which call, and to which stage which answer leads. -/
inductive Next : Role → Stage → (c : Call) → c.Answer → Stage → Prop where
  | note (role : Role) (σ : Stage) (e : Event) : Next role σ (.note e) () σ
  -- One round of a worker.
  | pop {w : Worker} {entry : String} {id : MessageId} (h : MessageId.ofText? entry = some id) :
    Next (.worker w) .idle .pop (.ok (some entry)) (.popped entry id)
  | popUnreadable {w : Worker} {entry : String} (h : MessageId.ofText? entry = none) :
    Next (.worker w) .idle .pop (.ok (some entry)) .idle
  | popNothing {w : Worker} : Next (.worker w) .idle .pop (.ok none) .idle
  | popFailed {w : Worker} (e : PipelineError) : Next (.worker w) .idle .pop (.error e) .pausing
  | pause {w : Worker} (d : Duration) : Next (.worker w) .pausing (.sleep d) () .idle
  | load {w : Worker} {entry : String} {id : MessageId} {m : Message}
    (h : m.status.isTerminal = false) :
    Next (.worker w) (.popped entry id) (.findMessage id) (.ok m) (.loaded entry m)
  | skipEnded {w : Worker} {entry : String} {id : MessageId} {m : Message}
    (h : m.status.isTerminal = true) :
    Next (.worker w) (.popped entry id) (.findMessage id) (.ok m) .idle
  | skipMissing {w : Worker} {entry : String} {id : MessageId} {e : StoreError}
    (h : e.isNotFound = true) :
    Next (.worker w) (.popped entry id) (.findMessage id) (.error e) .idle
  | loadFailed {w : Worker} {entry : String} {id : MessageId} {e : StoreError}
    (h : e.isNotFound = false) :
    Next (.worker w) (.popped entry id) (.findMessage id) (.error e) (afterFailure e entry id)
  | secret {w : Worker} {entry : String} {m : Message} (answer : Except StoreError String) :
    Next (.worker w) (.loaded entry m) (.findSigningSecret m.org) answer (.loaded entry m)
  | signingTime {w : Worker} {entry : String} {m : Message} (now : Instant) :
    Next (.worker w) (.loaded entry m) .now now (.loaded entry m)
  | send {w : Worker} {entry : String} {m : Message} {r : DeliveryRequest}
    (h : DeliveryRequest.ofMessage m = .ok r) (signature : Option Signature) (report : Report) :
    Next (.worker w) (.loaded entry m) (.send w.client (r.sign signature)) report
      (.answered entry m report)
  | time {w : Worker} {entry : String} {m : Message} {report : Report} (now : Instant) :
    Next (.worker w) (.answered entry m report) .now now (.timed entry m report now)
  | record {w : Worker} {entry : String} {m : Message} {report : Report} {now : Instant}
    (answer : Except StoreError Attempt) :
    Next (.worker w) (.timed entry m report now) (.recordAttempt (m.attempt report now)) answer
      (.recorded entry m report now)
  | draw {w : Worker} {entry : String} {m : Message} {report : Report} {now : Instant}
    (range offset : Float) :
    Next (.worker w) (.recorded entry m report now) (.drawOffset range) offset
      (.recorded entry m report now)
  | write {w : Worker} {entry : String} {m m' : Message} {report : Report} {now : Instant}
    (h : w.Settles m now report.outcome m') :
    Next (.worker w) (.recorded entry m report now) (.updateMessage m') (.ok ()) .idle
  | writeFailed {w : Worker} {entry : String} {m m' : Message} {report : Report} {now : Instant}
    (h : w.Settles m now report.outcome m') (e : StoreError) :
    Next (.worker w) (.recorded entry m report now) (.updateMessage m') (.error e)
      (afterFailure e entry m.id)
  | reject {w : Worker} {entry : String} {m : Message} {reason : Unsendable}
    (h : DeliveryRequest.ofMessage m = .error reason) (m' : Message) :
    Next (.worker w) (.loaded entry m) (.updateMessageStatus m.id .failed) (.ok m') .idle
  | rejectFailed {w : Worker} {entry : String} {m : Message} {reason : Unsendable}
    (h : DeliveryRequest.ofMessage m = .error reason) (e : StoreError) :
    Next (.worker w) (.loaded entry m) (.updateMessageStatus m.id .failed) (.error e)
      (afterFailure e entry m.id)
  | pushBack {w : Worker} {entry : String} {id : MessageId} (answer : Except PipelineError Unit) :
    Next (.worker w) (.troubled entry id) (.push entry) answer .pausing
  -- One sweep.
  | sweepTime {s : SweepSettings} (now : Instant) : Next (.sweeper s) .idle .now now .idle
  | due {s : SweepSettings} (limit : Nat) (now : Instant) (batch : List Message) :
    Next (.sweeper s) .idle (.findRetryReady limit now) (.ok batch)
      (.sweeping (batch.filter (·.nextRetryAt.isSome)))
  | dueFailed {s : SweepSettings} (limit : Nat) (now : Instant) (e : StoreError) :
    Next (.sweeper s) .idle (.findRetryReady limit now) (.error e) .idle
  | sweepPush {s : SweepSettings} {m : Message} {due : Instant} {batch : List Message}
    (h : m.nextRetryAt = some due) :
    Next (.sweeper s) (.sweeping (m :: batch)) (.push m.id.text) (.ok ()) (.pushed m due batch)
  | sweepPushFailed {s : SweepSettings} {m : Message} {batch : List Message} (e : PipelineError) :
    Next (.sweeper s) (.sweeping (m :: batch)) (.push m.id.text) (.error e) (.sweeping batch)
  | requeue {s : SweepSettings} {m : Message} {due : Instant} {batch : List Message}
    (answer : Except StoreError Bool) :
    Next (.sweeper s) (.pushed m due batch) (.requeueMessage m.id due) answer (.sweeping batch)
  -- One recovery.
  | pending {s : SweepSettings} (limit : Nat) (batch : List Message) :
    Next (.recovery s) .idle (.findPending limit) (.ok batch) (.recovering batch)
  | pendingFailed {s : SweepSettings} (limit : Nat) (e : StoreError) :
    Next (.recovery s) .idle (.findPending limit) (.error e) .idle
  | present {s : SweepSettings} {m : Message} {batch : List Message} :
    Next (.recovery s) (.recovering (m :: batch)) (.queueContains m.id.text) (.ok true)
      (.recovering batch)
  | missing {s : SweepSettings} {m : Message} {batch : List Message} :
    Next (.recovery s) (.recovering (m :: batch)) (.queueContains m.id.text) (.ok false)
      (.absent m batch)
  | containsFailed {s : SweepSettings} {m : Message} {batch : List Message} (e : PipelineError) :
    Next (.recovery s) (.recovering (m :: batch)) (.queueContains m.id.text) (.error e) .idle
  | recoverPush {s : SweepSettings} {m : Message} {batch : List Message}
    (answer : Except PipelineError Unit) :
    Next (.recovery s) (.absent m batch) (.push m.id.text) answer (.recovering batch)
  -- One submission.
  | create {d draft : Draft} (h : d.normalize = .ok draft) (m : Message) :
    Next (.submission d) .idle (.createMessage draft) (.ok m) (.accepted m)
  | createFailed {d draft : Draft} (h : d.normalize = .ok draft) (e : StoreError) :
    Next (.submission d) .idle (.createMessage draft) (.error e) .idle
  | queue {d : Draft} {m : Message} : Next (.submission d) (.accepted m) (.push m.id.text) (.ok ()) .idle
  | refuse {d : Draft} {m : Message} (e : PipelineError) :
    Next (.submission d) (.accepted m) (.push m.id.text) (.error e) (.refused m)
  | deferTime {d : Draft} {m : Message} (now : Instant) :
    Next (.submission d) (.refused m) .now now (.deferring m now)
  | defer {d : Draft} {m : Message} {now : Instant} (answer : Except StoreError Unit) :
    Next (.submission d) (.deferring m now) (.updateMessage (m.defer now now)) answer .idle

/-- Where a round can break down of itself: the decision after a failed attempt cannot be reached. -/
def Stuck (role : Role) (σ : Stage) : Prop :=
  ∃ w entry m report now draw fault, role = .worker w ∧ σ = .recorded entry m report now
    ∧ report.outcome.isSuccess = false ∧ w.policy.decide draw m.priorAttempts now = .error fault

/-- Where a round is over. -/
def AtRest (σ : Stage) : Prop :=
  σ = .idle ∨ σ = .sweeping [] ∨ σ = .recovering []

end Stage

-- ---------------------------------------------------------------------------
-- What moves keep
-- ---------------------------------------------------------------------------

/-- A request is for the message that it was made of. -/
theorem DeliveryRequest.messageId_of_ofMessage {m : Message} {r : DeliveryRequest}
    (h : ofMessage m = .ok r) : r.messageId = m.id := by
  obtain ⟨_, _, -, -, rfl⟩ := ofMessage_eq_ok.mp h
  rfl

/-- Whether a message can be sent depends on its method and URL alone. -/
theorem DeliveryRequest.unsendable_of_eq {m n : Message} {reason : Unsendable}
    (hmethod : m.method = n.method) (hurl : m.url = n.url) (h : ofMessage n = .error reason) :
    ofMessage m = .error reason := by
  rw [ofMessage] at h ⊢
  rw [hmethod, hurl]
  cases hparsed : Method.parse n.method with
  | error e =>
    rw [hparsed] at h
    exact h
  | ok method =>
    cases hread : Url.parse n.url with
    | error e =>
      rw [hparsed, hread] at h
      exact h
    | ok url =>
      rw [hparsed, hread] at h
      cases h

/-- No call takes an identifier back. -/
theorem Effect.created_le {ids : Nat → MessageId} {k k' : Ledger} {c : Call} {answer : c.Answer}
    (h : Effect ids k c answer k') : k.created ≤ k'.created := by
  cases h with
  | create => exact Nat.le_succ _
  | setStatus | update | requeue | quiet | find | due | pending | keep | record | push | pop
  | contains => exact Nat.le_refl _

-- ---------------------------------------------------------------------------
-- Tasks that keep to the stages
-- ---------------------------------------------------------------------------

/-- Whether a task of a role that has come to a stage keeps to the moves from there, whatever it is
answered, and ends as asked. -/
def Role.Follows {α : Type} (role : Role) : Stage → Task α → (α → Stage → Prop) → Prop
  | σ, .done a, post => post a σ
  | σ, .breakdown, _ => Stage.Stuck role σ
  | σ, .call c next, post =>
    ∀ answer : c.Answer, ∃ σ', Stage.Next role σ c answer σ' ∧ role.Follows σ' (next answer) post

namespace Role

/-- A task that goes on from where another ends keeps to the moves if both do. -/
theorem Follows.bind {α β : Type} {role : Role} {t : Task α} {f : α → Task β}
    {post : α → Stage → Prop} {post' : β → Stage → Prop} {σ : Stage} (h : role.Follows σ t post)
    (hf : ∀ a σ, post a σ → role.Follows σ (f a) post') : role.Follows σ (t >>= f) post' := by
  induction t generalizing σ with
  | done a => exact hf a σ h
  | breakdown => exact h
  | call c next ih =>
    intro answer
    obtain ⟨σ', hnext, hrest⟩ := h answer
    exact ⟨σ', hnext, ih answer hrest⟩

/-- A task that ends as it should ends in every weaker way, too. -/
theorem Follows.mono {α : Type} {role : Role} {t : Task α} {post post' : α → Stage → Prop}
    {σ : Stage} (h : role.Follows σ t post) (hpost : ∀ a σ, post a σ → post' a σ) :
    role.Follows σ t post' := by
  induction t generalizing σ with
  | done a => exact hpost a σ h
  | breakdown => exact h
  | call c next ih =>
    intro answer
    obtain ⟨σ', hnext, hrest⟩ := h answer
    exact ⟨σ', hnext, ih answer hrest⟩

-- ---------------------------------------------------------------------------
-- Workers
-- ---------------------------------------------------------------------------

section Worker

variable {w : Worker} {entry : String} {m : Message}

/-- A worker that has come to its end, or failed and does as failures ask. -/
def Stage.Concluded {α : Type} (entry : String) (id : MessageId) (answer : Except PipelineError α)
    (σ : Stage) : Prop :=
  match answer with
  | .ok _ => σ = .idle
  | .error e => ∃ failure : StoreError, e = failure.toPipeline ∧ σ = .afterFailure failure entry id

/-- Looking for a secret (`signature_for`) leaves the message where it is. -/
theorem follows_signatureFor :
    (Role.worker w).Follows (.loaded entry m) (Worker.signatureFor m)
      fun _ σ => σ = .loaded entry m := by
  intro answer
  refine ⟨_, .secret answer, ?_⟩
  cases answer with
  | error e => exact rfl
  | ok secret =>
    intro now
    exact ⟨_, .signingTime now, rfl⟩

/-- Sending a request leads to its report. -/
theorem follows_exchange {r : DeliveryRequest} (h : DeliveryRequest.ofMessage m = .ok r)
    (signature : Option Signature) :
    (Role.worker w).Follows (.loaded entry m) (w.exchange (r.sign signature))
      fun report σ => σ = .answered entry m report := by
  intro _
  refine ⟨_, .note _ _ _, fun report => ⟨_, .send h signature report, fun _ => ?_⟩⟩
  exact ⟨_, .note _ _ _, rfl⟩

/-- Drawing an offset leaves the attempt where it is. -/
theorem follows_drawOffset {report : Report} {now : Instant} (prior : Nat) :
    (Role.worker w).Follows (.recorded entry m report now) (Worker.drawOffset w.policy prior)
      fun _ σ => σ = .recorded entry m report now := by
  rw [Worker.drawOffset]
  split
  · intro offset
    exact ⟨_, .draw _ offset, rfl⟩
  · exact rfl

/-- So does the decision, if it can be reached. If it cannot, the worker is stuck. -/
theorem follows_decideRetry {report : Report} {now : Instant}
    (h : report.outcome.isSuccess = false) :
    (Role.worker w).Follows (.recorded entry m report now)
      (Worker.decideRetry w.policy m.priorAttempts now)
      fun decision σ => σ = .recorded entry m report now
        ∧ w.Settles m now report.outcome (m.failed decision now).1 := by
  rw [Worker.decideRetry]
  refine (follows_drawOffset m.priorAttempts).bind fun offset σ hσ => ?_
  subst hσ
  split
  · rename_i decision hdecide
    exact ⟨rfl, .failed h hdecide⟩
  · rename_i fault hdecide
    exact ⟨w, entry, m, report, now, _, fault, rfl, rfl, h, hdecide⟩

/-- Settling an attempt ends with what an attempt may make of its message. -/
theorem follows_settle {report : Report} {now : Instant} :
    (Role.worker w).Follows (.recorded entry m report now) (w.settle m report.outcome now)
      fun result σ => σ = .recorded entry m report now
        ∧ w.Settles m now report.outcome result.1 := by
  unfold Worker.settle
  split
  · rename_i houtcome
    exact ⟨rfl, .delivered (by rw [houtcome]; rfl)⟩
  · rename_i hfailed
    have hsuccess : report.outcome.isSuccess = false := by
      cases houtcome : report.outcome with
      | success code body => exact absurd houtcome (hfailed code body)
      | _ => rfl
    refine (follows_decideRetry hsuccess).bind fun decision σ hσ => ?_
    exact hσ

/-- A settled message is written, and the worker comes to its end or does as failures ask. -/
theorem follows_conclude {m' : Message} {report : Report} {now : Instant}
    (h : w.Settles m now report.outcome m') (t : Transition) :
    (Role.worker w).Follows (.recorded entry m report now) (Worker.conclude m' t)
      (Stage.Concluded entry m.id) := by
  intro answer
  cases answer with
  | error e => exact ⟨_, .writeFailed h e, e, rfl, rfl⟩
  | ok _ =>
    refine ⟨_, .write h, fun _ => ?_⟩
    exact ⟨_, .note _ _ _, rfl⟩

/-- An attempt goes through all stages from the loaded message on. -/
theorem follows_attempt {r : DeliveryRequest} (h : DeliveryRequest.ofMessage m = .ok r) :
    (Role.worker w).Follows (.loaded entry m) (w.attempt m r) (Stage.Concluded entry m.id) := by
  refine follows_signatureFor.bind fun signature σ hσ => ?_
  subst hσ
  refine (follows_exchange h signature).bind fun report σ hσ => ?_
  subst hσ
  intro now
  refine ⟨_, .time now, fun answer => ⟨_, .record answer, ?_⟩⟩
  refine follows_settle.bind fun result σ hσ => ?_
  obtain ⟨rfl, hsettles⟩ := hσ
  exact follows_conclude hsettles result.2

/-- A message of which no request can be made is given up. -/
theorem follows_reject {reason : Unsendable} (h : DeliveryRequest.ofMessage m = .error reason) :
    (Role.worker w).Follows (.loaded entry m) (Worker.reject m reason)
      (Stage.Concluded entry m.id) := by
  intro answer
  cases answer with
  | error e => exact ⟨_, .rejectFailed h e, e, rfl, rfl⟩
  | ok m' =>
    refine ⟨_, .reject h m', fun _ => ?_⟩
    exact ⟨_, .note _ _ _, rfl⟩

/-- A delivery is an attempt or a rejection (`deliver`). -/
theorem follows_deliver :
    (Role.worker w).Follows (.loaded entry m) (w.deliver m) (Stage.Concluded entry m.id) := by
  rw [Worker.deliver]
  split
  · rename_i r hr
    exact follows_attempt hr
  · rename_i reason hreason
    exact follows_reject hreason

/-- A message that has not come to its end is delivered. -/
theorem follows_processMessage (h : m.status.isTerminal = false) :
    (Role.worker w).Follows (.loaded entry m) (w.processMessage m)
      (Stage.Concluded entry m.id) := by
  rw [Worker.processMessage, if_neg (by simp [h])]
  refine follows_deliver.bind fun answer σ hσ => ?_
  cases answer with
  | error e => exact hσ
  | ok t =>
    obtain rfl : σ = .idle := hσ
    intro _
    exact ⟨_, .note _ _ _, rfl⟩

/-- An entry that names a message leads to a delivery, or is skipped (`process`). -/
theorem follows_process {id : MessageId} (hid : MessageId.ofText? entry = some id) :
    (Role.worker w).Follows (.popped entry id) (w.process entry)
      fun answer σ => ∃ id, Stage.Concluded entry id answer σ := by
  rw [Worker.process, hid]
  intro answer
  cases answer with
  -- the message is there: it is delivered unless it has come to its end
  | ok m =>
    by_cases hended : m.status.isTerminal = true
    · refine ⟨_, .skipEnded hended, ?_⟩
      show Follows _ _ (Worker.processMessage w m) _
      rw [Worker.processMessage, if_pos hended]
      exact ⟨m.id, rfl⟩
    · rw [Bool.not_eq_true] at hended
      exact ⟨_, .load hended, (follows_processMessage hended).mono fun _ _ h => ⟨m.id, h⟩⟩
  -- it could not be loaded: a missing one is skipped, and other failures are handed on
  | error e =>
    let skipped : Task (Except PipelineError (Option Transition)) := .done (.ok none)
    let gone : Task (Except PipelineError (Option Transition)) := .done (.error e.toPipeline)
    cases hmissing : e.isNotFound with
    | true =>
      refine ⟨_, .skipMissing hmissing, ?_⟩
      show Follows _ _ (if e.isNotFound = true then skipped else gone) _
      rw [if_pos hmissing]
      exact ⟨id, rfl⟩
    | false =>
      refine ⟨_, .loadFailed hmissing, ?_⟩
      show Follows _ _ (if e.isNotFound = true then skipped else gone) _
      rw [if_neg (by simp [hmissing])]
      exact ⟨id, e, rfl, rfl⟩

/-- After a failure the entry goes back where it may succeed later, and the worker pauses. -/
theorem follows_afterFailure {e : StoreError} {id : MessageId} :
    (Role.worker w).Follows (.afterFailure e entry id) (w.afterFailure entry e.toPipeline)
      fun _ σ => σ = .idle := by
  intro _
  refine ⟨_, .note _ _ _, ?_⟩
  rw [Stage.afterFailure]
  cases hretryable : e.toPipeline.isRetryable with
  | false => exact rfl
  | true =>
    intro answer
    refine ⟨_, .pushBack answer, fun _ => ?_⟩
    exact ⟨_, .pause _, rfl⟩

/-- A worker's round keeps to the moves and ends idle (`run`). -/
theorem follows_workerRound :
    (Role.worker w).Follows .idle w.round fun _ σ => σ = .idle := by
  intro answer
  cases answer with
  -- the queue itself has failed, so that there is nothing to put back
  | error e =>
    refine ⟨_, .popFailed e, fun _ => ?_⟩
    exact ⟨_, .pause _, rfl⟩
  | ok popped =>
    cases popped with
    | none => exact ⟨_, .popNothing, rfl⟩
    | some entry =>
      cases hid : MessageId.ofText? entry with
      | none =>
        refine ⟨_, .popUnreadable hid, ?_⟩
        -- an entry that names no message is dropped
        show Follows _ _ (Worker.process w entry >>= _) _
        rw [Worker.process, hid]
        exact rfl
      | some id =>
        refine ⟨_, .pop hid, (follows_process hid).bind fun answer σ hσ => ?_⟩
        obtain ⟨id, hσ⟩ := hσ
        cases answer with
        | ok _ => exact hσ
        | error e =>
          obtain ⟨failure, rfl, rfl⟩ := hσ
          exact follows_afterFailure

end Worker

-- ---------------------------------------------------------------------------
-- Sweeps, recoveries, submissions
-- ---------------------------------------------------------------------------

/-- A sweep deals with the messages that it was given one after another. The induction is on these
messages; those without a due time, which the query never gives out, are passed over without a move.
-/
theorem follows_requeueAll (s : SweepSettings) (batch : List Message) :
    (Role.sweeper s).Follows (.sweeping (batch.filter (·.nextRetryAt.isSome)))
      (Sweep.requeueAll batch) fun _ σ => σ = .sweeping [] := by
  induction batch with
  | nil => exact rfl
  | cons m rest ih =>
    have hrest : ∀ requeued : Bool,
        (Role.sweeper s).Follows (.sweeping (rest.filter (·.nextRetryAt.isSome)))
          (do
            let others ← Sweep.requeueAll rest
            return requeued.toNat + others)
          fun _ σ => σ = .sweeping [] :=
      fun requeued => ih.bind fun _ _ hσ => hσ
    rw [Sweep.requeueAll]
    cases hdue : m.nextRetryAt with
    | none =>
      rw [Sweep.requeueOne, hdue, List.filter_cons_of_neg (by simp [hdue])]
      exact hrest false
    | some due =>
      rw [Sweep.requeueOne, hdue, List.filter_cons_of_pos (by simp [hdue])]
      intro pushed
      cases pushed with
      -- a message that could not be pushed is left for the next sweep
      | error e => exact ⟨_, .sweepPushFailed e, hrest false⟩
      | ok _ =>
        refine ⟨_, .sweepPush hdue, fun requeued => ⟨_, .requeue requeued, ?_⟩⟩
        cases requeued with
        | error e => exact hrest false
        | ok requeued => exact hrest requeued

/-- A sweep keeps to the moves and ends at rest (`sweep`). -/
theorem follows_sweep (s : SweepSettings) :
    (Role.sweeper s).Follows .idle s.sweep fun _ σ => σ.AtRest := by
  intro now
  refine ⟨_, .sweepTime now, fun answer => ?_⟩
  cases answer with
  | error e => exact ⟨_, .dueFailed _ _ e, .inl rfl⟩
  | ok batch =>
    refine ⟨_, .due _ _ batch, (follows_requeueAll s batch).bind fun requeued σ hσ => ?_⟩
    subst hσ
    show Follows _ _ (Sweep.report requeued >>= _) _
    rw [Sweep.report]
    split
    · exact .inr (.inl rfl)
    · intro _
      exact ⟨_, .note _ _ _, .inr (.inl rfl)⟩

/-- A recovery deals with the messages that it was given one after another, and ends early where the
queue cannot be asked. -/
theorem follows_enqueueAll (s : SweepSettings) (batch : List Message) :
    (Role.recovery s).Follows (.recovering batch) (Recovery.enqueueAll batch)
      fun answer σ => σ = .recovering [] ∨ ((∃ e, answer = .error e) ∧ σ = .idle) := by
  induction batch with
  | nil => exact .inl rfl
  | cons m rest ih =>
    -- Whatever is counted, the rest is recovered, and its failures are handed on.
    have hrest : ∀ f : Except PipelineError Nat → Task (Except PipelineError Nat),
        (∀ e, f (.error e) = .done (.error e)) → (∀ n, ∃ total, f (.ok n) = .done (.ok total)) →
        (Role.recovery s).Follows (.recovering rest) (Recovery.enqueueAll rest >>= f)
          fun answer σ => σ = .recovering [] ∨ ((∃ e, answer = .error e) ∧ σ = .idle) := by
      intro f herror hok
      refine ih.bind fun answer σ hσ => ?_
      cases answer with
      | error e =>
        rw [herror]
        exact hσ.imp_right fun h => ⟨⟨e, rfl⟩, h.2⟩
      | ok n =>
        obtain ⟨total, hf⟩ := hok n
        rw [hf]
        exact hσ.imp_right (by rintro ⟨⟨_, ⟨⟩⟩, _⟩)
    intro contains
    cases contains with
    | error e => exact ⟨_, .containsFailed e, .inr ⟨⟨e, rfl⟩, rfl⟩⟩
    | ok present =>
      cases present with
      | true => exact ⟨_, .present, hrest _ (fun _ => rfl) fun _ => ⟨_, rfl⟩⟩
      | false =>
        refine ⟨_, .missing, fun pushed => ⟨_, .recoverPush pushed, ?_⟩⟩
        cases pushed with
        | error e => exact hrest _ (fun _ => rfl) fun _ => ⟨_, rfl⟩
        | ok _ => exact hrest _ (fun _ => rfl) fun _ => ⟨_, rfl⟩

/-- A recovery keeps to the moves and ends at rest (`recover_pending`). -/
theorem follows_recover (s : SweepSettings) :
    (Role.recovery s).Follows .idle s.recover fun _ σ => σ.AtRest := by
  intro answer
  cases answer with
  | error e => exact ⟨_, .pendingFailed _ e, .inl rfl⟩
  | ok batch =>
    refine ⟨_, .pending _ batch, (follows_enqueueAll s batch).bind fun answer σ hσ => ?_⟩
    cases answer with
    -- a failure has come up in between
    | error e => exact hσ.elim (fun h => .inr (.inr h)) fun h => .inl h.2
    | ok recovered =>
      obtain rfl : σ = .recovering [] := hσ.elim (fun h => h) (by rintro ⟨⟨_, ⟨⟩⟩, _⟩)
      show Follows _ _ (Recovery.report recovered) _
      rw [Recovery.report]
      split
      · exact .inr (.inr rfl)
      · intro _
        exact ⟨_, .note _ _ _, .inr (.inr rfl)⟩

/-- A submission keeps to the moves and ends at rest (`submit`). -/
theorem follows_submit (d : Draft) :
    (Role.submission d).Follows .idle (submit d) fun _ σ => σ.AtRest := by
  rw [submit]
  split
  · rename_i draft hdraft
    intro created
    cases created with
    | error e => exact ⟨_, .createFailed hdraft e, .inl rfl⟩
    | ok m =>
      refine ⟨_, .create hdraft m, fun pushed => ?_⟩
      cases pushed with
      | ok _ => exact ⟨_, .queue, .inl rfl⟩
      | error e =>
        refine ⟨_, .refuse e, fun now => ⟨_, .deferTime now, fun updated => ⟨_, .defer updated, ?_⟩⟩⟩
        cases updated <;> exact .inl rfl
  · exact .inl rfl

/-- Every round keeps to the moves of its role. -/
theorem follows_round (role : Role) : role.Follows .idle role.round fun _ σ => σ.AtRest := by
  cases role with
  | worker w => exact follows_workerRound.mono fun _ _ h => .inl h
  | sweeper s => exact (follows_sweep s).bind fun _ _ h => h
  | recovery s => exact (follows_recover s).bind fun _ _ h => h
  | submission d => exact (follows_submit d).bind fun _ _ h => h

end Role

-- ---------------------------------------------------------------------------
-- Moves
-- ---------------------------------------------------------------------------

/-- A role at a stage makes a call in a world, and the answer takes it to another stage. -/
structure Stage.Move (role : Role) (σ : Stage) (w : World) (c : Call) (answer : c.Answer)
    (σ' : Stage) (w' : World) : Prop where
  next : Next role σ c answer σ'
  performed : w.perform c = (some answer, w')

namespace Stage.Move

variable {role : Role} {σ σ' : Stage} {w w' : World} {c : Call} {answer : c.Answer}

/-- A move has the effect of its call. -/
theorem effect (h : Move role σ w c answer σ' w') :
    Effect w.supply.messageIds w.ledger c answer w'.ledger :=
  World.effect_of_perform h.performed

/-- A move keeps what no call changes. -/
theorem kept (h : Move role σ w c answer σ' w') : w.Kept w' := by
  have hkept := w.kept_perform c
  rwa [h.performed] at hkept

end Stage.Move

/-- Only readings of the clock and pauses can be left without an answer. -/
theorem World.cases_of_unanswered {w w' : World} {c : Call} (h : w.perform c = (none, w')) :
    c = .now ∨ ∃ d, c = .sleep d := by
  cases c with
  | sleep d => exact .inr ⟨d, rfl⟩
  | now => exact .inl rfl
  | push entry =>
    rw [perform] at h
    split at h <;> cases (Prod.mk.inj h).1
  | pop =>
    rw [perform] at h
    split at h <;> cases (Prod.mk.inj h).1
  | _ => cases (Prod.mk.inj h).1

/-- A call that is not answered could have been answered. -/
theorem World.nonempty_answer {w w' : World} {c : Call} (h : w.perform c = (none, w')) :
    Nonempty c.Answer := by
  rcases cases_of_unanswered h with rfl | ⟨d, rfl⟩
  · exact ⟨(default : Instant)⟩
  · exact ⟨()⟩

-- ---------------------------------------------------------------------------
-- Rounds in one go
-- ---------------------------------------------------------------------------

/-- What every move from stage to stage preserves, and what the end of a round leaves in force for
the next, holds after a round. -/
theorem Role.Follows.run {α : Type} {role : Role} {I : Stage → World → List Moment → Prop}
    (hmove : ∀ σ w h c answer σ' w', I σ w h → Stage.Move role σ w c answer σ' w' →
      I σ' w' (⟨w, c, answer⟩ :: h))
    (hunanswered : ∀ σ w h c answer σ' w', I σ w h → Stage.Next role σ c answer σ' →
      w.perform c = (none, w') → I .idle w' h)
    (hstuck : ∀ σ w h, I σ w h → Stage.Stuck role σ → I .idle w h)
    (hrest : ∀ σ w h, I σ w h → σ.AtRest → I .idle w h)
    {σ : Stage} {t : Task α} {w : World} {h : List Moment}
    (hfollows : role.Follows σ t fun _ σ => σ.AtRest) (hI : I σ w h) :
    I .idle (t.run w).2 (t.moments w ++ h) := by
  induction t generalizing σ w h with
  | done a => exact hrest σ w h hI hfollows
  | breakdown => exact hstuck σ w h hI hfollows
  | call c next ih =>
    rw [Task.run, Task.moments]
    rcases hperform : w.perform c with ⟨answer?, w'⟩
    cases answer? with
    -- the call has no answer, so that the run ends here
    | none =>
      obtain ⟨answer⟩ := World.nonempty_answer hperform
      obtain ⟨σ', hnext, -⟩ := hfollows answer
      exact hunanswered σ w h c answer σ' w' hI hnext hperform
    -- a move keeps the invariant, and the rest is run from there
    | some answer =>
      obtain ⟨σ', hnext, hfollows'⟩ := hfollows answer
      have hI' := hmove σ w h c answer σ' w' hI ⟨hnext, hperform⟩
      have hend := ih answer hfollows' hI'
      simpa using hend

/-- What the outside may do less of leads to fewer sequences. -/
theorem Sequence.mono {roles : Role → Prop} {outside outside' : World → World → Prop}
    {start w : World} {h : List Moment} (hsequence : Sequence roles outside start w h)
    (hmono : ∀ w w', outside w w' → outside' w w') : Sequence roles outside' start w h := by
  induction hsequence with
  | start => exact .start
  | round role allowed _ ih => exact .round role allowed ih
  | outside change _ ih => exact .outside (hmono _ _ change) ih

/-- What every move preserves, and the outside too, holds after every sequence of rounds. -/
theorem Sequence.invariant {roles : Role → Prop} {outside : World → World → Prop} {start : World}
    {I : Stage → World → List Moment → Prop} (h0 : I .idle start [])
    (hmove : ∀ role σ w h c answer σ' w', roles role → I σ w h →
      Stage.Move role σ w c answer σ' w' → I σ' w' (⟨w, c, answer⟩ :: h))
    (hunanswered : ∀ role σ w h c answer σ' w', roles role → I σ w h →
      Stage.Next role σ c answer σ' → w.perform c = (none, w') → I .idle w' h)
    (hstuck : ∀ role σ w h, roles role → I σ w h → Stage.Stuck role σ → I .idle w h)
    (hrest : ∀ σ w h, I σ w h → σ.AtRest → I .idle w h)
    (houtside : ∀ w w' h, I .idle w h → outside w w' → I .idle w' h)
    {w : World} {h : List Moment} (hsequence : Sequence roles outside start w h) : I .idle w h := by
  induction hsequence with
  | start => exact h0
  | outside change _ ih => exact houtside _ _ _ ih change
  | round role allowed _ ih =>
    refine role.follows_round.run ?_ ?_ ?_ hrest ih
    · exact fun σ w h c answer σ' w' => hmove role σ w h c answer σ' w' allowed
    · exact fun σ w h c answer σ' w' => hunanswered role σ w h c answer σ' w' allowed
    · exact fun σ w h => hstuck role σ w h allowed

-- ---------------------------------------------------------------------------
-- Scenes
-- ---------------------------------------------------------------------------

/-- In the midst of a list something else may stand. -/
theorem getElem?_replaced {α : Type} {before after : List α} (x y : α) (j : Nat) :
    (before ++ y :: after)[j]?
      = if j = before.length then some y else (before ++ x :: after)[j]? := by
  rcases Nat.lt_trichotomy j before.length with hlt | rfl | hgt
  · rw [if_neg (by omega), List.getElem?_append_left hlt, List.getElem?_append_left hlt]
  · simp
  · obtain ⟨n, rfl⟩ := Nat.exists_eq_add_of_lt hgt
    rw [if_neg (by omega), List.getElem?_append_right (by omega),
      List.getElem?_append_right (by omega),
      show before.length + n + 1 - before.length = n + 1 by omega, List.getElem?_cons_succ,
      List.getElem?_cons_succ]

/-- The call that a task makes next. -/
def Task.call? {α : Type} : Task α → Option Call
  | call c _ => some c
  | _ => none

/-- A task that makes a call next is that call and what follows. -/
theorem Task.call?_eq_some {α : Type} {t : Task α} {c : Call} (h : t.call? = some c) :
    ∃ next, t = .call c next := by
  cases t with
  | call c' next =>
    obtain rfl := Option.some.inj h
    exact ⟨next, rfl⟩
  | done | breakdown => cases h

namespace Scene

/-- The call that an actor makes when its turn comes. -/
def next? (s : Scene) (i : Nat) : Option Call :=
  s.actors[i]?.bind (·.task.call?)

/-- The actors of a scene, each with the stage that it has come to. One that broke down stays where
it was. -/
structure Staffed (s : Scene) (staff : List (Actor × Stage)) : Prop where
  actors : s.actors = staff.map Prod.fst
  follows : ∀ x ∈ staff, x.1.task = .breakdown
    ∨ x.1.role.Follows x.2 x.1.task fun _ σ => σ.AtRest

/-- What an act does to a scene and its staff: nothing; or an actor begins its next round; or it
moves; or its call is not answered. -/
inductive Turn (s : Scene) (i : Nat) :
    List (Actor × Stage) → Scene → List (Actor × Stage) → Prop where
  | none (staff : List (Actor × Stage)) : Turn s i staff s staff
  | restart {before after : List (Actor × Stage)} {a : Actor} {σ : Stage} (hi : i = before.length)
    (hrest : σ.AtRest) :
    Turn s i (before ++ (a, σ) :: after)
      { s with actors := (before ++ (Actor.ofRole a.role, .idle) :: after).map Prod.fst }
      (before ++ (Actor.ofRole a.role, .idle) :: after)
  | move {before after : List (Actor × Stage)} {a : Actor} {σ σ' : Stage} {c : Call}
    {answer : c.Answer} {w' : World} (next : c.Answer → Task Unit) (hi : i = before.length)
    (htask : a.task = .call c next) (hmove : Stage.Move a.role σ s.world c answer σ' w') :
    Turn s i (before ++ (a, σ) :: after)
      { world := w'
        actors := (before ++ ({ a with task := next answer }, σ') :: after).map Prod.fst
        history := (i, ⟨s.world, c, answer⟩) :: s.history }
      (before ++ ({ a with task := next answer }, σ') :: after)
  | unanswered {before after : List (Actor × Stage)} {a : Actor} {σ : Stage} {c : Call} {w' : World}
    (hi : i = before.length) (hperform : s.world.perform c = (.none, w')) :
    Turn s i (before ++ (a, σ) :: after)
      { s with world := w'
               actors := (before ++ ({ a with task := .breakdown }, σ) :: after).map Prod.fst }
      (before ++ ({ a with task := .breakdown }, σ) :: after)

/-- What an actor does when it is its turn. -/
theorem act_cases (a : Actor) (w : World) :
    (a.act w = (a, w) ∧ a.task.moment? w = .none)
    ∨ ((∃ u, a.task = .done u) ∧ a.act w = (.ofRole a.role, w) ∧ a.task.moment? w = .none)
    ∨ (∃ c next answer w', a.task = .call c next ∧ w.perform c = (some answer, w')
      ∧ a.act w = ({ a with task := next answer }, w')
      ∧ a.task.moment? w = some ⟨w, c, answer⟩)
    ∨ (∃ c next w', a.task = .call c next ∧ w.perform c = (.none, w')
      ∧ a.act w = ({ a with task := .breakdown }, w') ∧ a.task.moment? w = .none) := by
  obtain ⟨role, task⟩ := a
  cases task with
  -- a round is over: it begins anew, or never again
  | done u =>
    cases hrepeats : role.repeats with
    | false => exact .inl ⟨by simp [Actor.act, hrepeats], rfl⟩
    | true => exact .inr (.inl ⟨⟨u, rfl⟩, by simp [Actor.act, hrepeats], rfl⟩)
  | breakdown => exact .inl ⟨rfl, rfl⟩
  | call c next =>
    rcases hperform : w.perform c with ⟨answer?, w'⟩
    cases answer? with
    | none =>
      refine .inr (.inr (.inr ⟨c, next, w', rfl, hperform, ?_, ?_⟩))
      · simp [Actor.act, Task.step, hperform]
      · simp [Task.moment?, hperform]
    | some answer =>
      refine .inr (.inr (.inl ⟨c, next, answer, w', rfl, hperform, ?_, ?_⟩))
      · simp [Actor.act, Task.step, hperform]
      · simp [Task.moment?, hperform]

/-- The actor whose turn it is can be singled out. -/
theorem Staffed.split {s : Scene} {staff : List (Actor × Stage)} (h : Staffed s staff) {i : Nat}
    {a : Actor} (hactor : s.actors[i]? = some a) :
    ∃ before σ after, staff = before ++ (a, σ) :: after ∧ i = before.length := by
  obtain ⟨⟨a, σ⟩, hx, rfl⟩ : ∃ x, staff[i]? = some x ∧ x.1 = a := by
    rw [h.actors, List.getElem?_map, Option.map_eq_some_iff] at hactor
    exact hactor
  obtain ⟨hlt, hget⟩ := List.getElem?_eq_some_iff.mp hx
  refine ⟨staff.take i, σ, staff.drop (i + 1), ?_, (List.length_take_of_le (Nat.le_of_lt hlt)).symm⟩
  rw [← hget, ← List.drop_eq_getElem_cons hlt, List.take_append_drop]

/-- An actor that is about to make a call is at a stage from which its role makes it, and goes on as
it is answered. -/
theorem Staffed.next {s : Scene} {staff : List (Actor × Stage)} (h : Staffed s staff) {i : Nat}
    {c : Call} (hnext : s.next? i = some c) (answer : c.Answer) :
    ∃ a σ σ', staff[i]? = some (a, σ) ∧ Stage.Next a.role σ c answer σ' := by
  obtain ⟨⟨role, task⟩, hactor, htask⟩ := Option.bind_eq_some_iff.mp hnext
  obtain ⟨before, σ, after, rfl, rfl⟩ := h.split hactor
  obtain ⟨next, rfl⟩ := Task.call?_eq_some htask
  have hfollows := (h.follows (⟨role, .call c next⟩, σ) (by simp)).resolve_left (by rintro ⟨⟩)
  obtain ⟨σ', hmove, -⟩ := hfollows answer
  exact ⟨_, σ, σ', by simp, hmove⟩

/-- An act makes the actor's next call. -/
theorem world_act {s : Scene} {i : Nat} {c : Call} (hnext : s.next? i = some c) :
    (s.act i).world = (s.world.perform c).2 := by
  obtain ⟨a, hactor, htask⟩ := Option.bind_eq_some_iff.mp hnext
  obtain ⟨next, hcall⟩ := Task.call?_eq_some htask
  rw [act, hactor]
  show (a.act s.world).2 = _
  rw [a.act_of_call s.world hcall, hcall, Task.step]
  rcases s.world.perform c with ⟨_ | answer, w'⟩ <;> rfl

/-- An actor may be replaced by one that keeps to the moves. -/
theorem Staffed.replace {s s' : Scene} {before after : List (Actor × Stage)} {x y : Actor × Stage}
    (h : Staffed s (before ++ x :: after)) (hs' : s'.actors = (before ++ y :: after).map Prod.fst)
    (hy : y.1.task = .breakdown ∨ y.1.role.Follows y.2 y.1.task fun _ σ => σ.AtRest) :
    Staffed s' (before ++ y :: after) := by
  refine ⟨hs', fun z hz => ?_⟩
  rcases List.mem_append.mp hz with hz | hz
  · exact h.follows z (List.mem_append_left _ hz)
  · rcases List.mem_cons.mp hz with rfl | hz
    · exact hy
    · exact h.follows z (List.mem_append_right _ (List.mem_cons_of_mem _ hz))

/-- Without actors there is no staff. -/
theorem Staffed.nil (w : World) : Staffed { world := w } [] :=
  ⟨rfl, fun _ hx => absurd hx List.not_mem_nil⟩

/-- An act of a staffed scene is a turn, after which it is staffed again. -/
theorem Staffed.act {s : Scene} {staff : List (Actor × Stage)} (h : Staffed s staff) (i : Nat) :
    ∃ staff', Turn s i staff (s.act i) staff' ∧ Staffed (s.act i) staff' := by
  cases hactor : s.actors[i]? with
  -- there is no such actor
  | none =>
    refine ⟨staff, ?_⟩
    rw [Scene.act, hactor]
    exact ⟨.none staff, h⟩
  | some a =>
    obtain ⟨before, σ, after, rfl, hi⟩ := h.split hactor
    -- only this actor and its stage change
    have hset : ∀ y : Actor × Stage,
        s.actors.set i y.1 = (before ++ y :: after).map Prod.fst := by
      intro y
      rw [h.actors, hi, ← List.map_set]
      simp
    have hfollows := h.follows (a, σ) (by simp)
    rw [Scene.act, hactor]
    rcases act_cases a s.world with ⟨hact, hmoment⟩ | ⟨⟨u, htask⟩, hact, hmoment⟩
      | ⟨c, next, answer, w', htask, hperform, hact, hmoment⟩
      | ⟨c, next, w', htask, hperform, hact, hmoment⟩
    all_goals simp only [hact, hmoment]
    · -- nothing happens
      have hsame : s.actors.set i a = s.actors := by rw [hset (a, σ), h.actors]
      rw [hsame]
      exact ⟨_, .none _, h⟩
    · rw [htask] at hfollows
      rw [hset (.ofRole a.role, .idle)]
      refine ⟨_, .restart hi (hfollows.resolve_left (by rintro ⟨⟩)), h.replace rfl (.inr ?_)⟩
      exact a.role.follows_round
    · rw [htask] at hfollows
      obtain ⟨σ', hnext, hrest⟩ := hfollows.resolve_left (by rintro ⟨⟩) answer
      rw [hset ({ a with task := next answer }, σ')]
      exact ⟨_, .move next hi htask ⟨hnext, hperform⟩, h.replace rfl (.inr hrest)⟩
    · -- the actor has broken down and follows nothing any more
      rw [hset ({ a with task := .breakdown }, σ)]
      exact ⟨_, .unanswered hi hperform, h.replace rfl (.inl rfl)⟩

/-- What every turn, every newcomer and the outside preserve holds in every reachable scene. -/
theorem Reachable.staffed {roles : Role → Prop} {outside : World → World → Prop} {start : Scene}
    {I : Scene → List (Actor × Stage) → Prop} {staff₀ : List (Actor × Stage)}
    (h0 : Staffed start staff₀) (hstart : I start staff₀)
    (hturn : ∀ s i staff t staff', Staffed s staff → I s staff → Turn s i staff t staff' →
      Staffed t staff' → I t staff')
    (hjoin : ∀ s role staff, I s staff → roles role →
      I (s.join role) (staff ++ [(Actor.ofRole role, .idle)]))
    (houtside : ∀ s w staff, I s staff → outside s.world w → I { s with world := w } staff)
    {s : Scene} (h : Reachable roles outside start s) : ∃ staff, Staffed s staff ∧ I s staff := by
  induction h with
  | refl => exact ⟨staff₀, h0, hstart⟩
  | step _ hstep ih =>
    obtain ⟨staff, hstaffed, hI⟩ := ih
    cases hstep with
    | act i =>
      obtain ⟨staff', hact, hstaffed'⟩ := hstaffed.act i
      exact ⟨staff', hstaffed', hturn _ _ _ _ _ hstaffed hI hact hstaffed'⟩
    | join role hrole =>
      -- a newcomer stands at the beginning of its round
      refine ⟨_, ⟨?_, ?_⟩, hjoin _ role staff hI hrole⟩
      · rw [join, hstaffed.actors, List.map_append]
        rfl
      · intro x hx
        rcases List.mem_append.mp hx with hx | hx
        · exact hstaffed.follows x hx
        · obtain rfl := List.mem_singleton.mp hx
          exact .inr role.follows_round
    | outside w hw => exact ⟨staff, ⟨hstaffed.actors, hstaffed.follows⟩, houtside _ w staff hI hw⟩

end Scene

end WebhookDelivery
