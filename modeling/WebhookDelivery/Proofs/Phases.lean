import WebhookDelivery.Proofs.Stages

/-!
# What a round owes to the counters

Workers and sweepers count what they do, each at several points of a round: a request when it goes
out and when it comes back, a transition once it is stored, an entry once it is dealt with, and the
requeued messages at the end of a sweep. In between a round may end early, by a failure or by a
panic.

What a round still owes is its `Debt`, and how far it has come its `Phase`: `Phase.Next` says which
calls are made in which phase, and to which phase the answers lead. A stage (`Stage.Next`) says what
a round has in hand, but not what it has counted; a phase says the one and not the other.

* `Role.allows_round` — every round of a worker or a sweeper keeps to the phases, and neither ends
  nor breaks down in debt.
-/

namespace WebhookDelivery

-- ---------------------------------------------------------------------------
-- Transitions
-- ---------------------------------------------------------------------------

/-- The transition that a message in this status was written after. -/
def Status.transition? : Status → Option Event
  | success => some .delivered
  | retry => some .retryScheduled
  | failed => some .deadLettered
  | pending => none

/-- The events that are transitions. -/
def Event.transitions : List Event :=
  [.delivered, .retryScheduled, .deadLettered, .rejected]

-- ---------------------------------------------------------------------------
-- Phases
-- ---------------------------------------------------------------------------

/-- What a round still owes to the counters. -/
inductive Debt where
  /-- A request is out, and its answer is not counted. -/
  | answer
  /-- A transition is stored and not counted. -/
  | transition (e : Event)
  /-- The transition is counted, and the entry that it came from is not. -/
  | entry
  /-- So many messages were marked pending and are not counted. -/
  | requeued (n : Nat)
  deriving DecidableEq

namespace Debt

/-- Nothing at all. -/
def nothing : Debt := requeued 0

/-- Messages marked pending that are not counted. -/
def uncounted : Debt → Nat
  | requeued n => n
  | answer | transition _ | entry => 0

end Debt

/-- How far a round has come, as far as counting goes. -/
inductive Phase where
  /-- A worker that deals with no entry. -/
  | away
  /-- A worker deals with an entry, and owes nothing to the counters. -/
  | serving
  /-- A request was counted as going out. -/
  | onWire
  /-- A transition is stored and not counted yet. -/
  | stored (e : Event)
  /-- The transition is counted, and the entry is not. -/
  | counted
  /-- A sweeper between two sweeps. -/
  | resting
  /-- A sweep has read the clock. -/
  | reading
  /-- A sweep has marked so many messages pending. -/
  | sweeping (requeued : Nat)
  deriving DecidableEq

namespace Phase

/-- Whether a worker deals with an entry. -/
def serves : Phase → Bool
  | serving | onWire | stored _ | counted => true
  | away | resting | reading | sweeping _ => false

/-- What a round owes in a phase. -/
def debt : Phase → Debt
  | onWire => .answer
  | stored e => .transition e
  | counted => .entry
  | sweeping n => .requeued n
  | away | serving | resting | reading => .nothing

/-- In which phase which call is made, and to which phase which answer leads. -/
inductive Next : Phase → (c : Call) → c.Answer → Phase → Prop where
  -- One round of a worker.
  | pop {entry : String} (h : (MessageId.ofText? entry).isSome = true) :
    Next away .pop (.ok (some entry)) serving
  | popUnreadable {entry : String} (h : (MessageId.ofText? entry).isSome = false) :
    Next away .pop (.ok (some entry)) away
  | popNothing : Next away .pop (.ok none) away
  | popFailed (e : PipelineError) : Next away .pop (.error e) away
  | failure (category : ErrorCategory) : Next away (.note (.failure category)) () away
  | putBack (entry : String) (answer : Except PipelineError Unit) :
    Next away (.push entry) answer away
  | pause (d : Duration) : Next away (.sleep d) () away
  | load (id : MessageId) {m : Message} (h : m.status.isTerminal = false) :
    Next serving (.findMessage id) (.ok m) serving
  | skip (id : MessageId) {m : Message} (h : m.status.isTerminal = true) :
    Next serving (.findMessage id) (.ok m) away
  | loadFailed (id : MessageId) (e : StoreError) : Next serving (.findMessage id) (.error e) away
  | secret (org : OrgId) (answer : Except StoreError String) :
    Next serving (.findSigningSecret org) answer serving
  | time (now : Instant) : Next serving .now now serving
  | record (a : NewAttempt) (answer : Except StoreError Attempt) :
    Next serving (.recordAttempt a) answer serving
  | draw (range offset : Float) : Next serving (.drawOffset range) offset serving
  | sending : Next serving (.note .sending) () onWire
  | send (client : Client) (r : DeliveryRequest) (report : Report) :
    Next onWire (.send client r) report onWire
  | sent : Next onWire (.note .sent) () serving
  | write {m : Message} {e : Event} (h : m.status.transition? = some e) :
    Next serving (.updateMessage m) (.ok ()) (stored e)
  | writeFailed (m : Message) (e : StoreError) : Next serving (.updateMessage m) (.error e) away
  | reject (id : MessageId) (m : Message) :
    Next serving (.updateMessageStatus id .failed) (.ok m) (stored .rejected)
  | rejectFailed (id : MessageId) (e : StoreError) :
    Next serving (.updateMessageStatus id .failed) (.error e) away
  | count {e : Event} (h : e ∈ Event.transitions) : Next (stored e) (.note e) () counted
  | processed : Next counted (.note .processed) () away
  -- One sweep.
  | begin (now : Instant) : Next resting .now now reading
  | due (limit : Nat) (now : Instant) (batch : List Message) :
    Next reading (.findRetryReady limit now) (.ok batch) (sweeping 0)
  | dueFailed (limit : Nat) (now : Instant) (e : StoreError) :
    Next reading (.findRetryReady limit now) (.error e) resting
  | sweepPush (n : Nat) (entry : String) (answer : Except PipelineError Unit) :
    Next (sweeping n) (.push entry) answer (sweeping n)
  | requeue (n : Nat) (id : MessageId) (due : Instant) (requeued : Bool) :
    Next (sweeping n) (.requeueMessage id due) (.ok requeued) (sweeping (n + requeued.toNat))
  | requeueFailed (n : Nat) (id : MessageId) (due : Instant) (e : StoreError) :
    Next (sweeping n) (.requeueMessage id due) (.error e) (sweeping n)
  | report (n : Nat) : Next (sweeping n) (.note (.requeued n)) () resting

variable {φ φ' : Phase} {c : Call} {answer : c.Answer}

/-- A call that may be left without an answer is made where nothing is owed. -/
theorem Next.debt_of_unanswered {w w' : World} (hnext : Next φ c answer φ')
    (hperform : w.perform c = (none, w')) : φ.debt = .nothing := by
  rcases World.cases_of_unanswered hperform with rfl | ⟨d, rfl⟩
  · cases hnext <;> rfl
  · cases hnext
    rfl

/-- The clock is read where nothing is owed. -/
theorem Next.debt_of_now {now : Instant} (hnext : Next φ .now now φ') : φ.debt = .nothing := by
  cases hnext <;> rfl

end Phase

-- ---------------------------------------------------------------------------
-- Rounds that keep to the phases
-- ---------------------------------------------------------------------------

namespace Phase

/-- Whether a task keeps to the phases from one on, whatever it is answered, ends as asked, and
breaks down only where nothing is owed. -/
def Allows {α : Type} : Phase → Task α → (α → Phase → Prop) → Prop
  | φ, .done a, post => post a φ
  | φ, .breakdown, _ => φ.debt = .nothing
  | φ, .call c next, post =>
    ∀ answer : c.Answer, ∃ φ', φ.Next c answer φ' ∧ φ'.Allows (next answer) post

/-- Tasks in a row: the second goes on in the phase that the first ends in. -/
theorem Allows.bind {α β : Type} {t : Task α} {f : α → Task β} {post : α → Phase → Prop}
    {post' : β → Phase → Prop} {φ : Phase} (h : φ.Allows t post)
    (hf : ∀ a φ, post a φ → φ.Allows (f a) post') : φ.Allows (t >>= f) post' := by
  induction t generalizing φ with
  | done a => exact hf a φ h
  | breakdown => exact h
  | call c next ih =>
    intro answer
    obtain ⟨φ', hnext, hrest⟩ := h answer
    exact ⟨φ', hnext, ih answer hrest⟩

section Worker

variable {w : Worker} {m : Message}

/-- Looking for a secret counts nothing. -/
theorem allows_signatureFor : serving.Allows (Worker.signatureFor m) fun _ φ => φ = serving := by
  intro answer
  refine ⟨_, .secret m.org answer, ?_⟩
  cases answer with
  | error e => exact rfl
  | ok secret =>
    intro now
    exact ⟨_, .time now, rfl⟩

/-- Sending a request counts it when it goes out and when its answer is in. -/
theorem allows_exchange (r : DeliveryRequest) :
    serving.Allows (w.exchange r) fun _ φ => φ = serving := by
  intro _
  refine ⟨_, .sending, fun report => ⟨_, .send w.client r report, fun _ => ?_⟩⟩
  exact ⟨_, .sent, rfl⟩

/-- Drawing an offset counts nothing. -/
theorem allows_drawOffset (p : Retry.Policy) (prior : Nat) :
    serving.Allows (Worker.drawOffset p prior) fun _ φ => φ = serving := by
  rw [Worker.drawOffset]
  split
  · intro offset
    exact ⟨_, .draw _ offset, rfl⟩
  · exact rfl

/-- Nor does a decision, whether it is reached or not. -/
theorem allows_decideRetry (p : Retry.Policy) (prior : Nat) (failedAt : Instant) :
    serving.Allows (Worker.decideRetry p prior failedAt) fun _ φ => φ = serving := by
  rw [Worker.decideRetry]
  refine (allows_drawOffset p prior).bind fun offset φ hφ => ?_
  subst hφ
  split <;> exact rfl

/-- The transition that an attempt is settled as is the one that its message tells of. -/
theorem allows_settle (outcome : Outcome) (now : Instant) :
    serving.Allows (w.settle m outcome now) fun result φ =>
      φ = serving ∧ result.1.status.transition? = some result.2.event := by
  unfold Worker.settle
  split
  · exact ⟨rfl, rfl⟩
  · refine (allows_decideRetry w.policy m.priorAttempts now).bind fun decision φ hφ => ?_
    cases decision <;> exact ⟨hφ, rfl⟩

/-- After a transition is counted its entry is still to be counted, and after a failure nothing
is. -/
def Delivered (answer : Except PipelineError Transition) (φ : Phase) : Prop :=
  match answer with
  | .ok _ => φ = counted
  | .error _ => φ = away

theorem mem_transitions (t : Transition) : t.event ∈ Event.transitions := by
  cases t <;> simp [Transition.event, Event.transitions]

/-- Concluding counts the transition once it is stored, and nothing if it is not. -/
theorem allows_conclude {t : Transition} (h : m.status.transition? = some t.event) :
    serving.Allows (Worker.conclude m t) Delivered := by
  intro answer
  cases answer with
  | error e => exact ⟨_, .writeFailed m e, rfl⟩
  | ok _ =>
    refine ⟨_, .write h, fun _ => ?_⟩
    exact ⟨_, .count (mem_transitions t), rfl⟩

/-- An attempt counts its request and its transition. -/
theorem allows_attempt (r : DeliveryRequest) : serving.Allows (w.attempt m r) Delivered := by
  refine allows_signatureFor.bind fun signature φ hφ => ?_
  subst hφ
  refine (allows_exchange (r.sign signature)).bind fun report φ hφ => ?_
  subst hφ
  intro now
  refine ⟨_, .time now, fun answer => ⟨_, .record _ answer, ?_⟩⟩
  refine (allows_settle report.outcome now).bind fun result φ hφ => ?_
  obtain ⟨rfl, hstatus⟩ := hφ
  exact allows_conclude hstatus

/-- A rejection counts as one. -/
theorem allows_reject (reason : Unsendable) :
    serving.Allows (Worker.reject m reason) Delivered := by
  intro answer
  cases answer with
  | error e => exact ⟨_, .rejectFailed m.id e, rfl⟩
  | ok m' =>
    refine ⟨_, .reject m.id m', fun _ => ?_⟩
    exact ⟨_, .count (by decide), rfl⟩

/-- A delivery counts what becomes of its message (`deliver`). -/
theorem allows_deliver : serving.Allows (w.deliver m) Delivered := by
  rw [Worker.deliver]
  split
  · exact allows_attempt _
  · exact allows_reject _

/-- What was delivered counts as processed. -/
theorem allows_processMessage (h : m.status.isTerminal = false) :
    serving.Allows (w.processMessage m) fun _ φ => φ = away := by
  rw [Worker.processMessage, if_neg (by simp [h])]
  refine allows_deliver.bind fun answer φ hφ => ?_
  cases answer with
  | error e => exact hφ
  | ok t =>
    obtain rfl : φ = counted := hφ
    intro _
    exact ⟨_, .processed, rfl⟩

/-- An entry counts as processed if its message was delivered (`process`). -/
theorem allows_process {entry : String} {id : MessageId} (hid : MessageId.ofText? entry = some id) :
    serving.Allows (w.process entry) fun _ φ => φ = away := by
  rw [Worker.process, hid]
  intro answer
  cases answer with
  | error e =>
    refine ⟨_, .loadFailed id e, ?_⟩
    show Allows _ (if e.isNotFound then _ else _) _
    split <;> exact rfl
  | ok m =>
    cases hended : m.status.isTerminal with
    | false => exact ⟨_, .load id hended, allows_processMessage hended⟩
    -- a message that has come to its end is skipped, and not counted
    | true =>
      refine ⟨_, .skip id hended, ?_⟩
      show Allows _ (w.processMessage m) _
      rw [Worker.processMessage, if_pos hended]
      exact rfl

/-- A failure is counted by its category. -/
theorem allows_afterFailure (entry : String) (e : PipelineError) :
    away.Allows (w.afterFailure entry e) fun _ φ => φ = away := by
  intro _
  refine ⟨_, .failure _, ?_⟩
  show Allows _ (if e.isRetryable then _ else _) _
  split
  · intro answer
    refine ⟨_, .putBack entry answer, fun _ => ?_⟩
    exact ⟨_, .pause _, rfl⟩
  · exact rfl

/-- A worker's round owes nothing when it is over (`run`). -/
theorem allows_workerRound : away.Allows w.round fun _ φ => φ = away := by
  intro answer
  cases answer with
  | error e =>
    refine ⟨_, .popFailed e, fun _ => ?_⟩
    exact ⟨_, .pause _, rfl⟩
  | ok popped =>
    cases popped with
    -- an entry that names no message counts nothing
    | none => exact ⟨_, .popNothing, rfl⟩
    | some entry =>
      cases hid : MessageId.ofText? entry with
      | none =>
        refine ⟨_, .popUnreadable (by rw [hid]; rfl), ?_⟩
        show Allows _ (w.process entry >>= _) _
        rw [Worker.process, hid]
        exact rfl
      | some id =>
        refine ⟨_, .pop (by rw [hid]; rfl), (allows_process hid).bind fun answer φ hφ => ?_⟩
        subst hφ
        cases answer with
        | ok _ => exact rfl
        | error e => exact allows_afterFailure entry e

end Worker

-- Sweeps

/-- A sweep remembers what it has marked pending. -/
theorem allows_requeueOne (m : Message) (n : Nat) :
    (sweeping n).Allows (Sweep.requeueOne m) fun requeued φ =>
      φ = sweeping (n + requeued.toNat) := by
  rw [Sweep.requeueOne]
  split
  · exact rfl
  · rename_i due _
    intro pushed
    refine ⟨_, .sweepPush n m.id.text pushed, ?_⟩
    cases pushed with
    | error e => exact rfl
    | ok _ =>
      intro answer
      cases answer with
      | error e => exact ⟨_, .requeueFailed n m.id due e, rfl⟩
      | ok requeued => exact ⟨_, .requeue n m.id due requeued, rfl⟩

/-- So it does for all messages in turn. The induction is on the messages. -/
theorem allows_requeueAll (batch : List Message) (n : Nat) :
    (sweeping n).Allows (Sweep.requeueAll batch) fun requeued φ => φ = sweeping (n + requeued) := by
  induction batch generalizing n with
  | nil => exact rfl
  | cons m rest ih =>
    rw [Sweep.requeueAll]
    refine (allows_requeueOne m n).bind fun requeued φ hφ => ?_
    subst hφ
    refine (ih _).bind fun others φ hφ => ?_
    show φ = sweeping (n + (requeued.toNat + others))
    rw [hφ, Nat.add_assoc]

/-- A sweep counts what it has marked pending, all at once when it is over (`sweep`). -/
theorem allows_sweep (s : SweepSettings) :
    resting.Allows s.sweep fun _ φ => φ = resting ∨ φ = sweeping 0 := by
  intro now
  refine ⟨_, .begin now, fun answer => ?_⟩
  cases answer with
  | error e => exact ⟨_, .dueFailed _ _ e, .inl rfl⟩
  | ok batch =>
    refine ⟨_, .due _ _ batch, (allows_requeueAll batch 0).bind fun requeued φ hφ => ?_⟩
    rw [Nat.zero_add] at hφ
    subst hφ
    rw [Sweep.report]
    split
    · -- nothing was marked, so that nothing has to be counted
      rename_i hzero
      exact .inr (by rw [hzero])
    · intro _
      exact ⟨_, .report requeued, .inl rfl⟩

end Phase

namespace Role

/-- Where a round begins. -/
def phase : Role → Phase
  | worker _ => .away
  | sweeper _ | recovery _ | submission _ => .resting

/-- Where a round is over. -/
def Over : Role → Phase → Prop
  | worker _, φ => φ = .away
  | sweeper _, φ | recovery _, φ | submission _, φ => φ = .resting ∨ φ = .sweeping 0

/-- A round begins with nothing owed. -/
theorem phase_eq (role : Role) : role.phase = .away ∨ role.phase = .resting := by
  cases role with
  | worker => exact .inl rfl
  | sweeper | recovery | submission => exact .inr rfl

/-- Every round of a worker or a sweeper keeps to the phases. -/
theorem allows_round {role : Role} (h : role.repeats = true) :
    role.phase.Allows role.round fun _ => role.Over := by
  cases role with
  | worker w => exact Phase.allows_workerRound
  | sweeper s => exact (Phase.allows_sweep s).bind fun _ _ hφ => hφ
  | recovery | submission => cases h

end Role

/-- Every call can be answered. -/
theorem Call.nonempty_answer (c : Call) : Nonempty c.Answer := by
  cases c with
  | now => exact ⟨(default : Instant)⟩
  | sleep | note => exact ⟨()⟩
  | send => exact ⟨⟨.transportError "", .zero⟩⟩
  | drawOffset => exact ⟨(0 : Float)⟩
  | push | pop | queueLength | queueContains => exact ⟨.error (.queue "")⟩
  | createMessage | findMessage | updateMessageStatus | updateMessage | findRetryReady | findPending
  | requeueMessage | recordAttempt | findAttempts | findSigningSecret =>
    exact ⟨.error (.database "")⟩

/-- Where a round is over nothing is owed. -/
theorem Role.debt_of_over {role : Role} {φ : Phase} (h : role.Over φ) : φ.debt = .nothing := by
  cases role with
  | worker =>
    obtain rfl : φ = .away := h
    rfl
  | sweeper | recovery | submission => rcases h with rfl | rfl <;> rfl

namespace Scene

/-- An actor that makes no further call in its round owes nothing. -/
theorem debt_of_next? {s : Scene} {i : Nat} {a : Actor} {φ : Phase} (hactor : s.actors[i]? = some a)
    (hallows : φ.Allows a.task fun _ => a.role.Over) (hnext : s.next? i = none) :
    φ.debt = .nothing := by
  rw [next?, hactor] at hnext
  cases htask : a.task with
  | done u =>
    rw [htask] at hallows
    exact Role.debt_of_over hallows
  | breakdown =>
    rw [htask] at hallows
    exact hallows
  | call c next =>
    rw [Option.bind_some, htask] at hnext
    cases hnext

/-- An actor's next call is one that its phase allows. -/
theorem next_of_next? {s : Scene} {i : Nat} {a : Actor} {φ : Phase} {c : Call}
    (hactor : s.actors[i]? = some a) (hallows : φ.Allows a.task fun _ => a.role.Over)
    (hnext : s.next? i = some c) (answer : c.Answer) : ∃ φ', φ.Next c answer φ' := by
  rw [next?, hactor] at hnext
  obtain ⟨next, htask⟩ := Task.call?_eq_some hnext
  rw [htask] at hallows
  obtain ⟨φ', hmove, -⟩ := hallows answer
  exact ⟨φ', hmove⟩

end Scene

end WebhookDelivery
