import WebhookDelivery.Pipeline.Worker

/-!
# The calls of a delivery

What a task can do to the world is up to the calls that it makes. For every part of a delivery but
the exchange it is said once which calls these are; whatever is so of all of them is so of the task,
whichever way it goes.

* `Task.Makes.bind` — the calls of one task after another.
* `Worker.Settles` — what an attempt may make of its message.
* `Worker.makes_settle`, `Worker.makes_afterExchange` — what is done after an exchange.
-/

namespace WebhookDelivery

namespace Task

variable {α β : Type} {P : Call → Prop} {Q : α → Prop} {R : β → Prop} {t : Task α}
  {f : α → Task β}

/-- Whether a task makes such calls only and ends, if it ends, with such a value. -/
def Makes {α : Type} (P : Call → Prop) (Q : α → Prop) : Task α → Prop
  | done a => Q a
  | breakdown => True
  | call c next => P c ∧ ∀ answer, (next answer).Makes P Q

/-- A single call. -/
theorem makes_perform {c : Call} (hc : P c) : (perform c).Makes P fun _ => True :=
  ⟨hc, fun _ => trivial⟩

/-- Tasks in a row: the second goes on from what the first ends with. -/
theorem Makes.bind (ht : t.Makes P Q) (hf : ∀ a, Q a → (f a).Makes P R) :
    (t >>= f).Makes P R := by
  induction t with
  | done a => exact hf a ht
  | breakdown => trivial
  | call c next ih => exact ⟨ht.1, fun answer => ih answer (ht.2 answer)⟩

end Task

-- ---------------------------------------------------------------------------
-- What an attempt comes to
-- ---------------------------------------------------------------------------

/-- What an attempt may make of its message. -/
inductive Worker.Settles (w : Worker) (m : Message) (now : Instant) : Outcome → Message → Prop where
  | delivered {outcome : Outcome} (h : outcome.isSuccess = true) :
    Settles w m now outcome (m.markDelivered now)
  | failed {outcome : Outcome} (h : outcome.isSuccess = false) {draw : Float → Float}
    {decision : Retry.Decision}
    (hdecide : w.policy.decide draw m.priorAttempts now = .ok decision) :
    Settles w m now outcome (m.failed decision now).1

theorem Message.id_failed (m : Message) (decision : Retry.Decision) (now : Instant) :
    (m.failed decision now).1.id = m.id := by
  cases decision <;> rfl

namespace Worker

section Settles

variable {w : Worker} {m m' : Message} {now : Instant} {outcome : Outcome}

/-- Whatever an attempt makes of a message, its identifier stays. -/
theorem Settles.id_eq (h : w.Settles m now outcome m') : m'.id = m.id := by
  cases h with
  | delivered => rfl
  | failed => exact m.id_failed _ now

/-- A message is delivered exactly if the request has succeeded. -/
theorem Settles.success_iff (h : w.Settles m now outcome m') :
    m'.status = .success ↔ outcome.isSuccess = true := by
  cases h with
  | delivered hsuccess => exact ⟨fun _ => hsuccess, fun _ => rfl⟩
  | @failed hfailed _ decision =>
    rw [hfailed]
    cases decision with
    | retry => exact ⟨by rintro ⟨⟩, by rintro ⟨⟩⟩
    | giveUp => exact ⟨by rintro ⟨⟩, by rintro ⟨⟩⟩

end Settles

-- ---------------------------------------------------------------------------
-- The parts of a delivery
-- ---------------------------------------------------------------------------

variable {P : Call → Prop} {m : Message}

/-- A signature takes a look at the secret and at the clock. -/
theorem makes_signatureFor (hlookup : P (.findSigningSecret m.org)) (hnow : P .now) :
    (signatureFor m).Makes P fun _ => True := by
  refine ⟨hlookup, fun answer => ?_⟩
  cases answer with
  | error e => trivial
  | ok secret => exact ⟨hnow, fun now => trivial⟩

/-- An offset takes a draw, if it takes anything. -/
theorem makes_drawOffset (hdraw : ∀ range, P (.drawOffset range)) (p : Retry.Policy)
    (prior : Nat) : (drawOffset p prior).Makes P fun _ => True := by
  rw [drawOffset]
  split
  · exact Task.makes_perform (hdraw _)
  · trivial

/-- What is so of a message after a success, and of one after every decision on a failure, is so of
what an attempt is settled with. -/
theorem makes_settle_of (hdraw : ∀ range, P (.drawOffset range)) {w : Worker} {m : Message}
    {outcome : Outcome} {now : Instant} {Q : Message × Transition → Prop}
    (hdelivered : ∀ code, outcome.isSuccess = true → Q (m.delivered code now))
    (hfailed : ∀ draw decision, outcome.isSuccess = false →
      w.policy.decide draw m.priorAttempts now = .ok decision → Q (m.failed decision now)) :
    (w.settle m outcome now).Makes P Q := by
  unfold settle
  split
  · exact hdelivered _ rfl
  · rename_i hother
    -- the first case has taken all successes
    have hsuccess : outcome.isSuccess = false := by
      cases outcome with
      | success code body => exact absurd rfl (hother code body)
      | httpError | transportError => rfl
    have hdecide : (decideRetry w.policy m.priorAttempts now).Makes P fun decision =>
        Q (m.failed decision now) := by
      refine (makes_drawOffset hdraw _ _).bind fun offset _ => ?_
      split
      · rename_i hdecision
        exact hfailed _ _ hsuccess hdecision
      · trivial
    exact hdecide.bind fun decision hsettles => hsettles

/-- Settling an attempt takes a draw at most, and ends with what an attempt may make of its message.
-/
theorem makes_settle (hdraw : ∀ range, P (.drawOffset range)) (w : Worker) (m : Message)
    (outcome : Outcome) (now : Instant) :
    (w.settle m outcome now).Makes P fun result => w.Settles m now outcome result.1 :=
  makes_settle_of hdraw (fun _ hsuccess => .delivered hsuccess)
    fun _ _ hfailed hdecide => .failed hfailed hdecide

/-- Concluding takes a write and a note. -/
theorem makes_conclude {t : Transition} (hupdate : P (.updateMessage m))
    (hnote : P (.note t.event)) : (conclude m t).Makes P fun _ => True := by
  refine ⟨hupdate, fun answer => ?_⟩
  cases answer with
  | error e => trivial
  | ok _ => exact ⟨hnote, fun _ => trivial⟩

/-- What an attempt does when its request is over. -/
def afterExchange (worker : Worker) (m : Message) (report : Report) :
    Task (Except PipelineError Transition) := do
  let now ← Task.perform .now
  let _ ← Task.perform (.recordAttempt (m.attempt report now))
  let (m, t) ← worker.settle m report.outcome now
  conclude m t

/-- What an attempt does when its request is over: the clock, the record, a draw, a write and a
note. -/
theorem makes_afterExchange {w : Worker} {report : Report} (hnow : P .now)
    (hrecord : ∀ now, P (.recordAttempt (m.attempt report now)))
    (hdraw : ∀ range, P (.drawOffset range))
    (hupdate : ∀ now m', w.Settles m now report.outcome m' → P (.updateMessage m'))
    (hnote : ∀ event, P (.note event)) : (w.afterExchange m report).Makes P fun _ => True := by
  refine (Task.makes_perform hnow).bind fun now _ => ?_
  refine (Task.makes_perform (hrecord now)).bind fun _ _ => ?_
  refine (makes_settle hdraw w m report.outcome now).bind fun result hsettles => ?_
  exact makes_conclude (hupdate now result.1 hsettles) (hnote _)

/-- Rejecting takes a change of status and a note. -/
theorem makes_reject (hupdate : P (.updateMessageStatus m.id .failed))
    (hnote : P (.note .rejected)) (reason : Unsendable) :
    (reject m reason).Makes P fun _ => True := by
  refine ⟨hupdate, fun answer => ?_⟩
  cases answer with
  | error e => trivial
  | ok _ => exact ⟨hnote, fun _ => trivial⟩

end Worker

end WebhookDelivery
