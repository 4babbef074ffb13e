import WebhookDelivery.Proofs.StoreInvariant

/-!
# Any history of a message

A message that has been made of a draft may be changed in five ways, in any order and with any
times. Four of them are always carried out. A plain change of status is refused if it would enter
the retry status without a due time; what it looks at is the due time, but as a due time is there
exactly for the messages that wait for a retry, this is as good as looking at the status.

So the one invariant, that due time and status are in accord, is what says when a change is refused.
What each change does is in `Change.Made`, one case for each of them, and a history is one after the
other.

* `Change.made` — one change that is not refused.
* `Message.lawful_after` — any number of changes.
* `Message.history_lawful` — any number of changes to a fresh message.
-/

namespace WebhookDelivery

/-- What may be asked of a message. -/
inductive Change where
  | markDelivered (now : Instant)
  | scheduleRetry (due now : Instant)
  | markDeadLettered (now : Instant)
  | defer (due now : Instant)
  | setStatus (status : Status) (now : Instant)
  deriving DecidableEq

namespace Change

/-- When it is asked for. -/
def now : Change → Instant
  | markDelivered now => now
  | scheduleRetry _ now => now
  | markDeadLettered now => now
  | defer _ now => now
  | setStatus _ now => now

/-- Whether an attempt is counted. -/
def counts : Change → Bool
  | markDelivered _ | scheduleRetry _ _ => true
  | markDeadLettered _ | defer _ _ | setStatus _ _ => false

/-- What becomes of a message, unless the change is refused. -/
def apply (m : Message) : Change → Except StoreError Message
  | markDelivered now => .ok (m.markDelivered now)
  | scheduleRetry due now => .ok (m.scheduleRetry due now)
  | markDeadLettered now => .ok (m.markDeadLettered now)
  | defer due now => .ok (m.defer due now)
  | setStatus status now => m.setStatus status now

end Change

namespace Message

/-- A message after some changes. One that is refused leaves the message as it is. -/
def after (m : Message) : List Change → Message
  | [] => m
  | c :: rest =>
    match c.apply m with
    | .ok m' => m'.after rest
    | .error _ => m.after rest

/-- The changes that are not refused. -/
def accepted (m : Message) : List Change → List Change
  | [] => []
  | c :: rest =>
    match c.apply m with
    | .ok m' => c :: m'.accepted rest
    | .error _ => m.accepted rest

end Message

-- ---------------------------------------------------------------------------
-- One change
-- ---------------------------------------------------------------------------

namespace Change

variable {m m' : Message} {c : Change}

/-- What a change that is not refused makes of a message. -/
structure Made (c : Change) (m m' : Message) : Prop where
  consistent : m'.IsConsistent
  same : m.SameWebhook m'
  count : m'.attemptCount.value
    = min (m.attemptCount.value + if c.counts then 1 else 0) 2147483647
  updatedAt : m'.updatedAt = c.now

/-- The case of a change that counts no attempt. -/
theorem Made.of_uncounted (huncounted : c.counts = false)
    (hcount : m'.attemptCount = m.attemptCount) (hconsistent : m'.IsConsistent)
    (hsame : m.SameWebhook m') (hupdated : m'.updatedAt = c.now) : c.Made m m' where
  consistent := hconsistent
  same := hsame
  count := by
    have hle := m.attemptCount.value_le
    rw [hcount, huncounted, if_neg Bool.false_ne_true]
    omega
  updatedAt := hupdated

/-- The case of a change that counts one. -/
theorem Made.of_counted (hcounted : c.counts = true)
    (hcount : m'.attemptCount = m.nextAttemptNumber) (hconsistent : m'.IsConsistent)
    (hsame : m.SameWebhook m') (hupdated : m'.updatedAt = c.now) : c.Made m m' where
  consistent := hconsistent
  same := hsame
  count := by
    rw [hcount, hcounted, if_pos rfl]
    exact m.attemptCount.value_next
  updatedAt := hupdated

/-- A change that is accepted makes what it should. -/
theorem made (h : c.apply m = .ok m') : c.Made m m' := by
  cases c with
  | markDelivered now =>
    obtain rfl := Except.ok.inj h
    exact .of_counted rfl rfl (by simp [Message.IsConsistent, Message.markDelivered])
      ⟨rfl, rfl, rfl, rfl, rfl, rfl⟩ rfl
  | scheduleRetry due now =>
    obtain rfl := Except.ok.inj h
    exact .of_counted rfl rfl (by simp [Message.IsConsistent, Message.scheduleRetry])
      ⟨rfl, rfl, rfl, rfl, rfl, rfl⟩ rfl
  | markDeadLettered now =>
    obtain rfl := Except.ok.inj h
    exact .of_uncounted rfl rfl (by simp [Message.IsConsistent, Message.markDeadLettered])
      ⟨rfl, rfl, rfl, rfl, rfl, rfl⟩ rfl
  | defer due now =>
    obtain rfl := Except.ok.inj h
    exact .of_uncounted rfl rfl (by simp [Message.IsConsistent, Message.defer])
      ⟨rfl, rfl, rfl, rfl, rfl, rfl⟩ rfl
  | setStatus status now =>
    have hconsistent : m'.IsConsistent := Message.isConsistent_of_setStatus h
    obtain rfl := Message.eq_of_setStatus h
    exact .of_uncounted rfl rfl hconsistent ⟨rfl, rfl, rfl, rfl, rfl, rfl⟩ rfl

/-- A change that counts an attempt is never refused. -/
theorem uncounted_of_refused {e : StoreError} (h : c.apply m = .error e) : c.counts = false := by
  cases c with
  | setStatus => rfl
  | markDelivered | scheduleRetry | markDeadLettered | defer => cases h

end Change

-- ---------------------------------------------------------------------------
-- Any number of changes
-- ---------------------------------------------------------------------------

namespace Message

variable {m : Message} {calls : List Change}

theorem after_cons_ok {c : Change} {m' : Message} (h : c.apply m = .ok m') :
    m.after (c :: calls) = m'.after calls ∧ m.accepted (c :: calls) = c :: m'.accepted calls := by
  rw [after, accepted, h]
  exact ⟨rfl, rfl⟩

theorem after_cons_error {c : Change} {e : StoreError} (h : c.apply m = .error e) :
    m.after (c :: calls) = m.after calls ∧ m.accepted (c :: calls) = m.accepted calls := by
  rw [after, accepted, h]
  exact ⟨rfl, rfl⟩

/-- Changes in two batches are the changes in one. -/
theorem after_append (m : Message) (calls more : List Change) :
    m.after (calls ++ more) = (m.after calls).after more := by
  induction calls generalizing m with
  | nil => rfl
  | cons c calls ih =>
    rw [List.cons_append]
    cases h : c.apply m with
    | ok m' => rw [(after_cons_ok h).1, (after_cons_ok h).1, ih]
    | error e => rw [(after_cons_error h).1, (after_cons_error h).1, ih]

/-- What some changes, asked for one after the other, make of a message. -/
structure Lawful (m : Message) (calls : List Change) (m' : Message) : Prop where
  consistent : m'.IsConsistent
  same : m.SameWebhook m'
  count : m'.attemptCount.value
    = min (m.attemptCount.value + calls.countP Change.counts) 2147483647
  updatedAt : m'.updatedAt = ((m.accepted calls).getLast?.map Change.now).getD m.updatedAt

/-- Whatever is asked for, a consistent message goes through a lawful history. -/
theorem lawful_after (hconsistent : m.IsConsistent) (calls : List Change) :
    m.Lawful calls (m.after calls) := by
  -- on the changes, each of which was accepted or refused
  induction calls generalizing m with
  | nil =>
    have hle := m.attemptCount.value_le
    refine ⟨hconsistent, .refl m, ?_, rfl⟩
    rw [after, List.countP_nil]
    omega
  | cons c calls ih =>
    cases h : c.apply m with
    | ok m' =>
      have hmade := c.made h
      have hrest := ih hmade.consistent
      rw [(after_cons_ok h).1]
      refine ⟨hrest.consistent, hmade.same.trans hrest.same, ?_, ?_⟩
      · rw [hrest.count, hmade.count, List.countP_cons]
        split <;> omega
      · rw [hrest.updatedAt, hmade.updatedAt, (after_cons_ok h).2, List.getLast?_cons,
          Option.map_some, Option.getD_some, Option.getD_map]
    | error e =>
      have hrest := ih hconsistent
      rw [(after_cons_error h).1]
      refine ⟨hrest.consistent, hrest.same, ?_, ?_⟩
      · rw [hrest.count, List.countP_cons_of_neg (by simp [Change.uncounted_of_refused h])]
      · rw [hrest.updatedAt, (after_cons_error h).2]

/-- When a plain change of status is refused, of a message in order. -/
theorem setStatus_refused_iff (hconsistent : m.IsConsistent) (status : Status) (now : Instant) :
    (∃ e, m.setStatus status now = .error e) ↔ status = .retry ∧ m.status ≠ .retry := by
  have haccord : m.nextRetryAt.isSome = true ↔ m.status = .retry := hconsistent
  have hdue : m.nextRetryAt = none ↔ m.status ≠ .retry := by
    rw [Ne, ← haccord, Option.not_isSome_iff_eq_none]
  rw [setStatus, ← hdue]
  split
  · rename_i hrefused
    exact ⟨fun _ => hrefused, fun _ => ⟨_, rfl⟩⟩
  · rename_i hallowed
    exact ⟨by rintro ⟨_, ⟨⟩⟩, fun hrefused => absurd hrefused hallowed⟩

/-- A fresh message after any changes, and so between any two of them: a due time is there exactly
if the message waits for a retry; every delivery and every scheduled retry is counted, up to the
highest count; it is still the webhook of the draft; it was updated by the last change that was not
refused; and the only change that would be refused is to enter the retry status from another, which
leaves it as it is. -/
theorem history_lawful (id : MessageId) (draft : Draft) (start : Instant) (calls : List Change) :
    let first := ofDraft id draft start
    let m := first.after calls
    (m.nextRetryAt.isSome = true ↔ m.status = .retry)
    ∧ m.attemptCount.value = min (calls.countP Change.counts : Int) 2147483647
    ∧ m.id = id ∧ m.org = draft.org ∧ m.method = draft.method ∧ m.url = draft.url
    ∧ m.payload = draft.payload ∧ m.createdAt = start
    ∧ m.updatedAt = ((first.accepted calls).getLast?.map Change.now).getD start
    ∧ ∀ status now,
      ((∃ e, m.setStatus status now = .error e) ↔ status = .retry ∧ m.status ≠ .retry)
      ∧ ∀ e, m.setStatus status now = .error e →
        first.after (calls ++ [.setStatus status now]) = m := by
  intro first m
  have hlawful : first.Lawful calls m := lawful_after (isConsistent_ofDraft id draft start) calls
  have hsame := hlawful.same
  refine ⟨hlawful.consistent, ?_, hsame.id, hsame.org, hsame.method, hsame.url, hsame.payload,
    hsame.createdAt, hlawful.updatedAt, fun status now => ⟨?_, fun e hrefused => ?_⟩⟩
  · rw [hlawful.count]
    exact congrArg (min · _) (Int.zero_add _)
  · exact setStatus_refused_iff hlawful.consistent status now
  · -- a change that is refused leaves no trace
    have hlast : (Change.setStatus status now).apply m = .error e := hrefused
    rw [after_append]
    exact (after_cons_error hlast).1.trans rfl

end Message

end WebhookDelivery
