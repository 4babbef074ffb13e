import WebhookDelivery.Proofs.Lifecycle

/-!
# The calls since a query

A sweep asks which messages are due, and goes through what it is given one by one, while workers are
at work. What has become of a message since is told from the calls made since: nobody has written
it, or who wrote it last has parked it for the due time that it had, or it has changed.

* `Stands` — the stored message waits for that due time exactly in the first two cases.
* `Stands.step` — every call but the one that marks the message keeps it so.
-/

namespace WebhookDelivery

-- ---------------------------------------------------------------------------
-- What the calls since the query say
-- ---------------------------------------------------------------------------

/-- The time for which a call asks which messages are due. -/
def Call.asksDue? : Call → Option Instant
  | .findRetryReady _ asked => some asked
  | _ => none

/-- What the clock has shown to who has read it. -/
def Moment.reading? : Moment → Option Instant
  | ⟨_, .now, now⟩ => some now
  | _ => none

/-- Whether a call parks a message until a due time. -/
def Call.Parks (due : Instant) : (c : Call) → c.Answer → MessageId → Prop
  | .updateMessage m, .ok _, id => m.id = id ∧ m.status = .retry ∧ m.nextRetryAt = some due
  | _, _, _ => False

/-- Whether a call is one of actor 0, who is to be the sweeper, for the messages that are due. -/
def isQuery (p : Nat × Moment) : Bool :=
  p.1 == 0 && p.2.call.asksDue?.isSome

/-- Of the calls made, the latest first, those since the last query. -/
def sinceQuery (h : List (Nat × Moment)) : List (Nat × Moment) :=
  h.takeWhile fun p => !isQuery p

/-- Of the calls made, the latest first, the last query and those before. -/
def untilQuery (h : List (Nat × Moment)) : List (Nat × Moment) :=
  h.dropWhile fun p => !isQuery p

/-- The time for which the last query has asked. -/
def askedAt? (h : List (Nat × Moment)) : Option Instant :=
  (untilQuery h).head?.bind fun p => p.2.call.asksDue?

/-- Whether the last query was given this message, which then waited for a due time that had come. -/
def FoundDue (id : MessageId) (due : Instant) (h : List (Nat × Moment)) : Prop :=
  ∃ w limit now batch earlier,
    untilQuery h = (0, ⟨w, .findRetryReady limit now, .ok batch⟩) :: earlier ∧ due ≤ now
      ∧ ∃ m ∈ batch, m.id = id ∧ m.status = .retry ∧ m.nextRetryAt = some due

/-- Whether nobody has written a message in these calls. -/
def Untouched (id : MessageId) (h : List (Nat × Moment)) : Prop :=
  ∀ p ∈ h, ¬ p.2.call.Writes p.2.answer id

/-- Whether the last who wrote a message in these calls, the latest first, has parked it until a due
time. -/
def ParkedLast (id : MessageId) (due : Instant) : List (Nat × Moment) → Prop
  | [] => False
  | (_, x) :: earlier => x.call.Parks due x.answer id
    ∨ ¬ x.call.Writes x.answer id ∧ ParkedLast id due earlier

/-- What calls before which a message was due say of it: it waits for that due time exactly if
nobody has written it, or the last who did has parked it until then again. -/
def Stands (k : Ledger) (id : MessageId) (due : Instant) (h : List (Nat × Moment)) : Prop :=
  ∃ n, k.get? id = some n
    ∧ (n.status = .retry ∧ n.nextRetryAt = some due ↔ Untouched id h ∨ ParkedLast id due h)

section Calls

variable {id : MessageId} {due : Instant} {h : List (Nat × Moment)} {i : Nat} {x : Moment}

/-- To park a message is to write it. -/
theorem Call.Parks.writes {c : Call} {answer : c.Answer} (hparks : c.Parks due answer id) :
    c.Writes answer id := by
  cases c with
  | updateMessage m =>
    cases answer with
    | error e => exact hparks.elim
    | ok u => exact hparks.1
  | _ => exact hparks.elim

theorem isQuery_of_ne (hi : i ≠ 0) : isQuery (i, x) = false := by
  simp [isQuery, hi]

/-- A call that is no query is one more since the last query. -/
theorem sinceQuery_cons (hquery : isQuery (i, x) = false) :
    sinceQuery ((i, x) :: h) = (i, x) :: sinceQuery h :=
  List.takeWhile_cons_of_pos (by simp [hquery])

theorem sinceQuery_query (hquery : isQuery (i, x) = true) : sinceQuery ((i, x) :: h) = [] :=
  List.takeWhile_cons_of_neg (by simp [hquery])

theorem untilQuery_cons (hquery : isQuery (i, x) = false) :
    untilQuery ((i, x) :: h) = untilQuery h :=
  List.dropWhile_cons_of_pos (by simp [hquery])

theorem untilQuery_query (hquery : isQuery (i, x) = true) :
    untilQuery ((i, x) :: h) = (i, x) :: h :=
  List.dropWhile_cons_of_neg (by simp [hquery])

/-- What the last query was given stays so until the next query. -/
theorem FoundDue.cons (hfound : FoundDue id due h) (hquery : isQuery (i, x) = false) :
    FoundDue id due ((i, x) :: h) := by
  rw [FoundDue, untilQuery_cons hquery]
  exact hfound

theorem untouched_cons :
    Untouched id ((i, x) :: h) ↔ ¬ x.call.Writes x.answer id ∧ Untouched id h := by
  simp [Untouched]

/-- A call that does not write a message says nothing new of it. -/
theorem stands_cons_of_not_writes (hwrites : ¬ x.call.Writes x.answer id) :
    Untouched id ((i, x) :: h) ∨ ParkedLast id due ((i, x) :: h)
      ↔ Untouched id h ∨ ParkedLast id due h := by
  rw [untouched_cons, ParkedLast]
  have hparks : ¬ x.call.Parks due x.answer id := fun hparks => hwrites hparks.writes
  simp [hwrites, hparks]

/-- A call that writes a message says all. -/
theorem stands_cons_of_writes (hwrites : x.call.Writes x.answer id) :
    Untouched id ((i, x) :: h) ∨ ParkedLast id due ((i, x) :: h)
      ↔ x.call.Parks due x.answer id := by
  rw [untouched_cons, ParkedLast]
  simp [hwrites]

/-- The message that a call has written, other than putting it back for a retry. -/
def Moment.written? : Moment → Option MessageId
  | ⟨_, .updateMessage m, .ok _⟩ => some m.id
  | ⟨_, .updateMessageStatus id _, .ok _⟩ => some id
  | _ => none

/-- A message is written by the call that has written it. -/
theorem Moment.writes_iff : x.call.Writes x.answer id ↔ x.written? = some id := by
  obtain ⟨w, c, answer⟩ := x
  cases c with
  | updateMessage m => cases answer <;> simp [Call.Writes, written?]
  | updateMessageStatus id' status => cases answer <;> simp [Call.Writes, written?]
  | _ => simp [Call.Writes, written?]

instance : Decidable (Untouched id h) :=
  decidable_of_iff (∀ p ∈ h, p.2.written? ≠ some id)
    (forall₂_congr fun _ _ => not_congr Moment.writes_iff.symm)

/-- A message that was parked last was parked by some call. -/
theorem ParkedLast.exists_parks (hparked : ParkedLast id due h) :
    ∃ i x, (i, x) ∈ h ∧ x.call.Parks due x.answer id := by
  induction h with
  | nil => exact hparked.elim
  | cons p earlier ih =>
    obtain ⟨i, x⟩ := p
    rcases hparked with hparks | ⟨-, hparked⟩
    · exact ⟨i, x, List.mem_cons_self, hparks⟩
    · obtain ⟨j, y, hy, hparks⟩ := ih hparked
      exact ⟨j, y, List.mem_cons_of_mem _ hy, hparks⟩

end Calls

-- ---------------------------------------------------------------------------
-- What a call does to a message
-- ---------------------------------------------------------------------------

section Step

attribute [local irreducible] MessageId.text

variable {ids : Nat → MessageId} {k k' : Ledger} {role : Role} {σ σ' : Stage} {c : Call}
  {answer : c.Answer} {id : MessageId} {due : Instant} {h : List (Nat × Moment)}

/-- Whether a call marks a message pending. -/
def Call.Requeues : (c : Call) → c.Answer → MessageId → Prop
  | .requeueMessage id' _, .ok true, id => id' = id
  | _, _, _ => False

/-- A quiet call writes no message. -/
theorem Call.Quiet.not_writes (hquiet : c.Quiet answer) : ¬ c.Writes answer id := by
  intro hwrites
  cases c with
  | updateMessage m =>
    obtain ⟨e, rfl⟩ := hquiet
    exact hwrites
  | updateMessageStatus id' status =>
    obtain ⟨e, rfl⟩ := hquiet
    exact hwrites
  | _ => exact hwrites

/-- How things stand after a message was put: with itself, and with the others as before. -/
theorem Stands.put {m : Message} {h' : List (Nat × Moment)} (hstands : Stands k id due h)
    (hitself : m.id = id → (m.status = .retry ∧ m.nextRetryAt = some due
      ↔ Untouched id h' ∨ ParkedLast id due h'))
    (hothers : m.id ≠ id → (Untouched id h' ∨ ParkedLast id due h'
      ↔ Untouched id h ∨ ParkedLast id due h)) : Stands (k.put m) id due h' := by
  by_cases heq : m.id = id
  · exact ⟨m, by rw [← heq]; exact Ledger.get?_put_self k m, hitself heq⟩
  · obtain ⟨stored, hstored, hiff⟩ := hstands
    exact ⟨stored, (Ledger.get?_put_of_ne k heq).trans hstored, hiff.trans (hothers heq).symm⟩

/-- How things stand with a message after a call of a worker or a sweeper that does not mark it. -/
theorem Stands.step {i : Nat} {w : World} (hnext : Stage.Next role σ c answer σ')
    (heffect : Effect ids k c answer k') (hrole : ∀ d, role ≠ .submission d)
    (hrequeues : ¬ c.Requeues answer id) (hstands : Stands k id due h) :
    Stands k' id due ((i, ⟨w, c, answer⟩) :: h) := by
  -- a call that does not write the message leaves all as it is
  have hunwritten : ¬ c.Writes answer id →
      (Untouched id ((i, ⟨w, c, answer⟩) :: h) ∨ ParkedLast id due ((i, ⟨w, c, answer⟩) :: h)
        ↔ Untouched id h ∨ ParkedLast id due h) :=
    fun hwrites => stands_cons_of_not_writes hwrites
  have hwritten : c.Writes answer id →
      (Untouched id ((i, ⟨w, c, answer⟩) :: h) ∨ ParkedLast id due ((i, ⟨w, c, answer⟩) :: h)
        ↔ c.Parks due answer id) :=
    fun hwrites => stands_cons_of_writes hwrites
  have hsame : ¬ c.Writes answer id → Stands k id due ((i, ⟨w, c, answer⟩) :: h) := by
    intro hwrites
    obtain ⟨n, hn, hiff⟩ := hstands
    exact ⟨n, hn, hiff.trans (hunwritten hwrites).symm⟩
  -- of the calls that write, only a write-back can park the message
  cases heffect with
  | quiet hquiet => exact hsame hquiet.not_writes
  | find | due | pending | keep | record | push | pop | contains =>
    exact hsame fun hwrites => hwrites
  | create =>
    cases hnext
    exact absurd rfl (hrole _)
  | @setStatus id' status n m now hget hset =>
    have hid : m.id = id' := (Message.id_of_setStatus hset).trans (Ledger.id_of_get? hget)
    refine hstands.put (fun heq => ?_) fun hne => hunwritten fun hwrites => hne (hid.trans hwrites)
    cases hnext with
    | reject =>
      rw [hwritten (hid.symm.trans heq), Message.eq_of_setStatus hset]
      exact ⟨by rintro ⟨⟨⟩, -⟩, fun hparks => hparks.elim⟩
  | @update n m hget =>
    have hid : n.id = m.id := Ledger.id_of_get? hget
    refine hstands.put (fun heq => ?_) fun hne => hunwritten fun hwrites => hne (hid.trans hwrites)
    have hwrites : m.id = id := hid.symm.trans heq
    rw [hwritten hwrites]
    exact ⟨fun hwaits => ⟨hwrites, hwaits⟩, fun hparks => hparks.2⟩
  | requeue now hget =>
    refine hstands.put (fun heq => ?_) fun _ => hunwritten fun hwrites => hwrites
    exact absurd ((Ledger.id_of_get? hget).symm.trans heq) hrequeues

end Step

end WebhookDelivery
