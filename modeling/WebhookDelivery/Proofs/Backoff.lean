import WebhookDelivery.Proofs.Ownership

/-!
# Backoff

A message that waits for a retry is not to be attempted before it is due. A worker does not look at
the due time: it attempts whatever its entry names, unless that has come to its end. What keeps the
backoff is that a waiting message has no entry, and this is lost when a sweep pushes a message and
then fails to mark it: the message waits on, its entry is in the queue, and the next sweep adds a
second one. The first of the two entries is used for an attempt that is due, and the second for one
that is not.

* `Sequence.pendingOrSpoiled` — in a sequence of rounds, a request goes out for a pending message, or
  a sweep has failed to mark that message before.
* `Worker.exists_early_send` — a worker that takes the entry of a message that waits attempts it
  early.
* `backoff_respected_or_spoiled` — both together, with a run on which the backoff is broken.
-/

namespace WebhookDelivery

/-- Whether the backoff allows an attempt on a message when the clock shows this. -/
def Message.mayBeAttempted (m : Message) (now : Option Instant) : Prop :=
  m.status = .pending ∨ ∃ t, now = some t ∧ m.isRetryDue t = true

/-- A request goes out only for a stored message that the backoff allows to attempt. -/
def Moment.RespectsBackoff (x : Moment) : Prop :=
  ∀ client r, x.call = .send client r →
    ∃ m, x.world.store.get? r.messageId = some m ∧ m.mayBeAttempted x.world.clock.utc?

/-- Whether the call is a sweep's failure to mark a message pending. -/
def Moment.Spoils (x : Moment) (id : MessageId) : Prop :=
  x.call.Spoils x.answer id

-- ---------------------------------------------------------------------------
-- Sequences
-- ---------------------------------------------------------------------------

/-- Whether the requests in a history went out for pending messages, or for messages that a sweep
had failed to mark. -/
def PendingOrSpoiled : List Moment → Prop
  | [] => True
  | x :: earlier => (∀ client r, x.call = .send client r →
      (∃ m, x.world.store.get? r.messageId = some m ∧ m.status = .pending)
      ∨ ∃ y ∈ earlier, y.Spoils r.messageId)
    ∧ PendingOrSpoiled earlier

/-- A round that is alone sends only what is pending, unless a sweep has failed to mark it. -/
theorem Owned.pending_of_send {ids : Nat → MessageId} {bound : Nat} {spoiled : MessageId → Prop}
    {k : Ledger} {role : Role} {σ σ' : Stage} {client : Client} {r : DeliveryRequest}
    {report : Report} (h : Owned ids bound spoiled k [σ])
    (hnext : Stage.Next role σ (.send client r) report σ') (hfair : ¬ spoiled r.messageId) :
    ∃ m, k.get? r.messageId = some m ∧ m.status = .pending := by
  cases hnext with
  | @send w entry m r₀ hr signature =>
    have hid : r₀.messageId = m.id := DeliveryRequest.messageId_of_ofMessage hr
    rw [DeliveryRequest.sign, hid] at hfair ⊢
    have hpos : 0 < handles k [.loaded entry m] m.id := by simp [handles, Stage.hand]
    obtain ⟨n, hn, hstatus⟩ := (h.fair m.id hfair).live hpos
    refine ⟨n, hn, hstatus.resolve_right ?_⟩
    rintro ⟨-, τ, hτ, due, hdue, -⟩
    obtain rfl := List.mem_singleton.mp hτ
    cases hdue

/-- What holds on the way, where identifiers are as supplied at the start. -/
structure BackoffInvariant (start : World) (σ : Stage) (w : World) (h : List Moment) : Prop where
  ids : w.supply.messageIds = start.supply.messageIds
  kept : ∀ bound, w.created ≤ bound → start.supply.Distinct bound →
    Owned start.supply.messageIds bound (fun id => ∃ y ∈ h, y.Spoils id) w.ledger [σ]
      ∧ PendingOrSpoiled h

/-- The invariant survives a move of the actor. -/
theorem BackoffInvariant.move {start w w' : World} {role : Role} {σ σ' : Stage} {h : List Moment}
    {c : Call} {answer : c.Answer} (hinvariant : BackoffInvariant start σ w h)
    (hmove : Stage.Move role σ w c answer σ' w') :
    BackoffInvariant start σ' w' (⟨w, c, answer⟩ :: h) := by
  refine ⟨hmove.kept.supply ▸ hinvariant.ids, fun bound hbound hdistinct => ?_⟩
  have heffect := hmove.effect
  rw [hinvariant.ids] at heffect
  obtain ⟨howned, hpending⟩ :=
    hinvariant.kept bound (Nat.le_trans heffect.created_le hbound) hdistinct
  refine ⟨?_, fun client r hcall => ?_, hpending⟩
  · refine howned.step_alone hdistinct hbound hmove.next heffect ?_
    rintro id (⟨y, hy, hspoils⟩ | hspoils)
    · exact ⟨y, List.mem_cons_of_mem _ hy, hspoils⟩
    · exact ⟨_, List.mem_cons_self, hspoils⟩
  · obtain rfl : c = .send client r := hcall
    exact Classical.or_iff_not_imp_right.mpr fun hfair =>
      howned.pending_of_send hmove.next hfair

/-- The invariant survives a rest between two rounds. -/
theorem BackoffInvariant.rest {start w w' : World} {σ : Stage} {h : List Moment}
    (hinvariant : BackoffInvariant start σ w h) (hsame : w.SameRecord w')
    (hpushed : σ.pushed? = none) : BackoffInvariant start .idle w' h := by
  refine ⟨hsame.2.trans hinvariant.ids, fun bound hbound hdistinct => ?_⟩
  have hcreated : w'.created = w.created := congrArg Ledger.created hsame.1
  obtain ⟨howned, hpending⟩ := hinvariant.kept bound (hcreated ▸ hbound) hdistinct
  exact ⟨hsame.1 ▸ howned.drop_alone hpushed, hpending⟩

/-- In every sequence of rounds that starts from nothing, requests go out for pending messages, or
for messages that a sweep has failed to mark. -/
theorem Sequence.pendingOrSpoiled {start w : World} {h : List Moment}
    (hmessages : start.store.messages = []) (hentries : start.queue.entries = [])
    (hsequence : Sequence (fun _ => True) World.SameRecord start w h)
    (hdistinct : start.supply.Distinct w.created) : PendingOrSpoiled h := by
  have hinvariant : BackoffInvariant start .idle w h := by
    refine hsequence.invariant (I := BackoffInvariant start) ?_ ?_ ?_ ?_ ?_ ?_
    · exact ⟨rfl, fun _ _ _ => ⟨.start hmessages hentries, trivial⟩⟩
    · exact fun role σ w h c answer σ' w' _ hinvariant hmove => hinvariant.move hmove
    · intro role σ w h c answer σ' w' _ hinvariant hnext hperform
      exact hinvariant.rest (World.sameRecord_of_unanswered hperform)
        (hnext.pushed_of_unanswered hperform)
    · exact fun role σ w h _ hinvariant hstuck => hinvariant.rest (.refl w) hstuck.pushed
    · exact fun σ w h hinvariant hrest => hinvariant.rest (.refl w) hrest.pushed
    · exact fun w w' h hinvariant hsame => hinvariant.rest hsame rfl
  exact (hinvariant.kept w.created (Nat.le_refl _) hdistinct).2

/-- A request in the middle of a history goes out in time, or after a spoiled one. -/
theorem PendingOrSpoiled.respects {later earlier : List Moment} {x : Moment}
    (h : PendingOrSpoiled (later ++ x :: earlier)) :
    x.RespectsBackoff
      ∨ ∃ client r, x.call = .send client r ∧ ∃ y ∈ earlier, y.Spoils r.messageId := by
  induction later with
  | nil =>
    refine Classical.or_iff_not_imp_right.mpr fun hfair client r hcall => ?_
    obtain ⟨m, hm, hpending⟩ := (h.1 client r hcall).resolve_right fun hspoiled =>
      hfair ⟨client, r, hcall, hspoiled⟩
    exact ⟨m, hm, .inl hpending⟩
  | cons y later ih => exact ih h.2

-- ---------------------------------------------------------------------------
-- Early sends
-- ---------------------------------------------------------------------------

/-- A task that makes a call makes the calls that follow, too. -/
theorem Task.mem_moments_of_call {α : Type} {c : Call} {next : c.Answer → Task α} {w w' : World}
    {answer : c.Answer} {x : Moment} (h : w.perform c = (some answer, w'))
    (hx : x ∈ (next answer).moments w') : x ∈ (call c next).moments w := by
  rw [moments, h]
  exact List.mem_append_left _ hx

/-- The calls of a task that follows another come from where that has ended. -/
theorem Task.mem_moments_bind {α β : Type} {t : Task α} {f : α → Task β} {w w' : World} {a : α}
    {x : Moment} (h : t.run w = (some a, w')) (hx : x ∈ (f a).moments w') :
    x ∈ (t >>= f).moments w := by
  induction t generalizing w with
  | done b =>
    obtain ⟨hb, rfl⟩ := Prod.mk.inj h
    obtain rfl := Option.some.inj hb
    exact hx
  | breakdown => cases (Prod.mk.inj h).1
  | call c next ih =>
    rw [run] at h
    rcases hperform : w.perform c with ⟨answer?, w''⟩
    rw [hperform] at h
    cases answer? with
    | none => cases (Prod.mk.inj h).1
    | some answer => exact mem_moments_of_call hperform (ih answer h)

/-- What a task does first, it does. -/
theorem Task.mem_moments_bind_left {α β : Type} {t : Task α} {f : α → Task β} {w : World}
    {x : Moment} (hx : x ∈ t.moments w) : x ∈ (t >>= f).moments w := by
  -- on the task, whose calls come first in both
  induction t generalizing w with
  | done b => exact absurd hx List.not_mem_nil
  | breakdown => exact hx
  | call c next ih =>
    show x ∈ (Task.call c fun answer => next answer >>= f).moments w
    rw [moments] at hx ⊢
    rcases hperform : w.perform c with ⟨answer?, w'⟩
    rw [hperform] at hx
    cases answer? with
    | none => exact absurd hx List.not_mem_nil
    | some answer =>
      rcases List.mem_append.mp hx with hx | hx
      · exact List.mem_append_left _ (ih answer hx)
      · exact List.mem_append_right _ hx

/-- While the clock can be read, signing comes to an end and changes neither store nor clock. -/
theorem Worker.run_signatureFor (m : Message) {w : World} {now : Instant}
    (hclock : w.clock.utc? = some now) :
    ∃ signature w', (signatureFor m).run w = (some signature, w')
      ∧ w'.store = w.store ∧ w'.clock = w.clock := by
  obtain ⟨answer, w', hperform, hstore, hclock'⟩ : ∃ answer w',
      w.perform (.findSigningSecret m.org) = (some answer, w')
        ∧ w'.store = w.store ∧ w'.clock = w.clock := by
    refine ⟨_, _, rfl, ?_⟩
    simp only
    split <;> exact ⟨rfl, rfl⟩
  cases answer with
  | error e =>
    refine ⟨none, w', ?_, hstore, hclock'⟩
    show Task.run (.call _ _) w = _
    rw [Task.run, hperform]
    rfl
  | ok secret =>
    refine ⟨some (.sign m.webhookId secret m.payload now.seconds), w', ?_, hstore, hclock'⟩
    show Task.run (.call _ _) w = _
    rw [Task.run, hperform]
    show Task.run (.call .now _) w' = _
    have hnow : w'.perform .now = (some now, w') := by
      rw [World.perform, hclock', hclock]
    rw [Task.run, hnow]
    rfl

/-- A message with a request is sent in the course of an attempt, in a world that has the store and
the clock of the beginning. -/
theorem Worker.exists_send (worker : Worker) {w : World} {m : Message} {r : DeliveryRequest}
    {now : Instant} (hclock : w.clock.utc? = some now) :
    ∃ x ∈ (worker.attempt m r).moments w,
      (∃ signature, x.call = .send worker.client (r.sign signature))
      ∧ x.world.store = w.store ∧ x.world.clock = w.clock := by
  obtain ⟨signature, w', hrun, hstore, hclock'⟩ := run_signatureFor m hclock
  -- the request is counted before it goes out
  let w'' : World :=
    { w' with stats := w'.stats.count .sending, metrics := w'.metrics.count .sending }
  rcases hperform : w''.perform (.send worker.client (r.sign signature)) with ⟨report?, w₃⟩
  cases report? with
  | none => cases (Prod.mk.inj hperform).1
  | some report =>
    refine ⟨⟨w'', .send worker.client (r.sign signature), report⟩, ?_, ⟨signature, rfl⟩, hstore,
      hclock'⟩
    refine Task.mem_moments_bind hrun (Task.mem_moments_bind_left ?_)
    have hnote : w'.perform (.note .sending) = (some (), w'') := rfl
    refine Task.mem_moments_of_call hnote ?_
    show _ ∈ (Task.call _ _).moments w''
    rw [Task.moments, hperform]
    exact List.mem_append_right _ (List.mem_singleton.mpr rfl)

/-- A worker that takes the entry of a message which waits for a later time attempts it at once. -/
theorem Worker.exists_early_send (worker : Worker) {w : World} {entry : String}
    {rest : List String} {id : MessageId} {m : Message} {r : DeliveryRequest} {now : Instant}
    (hplan : w.popPlan = none) (hentries : w.queue.entries = entry :: rest)
    (hid : MessageId.ofText? entry = some id)
    (hfound : World.takePlanned .findMessage w.planned = none)
    (hstored : w.store.get? id = some m) (hretry : m.status = .retry)
    (hdue : m.isRetryDue now = false) (hclock : w.clock.utc? = some now)
    (hr : DeliveryRequest.ofMessage m = .ok r) :
    ∃ x ∈ worker.round.moments w, ¬ x.RespectsBackoff := by
  -- the entry is taken, and nothing but the queue has changed
  let w' := w.popped rest
  have hpop := World.perform_pop hplan hentries
  have hfind : w'.perform (.findMessage id) = (some (.ok m), w') :=
    World.perform_findMessage (w := w') hfound hstored
  obtain ⟨x, hx, ⟨signature, hcall⟩, hstore, hxclock⟩ :=
    exists_send worker (m := m) (r := r) (show w'.clock.utc? = some now from hclock)
  refine ⟨x, ?_, fun hrespects => ?_⟩
  · refine Task.mem_moments_of_call hpop ?_
    show x ∈ (worker.process entry >>= _).moments w'
    refine Task.mem_moments_bind_left ?_
    rw [process, hid]
    refine Task.mem_moments_of_call hfind ?_
    show x ∈ (worker.processMessage m).moments w'
    rw [processMessage, if_neg (by simp [hretry, Status.isTerminal])]
    refine Task.mem_moments_bind_left ?_
    rw [deliver, hr]
    exact hx
  · -- whoever respects the backoff would have to find it pending, or its time come
    obtain ⟨n, hn, hallowed⟩ := hrespects _ _ hcall
    have hm : r.messageId = m.id := DeliveryRequest.messageId_of_ofMessage hr
    have hmid : m.id = id := by simpa using List.find?_some hstored
    rw [hstore, DeliveryRequest.sign, hm, hmid] at hn
    obtain rfl := Option.some.inj (hstored.symm.trans hn)
    rcases hallowed with hpending | ⟨t, ht, hdue'⟩
    · cases hretry.symm.trans hpending
    · rw [hxclock] at ht
      obtain rfl := Option.some.inj (hclock.symm.trans ht)
      rw [hdue] at hdue'
      cases hdue'

/-- What it takes for a worker's next round to send a message before it is due: the head of the
queue names a message that can be sent and waits for a later time, and the message can be loaded. -/
def World.HeadWaits (w : World) : Prop :=
  ∃ entry rest id m r now, w.queue.entries = entry :: rest ∧ MessageId.ofText? entry = some id
    ∧ w.store.get? id = some m ∧ m.status = .retry ∧ m.isRetryDue now = false
    ∧ w.clock.utc? = some now ∧ DeliveryRequest.ofMessage m = .ok r ∧ w.popPlan = none
    ∧ takePlanned .findMessage w.planned = none

-- ---------------------------------------------------------------------------
-- A run that breaks it
-- ---------------------------------------------------------------------------

-- A sweep pushes a message and fails to mark it, the next one pushes it again, and a worker makes
-- the attempt that is due and parks the message. The second entry is then at the head of the queue.

/-- The outside moves the clock, or changes which failures are asked for. -/
def World.Adjusted (w w' : World) : Prop :=
  w' = { w with
    clock := w'.clock
    queue := { w.queue with rejecting := w'.queue.rejecting }
    store := { w.store with
      dueQueryFailure := w'.store.dueQueryFailure
      failAttemptWrites := w'.store.failAttemptWrites
      failMessageUpdates := w'.store.failMessageUpdates } }

theorem World.Adjusted.sameRecord {w w' : World} (h : w.Adjusted w') : w.SameRecord w' := by
  rw [h]
  exact ⟨rfl, rfl⟩

/-- A thousand seconds later, changes of messages fail. -/
def World.failing : World :=
  { World.parked with
    clock := .start .zero (.ofInstant ((Instant.of? 1000 0).getD .epoch))
    store := { World.parked.store with failMessageUpdates := true } }

/-- A sweep has failed to mark the message, and then changes of messages succeed again. -/
def World.sweptInVain : World :=
  let swept := ((Role.sweeper {}).round.run .failing).2
  { swept with store := { swept.store with failMessageUpdates := false } }

/-- Another sweep has come, and a worker has taken the first of the two entries. -/
def World.parkedAgain : World :=
  let swept := ((Role.sweeper {}).round.run .sweptInVain).2
  ((Role.worker .plain).round.run swept).2

/-- The second entry names a message that waits for the second 1002, and the clock shows 1000. -/
theorem World.headWaits_parkedAgain : World.parkedAgain.HeadWaits := by
  let now : Instant := ⟨1000, 0, by decide, by decide, by decide⟩
  let due : Instant := ⟨1002, 0, by decide, by decide, by decide⟩
  let m : Message :=
    { Message.ofDraft (Supply.counting.messageIds 0) .toLoopback .epoch with
      status := .retry, attemptCount := ⟨2, by decide, by decide⟩, nextRetryAt := some due
      updatedAt := now }
  obtain ⟨r, hr⟩ : ∃ r, DeliveryRequest.ofMessage m = .ok r := by
    have hok : (DeliveryRequest.ofMessage m).toOption.isSome = true := by decide +kernel
    cases hr : DeliveryRequest.ofMessage m with
    | ok r => exact ⟨r, rfl⟩
    | error reason =>
      rw [hr] at hok
      cases hok
  -- what the run has come to is computed once
  have hworld : parkedAgain.queue.entries = [m.id.text] ∧ parkedAgain.store.get? m.id = some m
      ∧ parkedAgain.clock.utc? = some now ∧ parkedAgain.popPlan = none
      ∧ parkedAgain.planned = [] := by
    decide +kernel
  obtain ⟨hqueue, hstored, hclock, hplan, hplanned⟩ := hworld
  refine ⟨m.id.text, [], m.id, m, r, now, hqueue, MessageId.ofText?_text m.id, hstored, rfl, ?_,
    hclock, hr, hplan, by rw [hplanned]; rfl⟩
  decide

/-- The world in which a retry is queued twice is reached from a fresh one. -/
theorem World.exists_sequence_parkedAgain :
    ∃ h, Sequence (fun _ => True) World.Adjusted .fresh .parkedAgain h := by
  have hsubmitted := Sequence.round (.submission .toLoopback) trivial
    (.start : Sequence (fun _ => True) World.Adjusted .fresh .fresh [])
  have hparked : Sequence _ _ .fresh .parked _ := .round (.worker .plain) trivial hsubmitted
  have hfailing := Sequence.outside (show World.parked.Adjusted .failing from rfl) hparked
  have hswept := Sequence.round (.sweeper {}) trivial hfailing
  have hvain := Sequence.outside
    (show World.Adjusted _ .sweptInVain from rfl) hswept
  have hagain := Sequence.round (.sweeper {}) trivial hvain
  exact ⟨_, Sequence.round (.worker .plain) trivial hagain⟩

theorem World.created_parkedAgain : World.parkedAgain.created = 1 := by
  decide +kernel

-- ---------------------------------------------------------------------------
-- The backoff
-- ---------------------------------------------------------------------------

/-- In every sequence of rounds that starts from nothing, a request that breaks the backoff is for a
message that a sweep has pushed and failed to mark before. And where such a message is at the head
of the queue and waits again, the next round of a worker breaks the backoff. -/
theorem backoff_respected_or_spoiled {start w : World} {h : List Moment}
    (hmessages : start.store.messages = []) (hentries : start.queue.entries = [])
    (hsequence : Sequence (fun _ => True) World.SameRecord start w h)
    (hdistinct : start.supply.Distinct w.created) :
    (∀ later x earlier, h = later ++ x :: earlier → x.RespectsBackoff
      ∨ ∃ client r, x.call = .send client r ∧ ∃ y ∈ earlier, y.Spoils r.messageId)
    ∧ (w.HeadWaits → ∀ worker : Worker, ∃ x ∈ worker.round.moments w, ¬ x.RespectsBackoff) := by
  refine ⟨fun later x earlier heq => ?_, fun hwaits worker => ?_⟩
  · have hpending := hsequence.pendingOrSpoiled hmessages hentries hdistinct
    rw [heq] at hpending
    exact hpending.respects
  · obtain ⟨entry, rest, id, m, r, now, hqueue, hid, hstored, hretry, hdue, hclock, hr, hplan,
      hfound⟩ := hwaits
    exact worker.exists_early_send hplan hqueue hid hfound hstored hretry hdue hclock hr

/-- On this run the backoff was respected so far, and a worker's next round breaks it. -/
theorem backoff_until_parkedAgain :
    ∃ h : List Moment,
      (∀ later x earlier, h = later ++ x :: earlier → x.RespectsBackoff
        ∨ ∃ client r, x.call = .send client r ∧ ∃ y ∈ earlier, y.Spoils r.messageId)
      ∧ ∃ x ∈ Worker.plain.round.moments .parkedAgain, ¬ x.RespectsBackoff := by
  obtain ⟨h, hsequence⟩ := World.exists_sequence_parkedAgain
  have hdistinct : Supply.counting.Distinct World.parkedAgain.created :=
    Supply.distinct_counting (by rw [World.created_parkedAgain]; decide)
  obtain ⟨hrespects, hbreaks⟩ := backoff_respected_or_spoiled rfl rfl
    (hsequence.mono fun _ _ hadjusted => hadjusted.sameRecord) hdistinct
  exact ⟨h, hrespects, hbreaks World.headWaits_parkedAgain .plain⟩

/-- The backoff is not always respected. -/
theorem backoff_broken : ¬ ∀ (start w : World) (h : List Moment),
    start.store.messages = [] → start.queue.entries = [] →
    Sequence (fun _ => True) World.Adjusted start w h → start.supply.Distinct w.created →
    ∀ x ∈ h, x.RespectsBackoff := by
  intro hall
  obtain ⟨h, hsequence⟩ := World.exists_sequence_parkedAgain
  obtain ⟨entry, rest, id, m, r, now, hqueue, hid, hstored, hretry, hdue, hclock, hr, hplan,
    hfound⟩ := World.headWaits_parkedAgain
  obtain ⟨x, hx, hearly⟩ :=
    Worker.plain.exists_early_send hplan hqueue hid hfound hstored hretry hdue hclock hr
  refine hearly (hall _ _ _ rfl rfl (hsequence.round (.worker .plain) trivial) ?_ x
    (List.mem_append_left _ hx))
  exact Supply.distinct_counting (by decide +kernel)

end WebhookDelivery
