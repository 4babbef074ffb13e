import WebhookDelivery.Proofs.Interchange
import WebhookDelivery.Proofs.Phases

/-!
# All that a delivery does

A delivery may be given a copy of a message that is no longer what is stored. Whatever it is given,
and whichever of its calls fail, it has to do with that message alone, and it moves it on in one
step: the transition is written to the store at once, and counted only when it is stored. Until then
nothing is changed but the record of the attempt, which stays even if the write fails.

Every call that a delivery makes before its write spares the rest of the world
(`World.Spares`), and so do any number of them in a row. What is left is the one write, which
fails and changes nothing, or puts one message into the place of what was stored.

* `World.spares_perform`, `Task.Makes.spares` — what calls leave as it was.
* `World.update_cases`, `World.refuse_cases` — the two ways to write a transition.
* `Worker.comes_deliver` — how a delivery can end.
* `Worker.delivery_confined` — what it has changed then, and what it has not.
-/

namespace WebhookDelivery

-- ---------------------------------------------------------------------------
-- Outcomes
-- ---------------------------------------------------------------------------

/-- How many deliveries have come to a transition, as far as the counters tell. -/
def Stats.outcome (s : Stats) : Event → Nat
  | .delivered => s.successful
  | .retryScheduled => s.failed
  | .deadLettered => s.deadLettered
  | .rejected => s.rejected
  | _ => 0

/-- Counting an event adds one to its own outcome, and to no other. -/
theorem Stats.outcome_count (s : Stats) {e : Event} (he : e ∈ Event.transitions) (event : Event) :
    (s.count event).outcome e = s.outcome e + if e = event then 1 else 0 := by
  simp only [Event.transitions, List.mem_cons, List.not_mem_nil, or_false] at he
  rcases he with rfl | rfl | rfl | rfl <;> cases event <;> rfl

/-- What is stored of a message after a transition, where `m` is what the delivery was given and
`stored` what was stored until then. It is what the transition tells. -/
inductive Transition.Leaves (m stored : Message) : Transition → Message → Prop where
  | delivered (code : UInt16) (now : Instant) :
    Leaves m stored (.delivered code)
      { stored with
        status := .success, attemptCount := m.attemptCount.next, nextRetryAt := none
        updatedAt := now }
  | retryScheduled (due now : Instant) :
    Leaves m stored (.retryScheduled m.attemptCount.next due)
      { stored with
        status := .retry, attemptCount := m.attemptCount.next, nextRetryAt := some due
        updatedAt := now }
  | deadLettered (now : Instant) :
    Leaves m stored (.deadLettered m.attemptCount)
      { stored with
        status := .failed, attemptCount := m.attemptCount, nextRetryAt := none, updatedAt := now }
  | rejected (reason : String) (now : Instant) :
    Leaves m stored (.rejected reason)
      { stored with status := .failed, nextRetryAt := none, updatedAt := now }

theorem Transition.Leaves.id_eq {m stored row : Message} {t : Transition}
    (h : t.Leaves m stored row) : row.id = stored.id := by
  cases h <;> rfl

/-- What a failed attempt leaves is what was decided. -/
theorem Message.leaves_failed (m stored : Message) (decision : Retry.Decision) (now : Instant) :
    (m.failed decision now).2.Leaves m stored (stored.progressed (m.failed decision now).1) := by
  cases decision with
  | retry due delay => exact .retryScheduled due now
  | giveUp reason => exact .deadLettered now

-- ---------------------------------------------------------------------------
-- What stays
-- ---------------------------------------------------------------------------

/-- Whether the store, the queue and the outcomes that were counted are as before, except that these
attempts were recorded. -/
structure World.Spares (added : List Attempt) (w w' : World) : Prop where
  store : w'.store = { w.store with attempts := w.store.attempts ++ added }
  queue : w'.queue = w.queue
  outcomes : ∀ e ∈ Event.transitions, w'.stats.outcome e = w.stats.outcome e

/-- The calls of a delivery that neither write to the store nor count an outcome. -/
def Call.IsAside : Call → Prop
  | .findSigningSecret _ | .now | .send _ _ | .drawOffset _ => True
  | .note e => e ∉ Event.transitions
  | _ => False

namespace World

variable {added added' : List Attempt} {w v w' : World}

/-- What leaves store, queue and totals alone spares them. -/
theorem Spares.of_store (hstore : w'.store = w.store) (hqueue : w'.queue = w.queue)
    (hstats : w'.stats = w.stats) : Spares [] w w' where
  store := by rw [hstore, List.append_nil]
  queue := hqueue
  outcomes _ _ := by rw [hstats]

/-- Two spells that spare the rest, one after the other, do so together. -/
theorem Spares.trans (h : Spares added w v) (h' : Spares added' v w') :
    Spares (added ++ added') w w' where
  store := by rw [h'.store, h.store, List.append_assoc]
  queue := h'.queue.trans h.queue
  outcomes e he := (h'.outcomes e he).trans (h.outcomes e he)

theorem Spares.get?_eq (h : Spares added w w') (id : MessageId) :
    w'.store.get? id = w.store.get? id := by
  rw [h.store]
  rfl

/-- A call made aside changes nothing that counts. -/
theorem spares_perform (w : World) {c : Call} (hc : c.IsAside) : Spares [] w (w.perform c).2 := by
  cases c with
  | findSigningSecret org =>
    simp only [perform]
    rcases w.storeCall_cases .findSigningSecret fun _ => (w.store.secretOf org, w) with
      ⟨e, planned, -, heq⟩ | ⟨-, heq⟩
    · rw [heq]
      exact .of_store rfl rfl rfl
    · rw [heq]
      exact .of_store rfl rfl rfl
  | now | send | drawOffset => exact .of_store rfl rfl rfl
  | note event =>
    refine ⟨(Spares.of_store rfl rfl rfl : Spares [] w w).store, rfl, fun e he => ?_⟩
    -- an event noted aside is no transition
    have hother : e ≠ event := by
      rintro rfl
      exact hc he
    have hcount := w.stats.outcome_count he event
    rwa [if_neg hother] at hcount
  | _ => cases hc

/-- A write of the store fails and changes nothing, or what it makes is the store then. -/
theorem storeCall_write {α : Type} (w : World) (op : StoreOperation) (asked : Nat)
    (r : Except StoreError (α × Store)) :
    (∃ e w', w.storeCall op (fun _ => { w with asked }.write r) = (.error e, w') ∧ Spares [] w w')
    ∨ ∃ a store, r = .ok (a, store)
      ∧ w.storeCall op (fun _ => { w with asked }.write r) = (.ok a, { w with store, asked }) := by
  rcases w.storeCall_cases op fun _ => { w with asked }.write r with ⟨e, planned, -, heq⟩ | ⟨-, heq⟩
  · exact .inl ⟨e, _, heq, .of_store rfl rfl rfl⟩
  · cases r with
    | error e => exact .inl ⟨e, _, heq, .of_store rfl rfl rfl⟩
    | ok result => exact .inr ⟨result.1, result.2, rfl, heq⟩

/-- A call that is to record an attempt does so or changes nothing. -/
theorem spares_record (w : World) (a : NewAttempt) :
    ∃ added, Spares added w (w.perform (.recordAttempt a)).2
      ∧ (added = [] ∨ ∃ uuid, added = [a.record uuid]) := by
  simp only [perform]
  rcases w.storeCall_write .recordAttempt (w.asked + 1)
    (w.store.record (w.supply.attemptIds w.asked) a) with
    ⟨e, w', heq, hspares⟩ | ⟨recorded, store, hrecord, heq⟩
  · rw [heq]
    exact ⟨[], hspares, .inl rfl⟩
  · rw [heq]
    exact ⟨_, ⟨(Store.of_record hrecord).2, rfl, fun _ _ => rfl⟩, .inr ⟨_, rfl⟩⟩

end World

/-- A task of such calls leaves the world as it is. -/
theorem Task.Makes.spares {α : Type} {t : Task α} {Q : α → Prop} {a : α} {w w' : World}
    (ht : t.Makes Call.IsAside Q) (hrun : t.run w = (some a, w')) :
    Q a ∧ World.Spares [] w w' := by
  -- on the task: its first call spares the rest, and so does what follows
  induction t generalizing w with
  | done x =>
    obtain ⟨hx, rfl⟩ := Prod.mk.inj hrun
    obtain rfl := Option.some.inj hx
    exact ⟨ht, .of_store rfl rfl rfl⟩
  | breakdown => cases (Prod.mk.inj hrun).1
  | call c next ih =>
    have hfirst := w.spares_perform ht.1
    rw [run] at hrun
    rcases hperform : w.perform c with ⟨_ | answer, v⟩
    · rw [hperform] at hrun
      cases (Prod.mk.inj hrun).1
    · rw [hperform] at hrun hfirst
      obtain ⟨hQ, hrest⟩ := ih answer (ht.2 answer) hrun
      exact ⟨hQ, hfirst.trans hrest⟩

-- ---------------------------------------------------------------------------
-- The write of a transition
-- ---------------------------------------------------------------------------

/-- How a delivery of a message can end: with an error, and nothing is changed but for these
attempts; or with a transition, and then that is stored and counted, and nothing else is. -/
inductive World.Comes (m : Message) (added : List Attempt) (w w' : World) :
    Except PipelineError Transition → Prop where
  | failed (e : PipelineError) (h : w.Spares added w') : Comes m added w w' (.error e)
  | moved {t : Transition} {stored row : Message} {v : World} (h : w.Spares added v)
    (hget : w.store.get? m.id = some stored) (hleaves : t.Leaves m stored row)
    (hstore : w'.store = v.store.insert row) (hqueue : w'.queue = v.queue)
    (hstats : w'.stats = v.stats.count t.event) : Comes m added w w' (.ok t)

namespace World

variable {m : Message} {added added' : List Attempt} {w v w' : World}
  {result : Except PipelineError Transition}

/-- What comes of a delivery may follow a spell that spares the rest. -/
theorem Comes.after (h : Spares added w v) (h' : Comes m added' v w' result) :
    Comes m (added ++ added') w w' result := by
  cases h' with
  | failed e h' => exact .failed e (h.trans h')
  | moved h' hget hleaves hstore hqueue hstats =>
    rw [h.get?_eq] at hget
    exact .moved (h.trans h') hget hleaves hstore hqueue hstats

/-- A message is written back, or nothing is changed. -/
theorem update_cases (w : World) (m : Message) :
    (∃ e w', w.perform (.updateMessage m) = (some (.error e), w') ∧ Spares [] w w')
    ∨ ∃ stored, w.store.get? m.id = some stored
      ∧ w.perform (.updateMessage m)
        = (some (.ok ()), { w with store := w.store.insert (stored.progressed m) }) := by
  simp only [perform]
  rcases w.storeCall_write .updateMessage w.asked
    ((w.store.update m).map fun store => ((), store)) with
    ⟨e, w', heq, hspares⟩ | ⟨_, store, hmap, heq⟩
  · exact .inl ⟨e, w', congrArg (fun x => (some x.1, x.2)) heq, hspares⟩
  · obtain ⟨stored, hget, rfl⟩ := Store.of_update (Store.ok_of_map hmap)
    exact .inr ⟨stored, hget, congrArg (fun x => (some x.1, x.2)) heq⟩

/-- A message is marked as failed, or nothing is changed. -/
theorem refuse_cases (w : World) (id : MessageId) :
    (∃ e w', w.perform (.updateMessageStatus id .failed) = (some (.error e), w') ∧ Spares [] w w')
    ∨ ∃ stored now row, w.store.get? id = some stored
      ∧ row = { stored with status := .failed, nextRetryAt := none, updatedAt := now }
      ∧ w.perform (.updateMessageStatus id .failed)
        = (some (.ok row), { w with store := w.store.insert row, asked := w.asked + 1 }) := by
  simp only [perform]
  rcases w.storeCall_write .updateMessageStatus (w.asked + 1)
    (w.store.setStatus id .failed (w.supply.storeTimes w.asked)) with
    ⟨e, w', heq, hspares⟩ | ⟨row, store, hset, heq⟩
  · exact .inl ⟨e, w', congrArg (fun x => (some x.1, x.2)) heq, hspares⟩
  · obtain ⟨stored, hget, hrow, rfl⟩ := Store.of_setStatus hset
    exact .inr ⟨stored, _, row, hget, Message.eq_of_setStatus hrow,
      congrArg (fun x => (some x.1, x.2)) heq⟩

/-- Whether the queue, the secrets and all messages but one are as before, and none has come or
gone. -/
structure Confined (id : MessageId) (w w' : World) : Prop where
  queue : w'.queue = w.queue
  secrets : w'.store.secrets = w.store.secrets
  ids : w'.store.messages.map (·.id) = w.store.messages.map (·.id)
  others : ∀ other, other ≠ id → w'.store.get? other = w.store.get? other

/-- What spares all messages is confined to any one of them. -/
theorem Spares.confined (h : Spares added w w') (id : MessageId) : Confined id w w' where
  queue := h.queue
  secrets := by rw [h.store]
  ids := by rw [h.store]
  others other _ := h.get?_eq other

/-- A transition takes the place of what is stored of its message. -/
theorem Spares.confined_insert {t : Transition} {stored row : Message} (h : Spares added w v)
    (hget : w.store.get? m.id = some stored) (hleaves : t.Leaves m stored row)
    (hstore : w'.store = v.store.insert row) (hqueue : w'.queue = v.queue) :
    Confined m.id w w' ∧ w'.store.get? m.id = some row := by
  have hid : row.id = m.id := hleaves.id_eq.trans (Ledger.id_of_get? (k := w.ledger) hget)
  have hstored : (v.store.get? m.id).isSome = true := by
    rw [h.get?_eq, hget]
    rfl
  have hdone := Deed.done_insert hid hstored v.asked
  have hbefore := h.confined m.id
  refine ⟨⟨hqueue.trans h.queue, ?_, ?_, fun other hne => ?_⟩, ?_⟩ <;> rw [hstore]
  · exact hbefore.secrets
  · exact hdone.ids.trans hbefore.ids
  · exact (hdone.others other hne).trans (hbefore.others other hne)
  · exact hdone.message

/-- A delivery is confined to its own message. -/
theorem Comes.confined (h : Comes m added w w' result) : Confined m.id w w' := by
  cases h with
  | failed e h => exact h.confined m.id
  | moved h hget hleaves hstore hqueue hstats =>
    exact (h.confined_insert hget hleaves hstore hqueue).1

/-- A delivery adds these attempts, and takes none away. -/
theorem Comes.attempts (h : Comes m added w w' result) :
    w'.store.attempts = w.store.attempts ++ added := by
  cases h with
  | failed e h => rw [h.store]
  | moved h hget hleaves hstore hqueue hstats => rw [hstore, Store.insert, h.store]

/-- A delivery that ends in an error has spared every message. -/
theorem Comes.of_error {e : PipelineError} (h : Comes m added w w' (.error e)) :
    Spares added w w' := by
  cases h with
  | failed _ h => exact h

/-- A transition is told by what is stored, and it is counted once. -/
theorem Comes.of_ok {t : Transition} (h : Comes m added w w' (.ok t)) :
    (∃ stored row, w.store.get? m.id = some stored ∧ w'.store.get? m.id = some row
      ∧ t.Leaves m stored row)
    ∧ ∀ e ∈ Event.transitions,
      w'.stats.outcome e = w.stats.outcome e + if e = t.event then 1 else 0 := by
  cases h with
  | moved h hget hleaves hstore hqueue hstats =>
    have hrow := (h.confined_insert hget hleaves hstore hqueue).2
    refine ⟨⟨_, _, hget, hrow, hleaves⟩, fun e he => ?_⟩
    rw [hstats, Stats.outcome_count _ he, h.outcomes e he]

end World

-- ---------------------------------------------------------------------------
-- Deliveries
-- ---------------------------------------------------------------------------

namespace Worker

variable {worker : Worker} {m : Message} {r : DeliveryRequest} {w w' : World}
  {result : Except PipelineError Transition}

/-- To conclude is to store and count a transition, or to change nothing. -/
theorem comes_conclude {m' : Message} {t : Transition} (hid : m'.id = m.id)
    (hleaves : ∀ stored, t.Leaves m stored (stored.progressed m'))
    (hrun : (conclude m' t).run w = (some result, w')) : World.Comes m [] w w' result := by
  rcases w.update_cases m' with ⟨e, v, hfails, hspares⟩ | ⟨stored, hget, hstores⟩
  · have hends : (conclude m' t).run w = (some (.error e.toPipeline), v) := Task.run_call hfails
    obtain ⟨hresult, rfl⟩ := Prod.mk.inj (hends.symm.trans hrun)
    obtain rfl := Option.some.inj hresult
    exact .failed _ hspares
  · have hends : (conclude m' t).run w = (some (.ok t), _) := Task.run_call hstores
    obtain ⟨hresult, rfl⟩ := Prod.mk.inj (hends.symm.trans hrun)
    obtain rfl := Option.some.inj hresult
    exact .moved (.of_store rfl rfl rfl) (hid ▸ hget) (hleaves stored) rfl rfl rfl

/-- And so is to reject a message. -/
theorem comes_reject {reason : Unsendable}
    (hrun : (reject m reason).run w = (some result, w')) : World.Comes m [] w w' result := by
  rcases w.refuse_cases m.id with ⟨e, v, hfails, hspares⟩ | ⟨stored, now, row, hget, rfl, hstores⟩
  · have hends : (reject m reason).run w = (some (.error e.toPipeline), v) := Task.run_call hfails
    obtain ⟨hresult, rfl⟩ := Prod.mk.inj (hends.symm.trans hrun)
    obtain rfl := Option.some.inj hresult
    exact .failed _ hspares
  · have hends : (reject m reason).run w = (some (.ok (.rejected reason.toPipeline.text)), _) :=
      Task.run_call hstores
    obtain ⟨hresult, rfl⟩ := Prod.mk.inj (hends.symm.trans hrun)
    obtain rfl := Option.some.inj hresult
    exact .moved (.of_store rfl rfl rfl) hget (.rejected _ now) rfl rfl rfl

/-- What an attempt settles on is what its transition tells. -/
theorem leaves_of_settle {outcome : Outcome} {now : Instant} {settled : Message × Transition}
    (hrun : (worker.settle m outcome now).run w = (some settled, w')) :
    (settled.1.id = m.id ∧ ∀ stored, settled.2.Leaves m stored (stored.progressed settled.1))
      ∧ World.Spares [] w w' := by
  have hmakes : (worker.settle m outcome now).Makes Call.IsAside fun settled =>
      settled.1.id = m.id ∧ ∀ stored, settled.2.Leaves m stored (stored.progressed settled.1) :=
    makes_settle_of (fun _ => trivial) (fun code _ => ⟨rfl, fun stored => .delivered code now⟩)
      fun _ decision _ _ => ⟨m.id_failed decision now, fun stored => m.leaves_failed stored _ now⟩
  exact hmakes.spares hrun

/-- An attempt spares everything up to its conclusion, except that it may be recorded. -/
theorem comes_attempt (hrun : (worker.attempt m r).run w = (some result, w')) :
    ∃ added, World.Comes m added w w' result
      ∧ (added = [] ∨ ∃ report now uuid, added = [(m.attempt report now).record uuid]) := by
  rw [attempt_eq] at hrun
  -- the attempt step by step: sign, send, time, record, settle, conclude
  obtain ⟨signature, w₁, hsigning, hrun⟩ := Task.exists_of_run_bind hrun
  obtain ⟨report, w₂, hexchange, hrun⟩ := Task.exists_of_run_bind hrun
  obtain ⟨now, w₃, hnow, hrun⟩ := Task.exists_of_run_bind hrun
  obtain ⟨recorded, w₄, hrecord, hrun⟩ := Task.exists_of_run_bind hrun
  obtain ⟨settled, w₅, hsettle, hconclude⟩ := Task.exists_of_run_bind hrun
  have hsigned : World.Spares [] w w₁ :=
    ((makes_signatureFor (m := m) (P := Call.IsAside) trivial trivial).spares hsigning).2
  have hexchanged : World.Spares [] w₁ w₂ := by
    rw [exchange_run] at hexchange
    obtain ⟨-, rfl⟩ := Prod.mk.inj hexchange
    exact .of_store rfl rfl rfl
  have htimed : World.Spares [] w₂ w₃ :=
    ((Task.makes_perform (P := Call.IsAside) (c := .now) trivial).spares hnow).2
  -- Of all that comes before the conclusion only the record changes the store.
  obtain ⟨added, hrecorded, hadded⟩ := w₃.spares_record (m.attempt report now)
  rw [Task.run_perform] at hrecord
  rw [hrecord] at hrecorded
  obtain ⟨⟨hid, hleaves⟩, hsettled⟩ := leaves_of_settle hsettle
  have hspares := (((hsigned.trans hexchanged).trans htimed).trans hrecorded).trans hsettled
  have hcomes := (comes_conclude hid hleaves hconclude).after hspares
  rw [List.append_nil, List.append_nil] at hcomes
  refine ⟨added, hcomes, hadded.imp_right ?_⟩
  rintro ⟨uuid, rfl⟩
  exact ⟨report, now, uuid, rfl⟩

/-- An attempt makes one request. -/
theorem requests_attempt (hrun : (worker.attempt m r).run w = (some result, w')) :
    ∃ signature v report,
      requests ((worker.attempt m r).moments w)
        = [⟨v, .send worker.client (r.sign signature), report⟩]
      ∧ if r.url.isSendable
        then ∃ redirected, w'.sent
          = redirected ++ (r.sign signature).wire worker.client.settings.userAgent :: w.sent
        else w'.sent = w.sent := by
  rw [attempt_eq] at hrun ⊢
  obtain ⟨signature, w₁, hsigning, hrun⟩ := Task.exists_of_run_bind hrun
  rw [attemptSigned_eq] at hrun
  obtain ⟨report, w₂, hexchange, hafter⟩ := Task.exists_of_run_bind hrun
  -- only the exchange in the middle sends anything
  rw [Task.moments_bind hsigning, attemptSigned_eq, Task.moments_bind hexchange, requests_append,
    requests_append, (Task.ends_of_run hsigning).requests_of_silent (silent_signatureFor m),
    (Task.ends_of_run hafter).requests_of_silent (silent_after_exchange report)]
  have hsent := (silent_signatureFor m).sent_run w
  have hsent' := (silent_after_exchange (w := worker) (m := m) report).sent_run w₂
  rw [hsigning] at hsent
  rw [hafter] at hsent'
  rw [exchange_run] at hexchange
  obtain ⟨-, rfl⟩ := Prod.mk.inj hexchange
  obtain ⟨report, v, hsend⟩ : ∃ report v,
      w₁.perform (.send worker.client (r.sign signature)) = (some report, v) := ⟨_, _, rfl⟩
  have hwire := World.sent_of_send hsend
  refine ⟨signature, _, _, rfl, ?_⟩
  rw [← hsent, hsent']
  obtain ⟨-, rfl⟩ := Prod.mk.inj hsend
  exact hwire

/-- A delivery may record an attempt only if a request can be made of its message. -/
theorem comes_deliver (hrun : (worker.deliver m).run w = (some result, w')) :
    ∃ added, World.Comes m added w w' result
      ∧ (added = [] ∨ ∃ r a, DeliveryRequest.ofMessage m = .ok r ∧ added = [a]
        ∧ a.messageId = m.id ∧ a.number = m.attemptCount.next) := by
  rw [deliver] at hrun
  cases hparsed : DeliveryRequest.ofMessage m with
  | error reason =>
    rw [hparsed] at hrun
    exact ⟨[], comes_reject hrun, .inl rfl⟩
  | ok r =>
    rw [hparsed] at hrun
    obtain ⟨added, hcomes, hadded⟩ := comes_attempt hrun
    refine ⟨added, hcomes, hadded.imp_right ?_⟩
    rintro ⟨report, now, uuid, rfl⟩
    exact ⟨r, _, rfl, rfl, rfl, rfl⟩

/-- A delivery that ends has to do with its own message alone. If a request can be made of the message
it gives the client one to send, and otherwise none; the client sends it as it is, unless its URL
cannot stand in a request. Only then an attempt may be recorded, and at most one. If the delivery
ends with an error no message has changed and no outcome is counted. If it ends with a transition,
what is stored is what the transition tells, and it is the one outcome that is counted. -/
theorem delivery_confined (hrun : (worker.deliver m).run w = (some result, w')) :
    World.Confined m.id w w'
    ∧ (∀ reason, DeliveryRequest.ofMessage m = .error reason →
      requests ((worker.deliver m).moments w) = [] ∧ w'.sent = w.sent
        ∧ w'.store.attempts = w.store.attempts)
    ∧ (∀ r, DeliveryRequest.ofMessage m = .ok r →
      (∃ signature v report,
        requests ((worker.deliver m).moments w)
          = [⟨v, .send worker.client (r.sign signature), report⟩]
        ∧ if r.url.isSendable
          then ∃ redirected, w'.sent
            = redirected ++ (r.sign signature).wire worker.client.settings.userAgent :: w.sent
          else w'.sent = w.sent)
      ∧ (w'.store.attempts = w.store.attempts
        ∨ ∃ a, w'.store.attempts = w.store.attempts ++ [a] ∧ a.messageId = m.id
          ∧ a.number = m.attemptCount.next))
    ∧ (∀ error, result = .error error → w'.store.messages = w.store.messages
      ∧ ∀ e ∈ Event.transitions, w'.stats.outcome e = w.stats.outcome e)
    ∧ ∀ t, result = .ok t →
      (∃ stored row, w.store.get? m.id = some stored ∧ w'.store.get? m.id = some row
        ∧ t.Leaves m stored row)
      ∧ ∀ e ∈ Event.transitions,
        w'.stats.outcome e = w.stats.outcome e + if e = t.event then 1 else 0 := by
  obtain ⟨added, hcomes, hadded⟩ := comes_deliver hrun
  refine ⟨hcomes.confined, fun reason hparsed => ?_, fun r hparsed => ⟨?_, ?_⟩, ?_, ?_⟩
  · -- no request, no attempt
    have hnone : added = [] := by
      rcases hadded with hnone | ⟨r, a, hr, -⟩
      · exact hnone
      · rw [hparsed] at hr
        cases hr
    have hattempts := hcomes.attempts
    rw [hnone, List.append_nil] at hattempts
    rw [deliver, hparsed] at hrun ⊢
    have hsent := (silent_reject m reason).sent_run w
    rw [hrun] at hsent
    exact ⟨(Task.ends_of_run hrun).requests_of_silent (silent_reject m reason), hsent, hattempts⟩
  · rw [deliver, hparsed] at hrun ⊢
    exact requests_attempt hrun
  · have hattempts := hcomes.attempts
    rcases hadded with rfl | ⟨-, a, -, rfl, hmessage, hnumber⟩
    · rw [List.append_nil] at hattempts
      exact .inl hattempts
    · exact .inr ⟨a, hattempts, hmessage, hnumber⟩
  · rintro error rfl
    refine ⟨?_, hcomes.of_error.outcomes⟩
    rw [hcomes.of_error.store]
  · rintro t rfl
    exact hcomes.of_ok

end Worker

-- A worker has a copy of the first of two messages that is ahead of what is stored.

/-- The copy, after a first attempt. -/
def Message.copied : Message :=
  { Message.toLoopback with
    status := .retry, attemptCount := Count.zero.next, nextRetryAt := some .epoch }

/-- What is stored is delivered with the second attempt then, by the count of the copy, and the other
message is left alone. -/
theorem Worker.delivery_confined_copied : ∃ w',
    (plain.deliver .copied).run .holdingTwo = (some (.ok (.delivered 200)), w')
      ∧ w'.store.get? Message.toNowhere.id = some .toNowhere
      ∧ (∃ row, w'.store.get? Message.copied.id = some row ∧ row.status = .success
        ∧ row.attemptCount = Count.zero.next.next ∧ row.nextRetryAt = none)
      ∧ (∃ a, w'.store.attempts = [a] ∧ a.number = Count.zero.next.next)
      ∧ w'.stats.successful = 1 ∧ w'.stats.rejected = 0 := by
  -- the run is computed; the theorem tells what it has done
  have hanswer : ((plain.deliver .copied).run .holdingTwo).1 = some (.ok (.delivered 200)) :=
    eq_some_ok (by decide +kernel)
  have hrecorded : ((plain.deliver .copied).run .holdingTwo).2.store.attempts.length = 1 := by
    decide +kernel
  have hparsed : (DeliveryRequest.ofMessage .copied).toOption.isSome = true := by decide +kernel
  have hrun : (plain.deliver .copied).run .holdingTwo
      = (some (.ok (.delivered 200)), ((plain.deliver .copied).run .holdingTwo).2) :=
    Prod.ext hanswer rfl
  obtain ⟨hconfined, -, hrecords, -, hends⟩ := delivery_confined hrun
  obtain ⟨⟨stored, row, -, hrow, hleaves⟩, hcounted⟩ := hends _ rfl
  refine ⟨_, hrun, ?_, ⟨row, hrow, ?_⟩, ?_, hcounted .delivered (by decide),
    hcounted .rejected (by decide)⟩
  · rw [hconfined.others _ (by decide)]
    decide +kernel
  · cases hleaves with
    | delivered => exact ⟨rfl, rfl, rfl⟩
  · cases hr : DeliveryRequest.ofMessage .copied with
    | error reason =>
      rw [hr] at hparsed
      cases hparsed
    | ok r =>
      rcases (hrecords r hr).2 with hnone | ⟨a, hone, -, hnumber⟩
      · rw [hnone] at hrecorded
        cases hrecorded
      · exact ⟨a, hone, hnumber⟩

end WebhookDelivery
