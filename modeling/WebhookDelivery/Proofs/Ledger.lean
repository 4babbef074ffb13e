import WebhookDelivery.Pipeline.World

/-!
# What is on record

Of all that a world holds, the fate of messages depends on little: the stored messages, the
recorded attempts, the waiting queue entries, and how many identifiers were given out. This is the
world's ledger. Every call changes it in one of a few ways, which depend on the answer to the call
alone: `Effect` lists them, and `World.effect_of_perform` says that the list is complete.

A call that fails leaves the ledger as it is, whatever the cause: planned failures, injected
failures and rejected pushes are all alike here. Where a write must not fail, `World.Writable` says
that none is made to, and the lemmas under it that it is then carried out.

* `Store.of_update` and its siblings — what the store makes of a write that it carries out.
* `World.effect_of_perform` — an answered call has one of the listed effects.
* `World.ledger_of_unanswered` — a call without an answer has none.
* `World.kept_perform` — what no call changes.
* `World.Writable.update` and its siblings — writes that are carried out.
* `World.RecordsAttempts.record` — recorded attempts, where only these are sure to be written.
-/

namespace WebhookDelivery

-- ---------------------------------------------------------------------------
-- Ledgers
-- ---------------------------------------------------------------------------

/-- What is on record of messages. -/
structure Ledger where
  messages : List Message
  attempts : List Attempt
  /-- Waiting queue entries, the head first. -/
  entries : List String
  /-- How many message identifiers were given out. -/
  created : Nat

/-- The ledger of a world. -/
def World.ledger (w : World) : Ledger :=
  ⟨w.store.messages, w.store.attempts, w.queue.entries, w.created⟩

/-- A stored message after the write-back of a copy: what a delivery may change is the copy's. -/
def Message.progressed (stored copy : Message) : Message :=
  { stored with status := copy.status, attemptCount := copy.attemptCount
                nextRetryAt := copy.nextRetryAt, updatedAt := copy.updatedAt }

/-- A stored message that was put back into the queue. -/
def Message.requeued (m : Message) (now : Instant) : Message :=
  { m with status := .pending, nextRetryAt := none, updatedAt := now }

theorem Message.nodup_of_ids {l : List Message} (h : (l.map (·.id)).Nodup) : l.Nodup :=
  List.Pairwise.of_map _ (fun _ _ hne heq => hne (congrArg _ heq)) h

/-- A change of status that is allowed changes the status, the time of the change, and the due time,
which only a retry keeps. -/
theorem Message.eq_of_setStatus {m m' : Message} {status : Status} {now : Instant}
    (h : m.setStatus status now = .ok m') :
    m' = { m with status, updatedAt := now
                  nextRetryAt := if status = .retry then m.nextRetryAt else none } := by
  rw [setStatus] at h
  split at h
  · cases h
  · exact (Except.ok.inj h).symm

namespace Ledger

/-- The stored message of an identifier. -/
def get? (k : Ledger) (id : MessageId) : Option Message :=
  k.messages.find? (·.id = id)

/-- The ledger with a message in the place of the one with its identifier, or at the end. -/
def put (k : Ledger) (m : Message) : Ledger :=
  { k with messages := Store.place m k.messages }

/-- The attempts recorded for a message, in the order in which they were recorded. -/
def attemptsOf (k : Ledger) (id : MessageId) : List Attempt :=
  k.attempts.filter (·.messageId = id)

theorem id_of_get? {k : Ledger} {id : MessageId} {m : Message} (h : k.get? id = some m) :
    m.id = id := by
  simpa using List.find?_some h

theorem mem_of_get? {k : Ledger} {id : MessageId} {m : Message} (h : k.get? id = some m) :
    m ∈ k.messages :=
  List.mem_of_find?_eq_some h

/-- If no identifier is there twice, every stored message is found under its own. -/
theorem get?_of_mem {k : Ledger} (hdistinct : (k.messages.map (·.id)).Nodup) {m : Message}
    (h : m ∈ k.messages) : k.get? m.id = some m := by
  rw [get?, List.find?_eq_some_iff_append]
  obtain ⟨before, after, heq⟩ := List.append_of_mem h
  refine ⟨by simp, before, after, heq, ?_⟩
  intro n hn
  rw [heq, List.map_append, List.nodup_append] at hdistinct
  have hne := hdistinct.2.2 n.id (List.mem_map_of_mem hn) m.id (by simp)
  simpa using hne

/-- Then two stored messages of one identifier are one. -/
theorem eq_of_id {k : Ledger} (hdistinct : (k.messages.map (·.id)).Nodup) {m n : Message}
    (hm : m ∈ k.messages) (hn : n ∈ k.messages) (hid : m.id = n.id) : m = n := by
  have hget := get?_of_mem hdistinct hm
  rw [hid, get?_of_mem hdistinct hn] at hget
  exact (Option.some.inj hget).symm

/-- After a message was put, its identifier finds it, and all others find what they found before. -/
theorem find?_place (m : Message) (l : List Message) (id : MessageId) :
    (Store.place m l).find? (·.id = id) = if m.id = id then some m else l.find? (·.id = id) := by
  induction l with
  | nil => simp [Store.place, List.find?]
  | cons n rest ih =>
    rw [Store.place]
    by_cases hn : n.id = m.id
    · rw [if_pos hn, List.find?_cons, List.find?_cons, hn]
      by_cases hm : m.id = id <;> simp [hm]
    · rw [if_neg hn, List.find?_cons, List.find?_cons, ih]
      by_cases hm : m.id = id
      · -- the message that was put comes later in the list
        have hne : n.id ≠ id := fun h => hn (h.trans hm.symm)
        simp [hm, hne]
      · simp [hm]

/-- What is found after a message was put. -/
theorem get?_put (k : Ledger) (m : Message) (id : MessageId) :
    (k.put m).get? id = if m.id = id then some m else k.get? id :=
  find?_place m k.messages id

theorem get?_put_self (k : Ledger) (m : Message) : (k.put m).get? m.id = some m := by
  rw [get?_put, if_pos rfl]

theorem get?_put_of_ne (k : Ledger) {m : Message} {id : MessageId} (h : m.id ≠ id) :
    (k.put m).get? id = k.get? id := by
  rw [get?_put, if_neg h]

/-- A message that is new leaves the others where they are. -/
theorem get?_put_of_missing {k : Ledger} {m n : Message} {id : MessageId}
    (hmissing : k.get? m.id = none) (hget : k.get? id = some n) : (k.put m).get? id = some n := by
  refine (get?_put_of_ne k fun heq => ?_).trans hget
  rw [heq, hget] at hmissing
  cases hmissing

/-- A message that was put adds its identifier only if it is new. -/
theorem ids_place (m : Message) (l : List Message) :
    (Store.place m l).map (·.id)
      = if m.id ∈ l.map (·.id) then l.map (·.id) else l.map (·.id) ++ [m.id] := by
  induction l with
  | nil => simp [Store.place]
  | cons n rest ih =>
    rw [Store.place]
    by_cases hn : n.id = m.id
    · simp [hn]
    · rw [if_neg hn, List.map_cons, ih]
      have hne : m.id ≠ n.id := fun h => hn h.symm
      by_cases hm : m.id ∈ rest.map (·.id) <;> simp [hm, hne]

/-- After a message was put, there is nothing on record but this message and what was there. -/
theorem mem_put {k : Ledger} {m n : Message} (h : n ∈ (k.put m).messages) :
    n = m ∨ n ∈ k.messages := by
  have hplace : ∀ l : List Message, n ∈ Store.place m l → n = m ∨ n ∈ l := by
    intro l
    induction l with
    | nil => exact fun hn => .inl (List.mem_singleton.mp hn)
    | cons x rest ih =>
      intro hn
      rw [Store.place] at hn
      split at hn
      · exact (List.mem_cons.mp hn).imp_right (List.mem_cons_of_mem x)
      · rcases List.mem_cons.mp hn with rfl | hn
        · exact .inr List.mem_cons_self
        · exact (ih hn).imp_right (List.mem_cons_of_mem x)
  exact hplace k.messages h

/-- Identifiers stay distinct when a message is put. -/
theorem nodup_put {k : Ledger} (hdistinct : (k.messages.map (·.id)).Nodup) (m : Message) :
    ((k.put m).messages.map (·.id)).Nodup := by
  show ((Store.place m k.messages).map (·.id)).Nodup
  rw [ids_place]
  split
  · exact hdistinct
  · rename_i hnew
    -- a new identifier is none of those before
    rw [List.nodup_append]
    refine ⟨hdistinct, by simp, ?_⟩
    intro a ha b hb hab
    rw [List.mem_singleton] at hb
    exact hnew (hb ▸ hab ▸ ha)

/-- The messages whose retry is due, the earliest first. -/
def dueRetries (k : Ledger) (limit : Nat) (now : Instant) : List Message :=
  Store.dueRetries { messages := k.messages } limit now

/-- The pending messages, the oldest first. -/
def pending (k : Ledger) (limit : Nat) : List Message :=
  Store.pending { messages := k.messages } limit

/-- A message that a query finds due is stored and waits for a retry that is due. -/
theorem mem_dueRetries {k : Ledger} {limit : Nat} {now : Instant} {m : Message}
    (h : m ∈ k.dueRetries limit now) : m ∈ k.messages ∧ m.isRetryDue now = true := by
  rw [dueRetries, Store.dueRetries] at h
  have hsort := List.mem_of_mem_take h
  rw [List.mem_mergeSort, List.mem_filter] at hsort
  exact hsort

/-- No message is due twice in one query. -/
theorem nodup_dueRetries {k : Ledger} (hdistinct : (k.messages.map (·.id)).Nodup) (limit : Nat)
    (now : Instant) : ((k.dueRetries limit now).map (·.id)).Nodup := by
  rw [dueRetries, Store.dueRetries, List.map_take]
  refine List.Nodup.sublist (List.take_sublist _ _) ?_
  refine ((List.mergeSort_perm _ _).map _).nodup_iff.mpr ?_
  exact List.Nodup.sublist (List.filter_sublist.map _) hdistinct

/-- The query for pending messages gives out stored messages that are pending. -/
theorem mem_pending {k : Ledger} {limit : Nat} {m : Message} (h : m ∈ k.pending limit) :
    m ∈ k.messages ∧ m.status = .pending := by
  rw [pending, Store.pending] at h
  have hsort := List.mem_of_mem_take h
  rw [List.mem_mergeSort, List.mem_filter] at hsort
  simpa using hsort

end Ledger

-- ---------------------------------------------------------------------------
-- Effects
-- ---------------------------------------------------------------------------

/-- Answers that come with no change on record and tell nothing of it. -/
def Call.Quiet : (c : Call) → c.Answer → Prop
  | .createMessage _, answer => ∃ e, answer = .error e
  | .findMessage _, answer => ∃ e, answer = .error e
  | .updateMessageStatus _ _, answer => ∃ e, answer = .error e
  | .updateMessage _, answer => ∃ e, answer = .error e
  | .findRetryReady _ _, answer => ∃ e, answer = .error e
  | .findPending _, answer => ∃ e, answer = .error e
  | .requeueMessage _ _, answer => ∃ e, answer = .error e
  | .recordAttempt _, answer => ∃ e, answer = .error e
  | .push _, answer => ∃ e, answer = .error e
  | .pop, answer => ∀ entry, answer ≠ .ok (some entry)
  | .queueContains _, _ => False
  | .findAttempts _, _ | .findSigningSecret _, _ | .queueLength, _ | .now, _ | .sleep _, _
  | .send _ _, _ | .drawOffset _, _ | .note _, _ => True

/-- What an answered call does to the ledger, where `ids` are the identifiers given out. -/
inductive Effect (ids : Nat → MessageId) (k : Ledger) : (c : Call) → c.Answer → Ledger → Prop where
  | quiet {c : Call} {answer : c.Answer} (h : c.Quiet answer) : Effect ids k c answer k
  | create (d : Draft) (now : Instant) :
    Effect ids k (.createMessage d) (.ok (.ofDraft (ids k.created) d now))
      { k.put (.ofDraft (ids k.created) d now) with created := k.created + 1 }
  | find {id : MessageId} {m : Message} (h : k.get? id = some m) :
    Effect ids k (.findMessage id) (.ok m) k
  | setStatus {id : MessageId} {status : Status} {m m' : Message} {now : Instant}
    (h : k.get? id = some m) (hset : m.setStatus status now = .ok m') :
    Effect ids k (.updateMessageStatus id status) (.ok m') (k.put m')
  | update {stored m : Message} (h : k.get? m.id = some stored) :
    Effect ids k (.updateMessage m) (.ok ()) (k.put (stored.progressed m))
  | due (limit : Nat) (now : Instant) :
    Effect ids k (.findRetryReady limit now) (.ok (k.dueRetries limit now)) k
  | pending (limit : Nat) : Effect ids k (.findPending limit) (.ok (k.pending limit)) k
  | requeue {id : MessageId} {due : Instant} {m : Message} (now : Instant)
    (h : k.get? id = some m) (hretry : m.status = .retry) (hdue : m.nextRetryAt = some due) :
    Effect ids k (.requeueMessage id due) (.ok true) (k.put (m.requeued now))
  | keep {id : MessageId} {due : Instant}
    (h : ∀ m, k.get? id = some m → m.status = .retry → m.nextRetryAt ≠ some due) :
    Effect ids k (.requeueMessage id due) (.ok false) k
  | record (a : NewAttempt) (id : Uuid) :
    Effect ids k (.recordAttempt a) (.ok (a.record id))
      { k with attempts := k.attempts ++ [a.record id] }
  | push (entry : String) :
    Effect ids k (.push entry) (.ok ()) { k with entries := k.entries ++ [entry] }
  | pop {entry : String} {rest : List String} (h : k.entries = entry :: rest) :
    Effect ids k .pop (.ok (some entry)) { k with entries := rest }
  | contains {entry : String} {present : Bool} (h : k.entries.contains entry = present) :
    Effect ids k (.queueContains entry) (.ok present) k

/-- The calls that write messages or attempts. -/
def Call.writesRecord : Call → Bool
  | .createMessage _ | .updateMessageStatus _ _ | .updateMessage _ | .requeueMessage _ _
  | .recordAttempt _ => true
  | _ => false

/-- A call that writes no record leaves the messages as they are. -/
theorem Effect.messages_eq {ids : Nat → MessageId} {k k' : Ledger} {c : Call} {answer : c.Answer}
    (h : Effect ids k c answer k') (hc : c.writesRecord = false) : k'.messages = k.messages := by
  cases h with
  | create | setStatus | update | requeue | record => cases hc
  | _ => rfl

/-- A call that writes no record leaves the attempts as they are. -/
theorem Effect.attempts_eq {ids : Nat → MessageId} {k k' : Ledger} {c : Call} {answer : c.Answer}
    (h : Effect ids k c answer k') (hc : c.writesRecord = false) : k'.attempts = k.attempts := by
  cases h with
  | create | setStatus | update | requeue | record => cases hc
  | _ => rfl

-- ---------------------------------------------------------------------------
-- Writes that are carried out
-- ---------------------------------------------------------------------------

namespace Store

variable {s s' : Store} {id : MessageId} {m : Message} {now : Instant}

/-- A change of status that was carried out: of a stored message, which is put back changed. -/
theorem of_setStatus {status : Status} (h : s.setStatus id status now = .ok (m, s')) :
    ∃ stored, s.get? id = some stored ∧ stored.setStatus status now = .ok m ∧ s' = s.insert m := by
  rw [setStatus] at h
  split at h
  · cases h
  · split at h
    · cases h
    · rename_i stored hget
      split at h
      · cases h
      · rename_i hset
        obtain ⟨rfl, rfl⟩ := Prod.mk.inj (Except.ok.inj h)
        exact ⟨stored, hget, hset, rfl⟩

/-- A write-back that was carried out: to a stored message, which takes what a delivery may change
from the copy. -/
theorem of_update (h : s.update m = .ok s') :
    ∃ stored, s.get? m.id = some stored ∧ s' = s.insert (stored.progressed m) := by
  rw [update] at h
  split at h
  · cases h
  · split at h
    · cases h
    · split at h
      · cases h
      · rename_i stored hget
        exact ⟨stored, hget, (Except.ok.inj h).symm⟩

/-- An answer of nothing beside a store takes nothing from it. -/
theorem ok_of_map {r : Except StoreError Store} {u : Unit}
    (h : (r.map fun store => ((), store)) = .ok (u, s')) : r = .ok s' := by
  cases r with
  | error e => cases h
  | ok store => rw [(Prod.mk.inj (Except.ok.inj h)).2]

/-- Nothing is put back but a message that waits for the retry that was due then. -/
theorem of_requeue {due : Instant} {b : Bool} (h : s.requeue id due now = .ok (b, s')) :
    (b = true ∧ ∃ stored, s.get? id = some stored ∧ stored.status = .retry
      ∧ stored.nextRetryAt = some due ∧ s' = s.insert (stored.requeued now))
    ∨ (b = false ∧ s' = s
      ∧ ∀ stored, s.get? id = some stored → stored.status = .retry →
        stored.nextRetryAt ≠ some due) := by
  rw [requeue] at h
  split at h
  · cases h
  · split at h
    · rename_i hget
      obtain ⟨rfl, rfl⟩ := Prod.mk.inj (Except.ok.inj h)
      -- no message is stored under the identifier
      refine .inr ⟨rfl, rfl, fun stored hstored => ?_⟩
      rw [hget] at hstored
      cases hstored
    · rename_i stored hget
      split at h
      · rename_i hchanged
        obtain ⟨rfl, rfl⟩ := Prod.mk.inj (Except.ok.inj h)
        -- the message has changed, so that it is left alone
        refine .inr ⟨rfl, rfl, fun other hother hretry hdue => ?_⟩
        obtain rfl : stored = other := Option.some.inj (hget.symm.trans hother)
        simp [hretry, hdue] at hchanged
      · rename_i hwaits
        rw [not_or, Decidable.not_not, Decidable.not_not] at hwaits
        -- the message still waits as it was read
        obtain ⟨rfl, rfl⟩ : b = true ∧ s' = s.insert (stored.requeued now) := by
          obtain ⟨hb, hs⟩ := Prod.mk.inj (Except.ok.inj h)
          exact ⟨hb.symm, hs.symm⟩
        exact .inl ⟨rfl, stored, hget, hwaits.1, hwaits.2, rfl⟩

/-- An attempt that was recorded: it is at the end. -/
theorem of_record {uuid : Uuid} {a : NewAttempt} {recorded : Attempt}
    (h : s.record uuid a = .ok (recorded, s')) :
    recorded = a.record uuid ∧ s' = { s with attempts := s.attempts ++ [a.record uuid] } := by
  rw [record] at h
  split at h
  · cases h
  · split at h
    · cases h
    · split at h
      · cases h
      · obtain ⟨rfl, rfl⟩ := Prod.mk.inj (Except.ok.inj h)
        exact ⟨rfl, rfl⟩

end Store

-- ---------------------------------------------------------------------------
-- What a call does
-- ---------------------------------------------------------------------------

namespace World

/-- A store operation meets the failure that is planned for it, or is carried out. -/
theorem storeCall_cases {α : Type} (w : World) (op : StoreOperation)
    (run : Unit → Except StoreError α × World) :
    (∃ e planned, takePlanned op w.planned = some (e, planned)
      ∧ w.storeCall op run = (.error e, { w with planned }))
    ∨ (takePlanned op w.planned = none ∧ w.storeCall op run = run ()) := by
  rw [storeCall]
  cases hplanned : takePlanned op w.planned with
  | none => exact .inr ⟨rfl, rfl⟩
  | some taken => exact .inl ⟨taken.1, taken.2, rfl, rfl⟩

/-- A planned failure does not touch the clock. -/
theorem clock_storeCall {α : Type} (w : World) (op : StoreOperation)
    {run : Unit → Except StoreError α × World} (hrun : (run ()).2.clock = w.clock) :
    (w.storeCall op run).2.clock = w.clock := by
  rcases w.storeCall_cases op run with ⟨e, planned, _, heq⟩ | ⟨_, heq⟩
  · rw [heq]
  · rw [heq]
    exact hrun

theorem clock_write {α : Type} (w : World) (r : Except StoreError (α × Store)) :
    (w.write r).2.clock = w.clock := by
  cases r <;> rfl

/-- A pop that goes as planned does not touch it either. -/
theorem clock_plannedPop (w : World) (plan : PopPlan) : (w.plannedPop plan).2.clock = w.clock := by
  rw [plannedPop]
  split
  · rfl
  · rfl
  · split <;> rfl

/-- Only a pause moves the clock. -/
theorem clock_perform (w : World) {c : Call} (h : ∀ d, c ≠ .sleep d) :
    (w.perform c).2.clock = w.clock := by
  cases c with
  | sleep d => exact absurd rfl (h d)
  | createMessage | findMessage | findRetryReady | findPending | findAttempts
  | findSigningSecret =>
    simp only [perform]
    exact clock_storeCall w _ rfl
  | updateMessageStatus | requeueMessage | recordAttempt | updateMessage =>
    simp only [perform]
    exact clock_storeCall w _ (clock_write _ _)
  | push entry =>
    rw [perform]
    split <;> rfl
  | pop =>
    rw [perform]
    split
    · exact clock_plannedPop w _
    · rfl
  | queueLength | queueContains | now | send | drawOffset | note => rfl

/-- Only a pause moves the clock, answered or not. -/
theorem clock_of_perform (w : World) {c : Call} {answer? : Option c.Answer} {w' : World}
    (hperform : w.perform c = (answer?, w')) (h : ∀ d, c ≠ .sleep d) : w'.clock = w.clock := by
  have hclock := w.clock_perform h
  rw [hperform] at hclock
  exact hclock

/-- A store operation whose failure would be quiet does what its execution does. -/
theorem effect_of_storeCall {w w' : World} {c : Call} {answer : c.Answer} {op : StoreOperation}
    {α : Type} {run : Unit → Except StoreError α × World} (as : Except StoreError α → c.Answer)
    (hquiet : ∀ e, c.Quiet (as (.error e)))
    (hrun : Effect w.supply.messageIds w.ledger c (as (run ()).1) (run ()).2.ledger)
    (h : (some (as (w.storeCall op run).1), (w.storeCall op run).2) = (some answer, w')) :
    Effect w.supply.messageIds w.ledger c answer w'.ledger := by
  obtain ⟨rfl, rfl⟩ : as (w.storeCall op run).1 = answer ∧ (w.storeCall op run).2 = w' := by
    simpa using h
  rcases w.storeCall_cases op run with ⟨e, planned, _, heq⟩ | ⟨_, heq⟩
  · rw [heq]
    exact .quiet (hquiet e)
  · rw [heq]
    exact hrun

/-- A look at a message changes nothing, and finds it if it is stored. -/
theorem effect_find (w : World) (id : MessageId) :
    Effect w.supply.messageIds w.ledger (.findMessage id) (w.store.find id) w.ledger := by
  rw [Store.find]
  cases hget : w.store.get? id with
  | none => exact .quiet ⟨_, rfl⟩
  | some m => exact .find hget

/-- A change of status puts the changed message in place of the stored one, or fails. -/
theorem effect_setStatus (w : World) (id : MessageId) (status : Status) (now : Instant) :
    Effect w.supply.messageIds w.ledger (.updateMessageStatus id status)
      (w.write (w.store.setStatus id status now)).1
      (w.write (w.store.setStatus id status now)).2.ledger := by
  rcases hwrite : w.store.setStatus id status now with e | ⟨m, store⟩
  · exact .quiet ⟨e, rfl⟩
  · obtain ⟨stored, hget, hset, rfl⟩ := Store.of_setStatus hwrite
    exact .setStatus hget hset

/-- A write-back puts the stored message in place with what the copy says, or fails. -/
theorem effect_update (w : World) (m : Message) :
    Effect w.supply.messageIds w.ledger (.updateMessage m)
      (w.write ((w.store.update m).map fun store => ((), store))).1
      (w.write ((w.store.update m).map fun store => ((), store))).2.ledger := by
  rcases hwrite : w.store.update m with e | store
  · exact .quiet ⟨e, rfl⟩
  · obtain ⟨stored, hget, rfl⟩ := Store.of_update hwrite
    exact .update hget

/-- The query for due retries changes nothing on record, and answers with what is due or fails. -/
theorem effect_findDue (w : World) (limit : Nat) (now : Instant) :
    Effect w.supply.messageIds w.ledger (.findRetryReady limit now)
      (w.store.findDue limit now).1 { w with store := (w.store.findDue limit now).2 }.ledger := by
  rw [Store.findDue]
  split
  · exact .quiet ⟨_, rfl⟩
  · exact .due limit now

/-- A compare-and-set makes a message that still waits for the same due time pending, or leaves all
as it is. -/
theorem effect_requeue (w : World) (id : MessageId) (due now : Instant) :
    Effect w.supply.messageIds w.ledger (.requeueMessage id due)
      (w.write (w.store.requeue id due now)).1 (w.write (w.store.requeue id due now)).2.ledger := by
  rcases hwrite : w.store.requeue id due now with e | ⟨b, store⟩
  · exact .quiet ⟨e, rfl⟩
  · rcases Store.of_requeue hwrite with
      ⟨rfl, stored, hget, hretry, hdue, rfl⟩ | ⟨rfl, rfl, hother⟩
    · exact .requeue now hget hretry hdue
    · exact .keep hother

/-- A record is appended, or the call fails. -/
theorem effect_record (w : World) (a : NewAttempt) (id : Uuid) :
    Effect w.supply.messageIds w.ledger (.recordAttempt a)
      (w.write (w.store.record id a)).1 (w.write (w.store.record id a)).2.ledger := by
  rcases hwrite : w.store.record id a with e | ⟨recorded, store⟩
  · exact .quiet ⟨e, rfl⟩
  · obtain ⟨rfl, rfl⟩ := Store.of_record hwrite
    exact .record a id

/-- A push appends its entry, or fails. -/
theorem effect_push {w w' : World} {entry : String} {answer : Except PipelineError Unit}
    (h : w.perform (.push entry) = (some answer, w')) :
    Effect w.supply.messageIds w.ledger (.push entry) answer w'.ledger := by
  rw [perform] at h
  cases hpush : w.queue.push entry with
  | error e =>
    rw [hpush] at h
    obtain ⟨hanswer, rfl⟩ := Prod.mk.inj h
    exact .quiet ⟨e, (Option.some.inj hanswer).symm⟩
  | ok queue =>
    rw [hpush] at h
    obtain ⟨hanswer, rfl⟩ := Prod.mk.inj h
    rw [Queue.push] at hpush
    split at hpush
    · cases hpush
    · rw [← Option.some.inj hanswer, ← Except.ok.inj hpush]
      exact .push entry

/-- A pop that goes as planned takes the head, if it takes anything. -/
theorem effect_plannedPop (w : World) (plan : PopPlan) :
    Effect w.supply.messageIds w.ledger .pop (w.plannedPop plan).1
      (w.plannedPop plan).2.ledger := by
  rw [plannedPop]
  split
  · exact .quiet (by rintro _ ⟨⟩)
  · exact .quiet (by rintro _ ⟨⟩)
  · rw [Queue.pop]
    cases hentries : w.queue.entries with
    | nil => exact .quiet (by rintro _ ⟨⟩)
    | cons entry rest => exact .pop hentries

/-- A pop takes the head, if it takes anything. -/
theorem effect_pop {w w' : World} {answer : Except PipelineError (Option String)}
    (h : w.perform .pop = (some answer, w')) :
    Effect w.supply.messageIds w.ledger .pop answer w'.ledger := by
  rw [perform] at h
  split at h
  · obtain ⟨hanswer, rfl⟩ := Prod.mk.inj h
    rw [← Option.some.inj hanswer]
    exact effect_plannedPop w _
  · obtain ⟨hanswer, rfl⟩ := Prod.mk.inj h
    rw [← Option.some.inj hanswer]
    cases hentries : w.queue.entries with
    | nil => exact .quiet (by rintro _ ⟨⟩)
    | cons entry rest => exact .pop hentries

/-- An answered call has one of the listed effects. -/
theorem effect_of_perform {w w' : World} {c : Call} {answer : c.Answer}
    (h : w.perform c = (some answer, w')) :
    Effect w.supply.messageIds w.ledger c answer w'.ledger := by
  cases c with
  -- operations of the store: a planned failure, or the effect of the operation itself
  | createMessage d =>
    simp only [perform] at h
    refine effect_of_storeCall (fun r => r) (fun e => ⟨e, rfl⟩) ?_ h
    exact .create d (w.supply.storeTimes w.asked)
  | findMessage id =>
    simp only [perform] at h
    refine effect_of_storeCall (fun r => r) (fun e => ⟨e, rfl⟩) ?_ h
    exact effect_find w id
  | updateMessageStatus id status =>
    simp only [perform] at h
    refine effect_of_storeCall (fun r => r) (fun e => ⟨e, rfl⟩) ?_ h
    exact effect_setStatus w.storeTime.2 id status w.storeTime.1
  | updateMessage m =>
    simp only [perform] at h
    refine effect_of_storeCall (fun r => r) (fun e => ⟨e, rfl⟩) ?_ h
    exact effect_update w m
  | findRetryReady limit now =>
    simp only [perform] at h
    refine effect_of_storeCall (fun r => r) (fun e => ⟨e, rfl⟩) ?_ h
    exact effect_findDue w limit now
  | findPending limit =>
    simp only [perform] at h
    refine effect_of_storeCall (fun r => r) (fun e => ⟨e, rfl⟩) ?_ h
    exact .pending limit
  | requeueMessage id due =>
    simp only [perform] at h
    refine effect_of_storeCall (fun r => r) (fun e => ⟨e, rfl⟩) ?_ h
    exact effect_requeue w.storeTime.2 id due w.storeTime.1
  | recordAttempt a =>
    simp only [perform] at h
    refine effect_of_storeCall (fun r => r) (fun e => ⟨e, rfl⟩) ?_ h
    exact effect_record { w with asked := w.asked + 1 } a (w.supply.attemptIds w.asked)
  | findAttempts id =>
    simp only [perform] at h
    exact effect_of_storeCall (fun r => r) (fun _ => by trivial) (.quiet (by trivial)) h
  | findSigningSecret org =>
    simp only [perform] at h
    exact effect_of_storeCall (fun r => r) (fun _ => by trivial) (.quiet (by trivial)) h
  -- the queue, the clock, and all that leaves the record alone
  | push entry => exact effect_push h
  | pop => exact effect_pop h
  | queueContains entry =>
    obtain ⟨hanswer, rfl⟩ := Prod.mk.inj h
    obtain rfl := Option.some.inj hanswer
    exact .contains rfl
  | sleep d =>
    have hledger : w'.ledger = w.ledger := by
      rw [perform] at h
      split at h <;> rw [← (Prod.mk.inj h).2] <;> rfl
    rw [hledger]
    exact .quiet (by trivial)
  | queueLength | now | send _ _ | drawOffset _ | note _ =>
    obtain rfl := (Prod.mk.inj h).2
    exact .quiet (by trivial)

/-- Only the clock can leave a call without an answer, and then nothing on record changes. -/
theorem ledger_of_unanswered {w w' : World} {c : Call} (h : w.perform c = (none, w')) :
    w'.ledger = w.ledger := by
  cases c with
  -- the clock has moved as far as it could
  | sleep d =>
    rw [perform] at h
    split at h <;> rw [← (Prod.mk.inj h).2] <;> rfl
  | push entry =>
    rw [perform] at h
    split at h <;> cases (Prod.mk.inj h).1
  | pop =>
    rw [perform] at h
    split at h <;> cases (Prod.mk.inj h).1
  | now => rw [(Prod.mk.inj h).2]
  | _ => cases (Prod.mk.inj h).1

end World

-- ---------------------------------------------------------------------------
-- What no call does
-- ---------------------------------------------------------------------------

/-- What stays in every world that calls lead to: the outside's supply, and the failures that were
asked for, except that planned ones are used up. -/
structure World.Kept (w w' : World) : Prop where
  supply : w'.supply = w.supply
  updates : w'.store.failMessageUpdates = w.store.failMessageUpdates
  records : w'.store.failAttemptWrites = w.store.failAttemptWrites
  planned : w'.planned ⊆ w.planned
  popPlan : w.popPlan = none → w'.popPlan = none

namespace World

theorem Kept.refl (w : World) : w.Kept w :=
  ⟨rfl, rfl, rfl, List.Subset.refl _, id⟩

/-- A planned failure that was met is no longer planned, and no other is added. -/
theorem subset_of_takePlanned {op : StoreOperation} {planned : List (StoreOperation × StoreError)}
    {e : StoreError} {rest : List (StoreOperation × StoreError)}
    (h : takePlanned op planned = some (e, rest)) : rest ⊆ planned := by
  induction planned generalizing e rest with
  | nil => cases h
  | cons p others ih =>
    obtain ⟨o, failure⟩ := p
    rw [takePlanned] at h
    split at h
    · obtain ⟨-, rfl⟩ := Prod.mk.inj (Option.some.inj h)
      exact List.subset_cons_self _ _
    · obtain ⟨⟨e', rest'⟩, htake, heq⟩ := Option.map_eq_some_iff.mp h
      obtain ⟨-, rfl⟩ := Prod.mk.inj heq
      exact List.cons_subset_cons _ (ih htake)

/-- An operation of the store keeps what no call changes if it does so where no failure is planned.
-/
theorem kept_storeCall {α : Type} (w : World) (op : StoreOperation)
    {run : Unit → Except StoreError α × World} (hrun : w.Kept (run ()).2) :
    w.Kept (w.storeCall op run).2 := by
  rcases w.storeCall_cases op run with ⟨e, planned, htake, heq⟩ | ⟨_, heq⟩
  · rw [heq]
    exact ⟨rfl, rfl, rfl, subset_of_takePlanned htake, id⟩
  · rw [heq]
    exact hrun

/-- A write keeps what the store that it writes keeps. -/
theorem kept_write {α : Type} {w w₀ : World} {r : Except StoreError (α × Store)}
    (h₀ : w.Kept w₀)
    (h : ∀ a store, r = .ok (a, store) → store.failMessageUpdates = w₀.store.failMessageUpdates
      ∧ store.failAttemptWrites = w₀.store.failAttemptWrites) :
    w.Kept (w₀.write r).2 := by
  cases r with
  | error e => exact h₀
  | ok result =>
    obtain ⟨hupdates, hrecords⟩ := h result.1 result.2 rfl
    exact ⟨h₀.supply, hupdates.trans h₀.updates, hrecords.trans h₀.records, h₀.planned, h₀.popPlan⟩

/-- A change of status leaves the failures that were asked for as they are. -/
theorem failures_setStatus {s s' : Store} {id : MessageId} {status : Status} {now : Instant}
    {m : Message} (h : s.setStatus id status now = .ok (m, s')) :
    s'.failMessageUpdates = s.failMessageUpdates
      ∧ s'.failAttemptWrites = s.failAttemptWrites := by
  obtain ⟨stored, -, -, rfl⟩ := Store.of_setStatus h
  exact ⟨rfl, rfl⟩

/-- So does a write-back. -/
theorem failures_update {s s' : Store} {m : Message} (h : s.update m = .ok s') :
    s'.failMessageUpdates = s.failMessageUpdates
      ∧ s'.failAttemptWrites = s.failAttemptWrites := by
  obtain ⟨stored, -, rfl⟩ := Store.of_update h
  exact ⟨rfl, rfl⟩

/-- So does a compare-and-set. -/
theorem failures_requeue {s s' : Store} {id : MessageId} {due now : Instant} {b : Bool}
    (h : s.requeue id due now = .ok (b, s')) :
    s'.failMessageUpdates = s.failMessageUpdates
      ∧ s'.failAttemptWrites = s.failAttemptWrites := by
  rcases Store.of_requeue h with ⟨-, stored, -, -, -, rfl⟩ | ⟨-, rfl, -⟩
  · exact ⟨rfl, rfl⟩
  · exact ⟨rfl, rfl⟩

/-- So does a record. -/
theorem failures_record {s s' : Store} {id : Uuid} {a : NewAttempt} {r : Attempt}
    (h : s.record id a = .ok (r, s')) :
    s'.failMessageUpdates = s.failMessageUpdates
      ∧ s'.failAttemptWrites = s.failAttemptWrites := by
  obtain ⟨-, rfl⟩ := Store.of_record h
  exact ⟨rfl, rfl⟩

/-- Every call keeps what no call changes. -/
theorem kept_perform (w : World) (c : Call) : w.Kept (w.perform c).2 := by
  have hasked : w.Kept { w with asked := w.asked + 1 } := ⟨rfl, rfl, rfl, List.Subset.refl _, id⟩
  cases c with
  -- what is written is messages and attempts, never the switches for failures
  | createMessage d =>
    simp only [perform]
    exact kept_storeCall w _ ⟨rfl, rfl, rfl, List.Subset.refl _, fun h => h⟩
  | updateMessageStatus id status =>
    simp only [perform]
    refine kept_storeCall w _ (kept_write hasked ?_)
    exact fun a store h => failures_setStatus h
  | updateMessage m =>
    simp only [perform]
    refine kept_storeCall w _ (kept_write (.refl w) ?_)
    intro a store h
    exact failures_update (Store.ok_of_map h)
  | requeueMessage id due =>
    simp only [perform]
    refine kept_storeCall w _ (kept_write hasked ?_)
    exact fun a store h => failures_requeue h
  | recordAttempt a =>
    simp only [perform]
    refine kept_storeCall w _ (kept_write hasked ?_)
    exact fun a store h => failures_record h
  | findRetryReady limit now =>
    simp only [perform]
    refine kept_storeCall w _ ?_
    have hdue : ∀ s : Store, (s.findDue limit now).2.failMessageUpdates = s.failMessageUpdates
        ∧ (s.findDue limit now).2.failAttemptWrites = s.failAttemptWrites := by
      intro s
      rw [Store.findDue]
      split <;> exact ⟨rfl, rfl⟩
    exact ⟨rfl, (hdue w.store).1, (hdue w.store).2, List.Subset.refl _, id⟩
  | findMessage _ | findPending _ | findAttempts _ | findSigningSecret _ =>
    simp only [perform]
    exact kept_storeCall w _ (.refl w)
  | push entry =>
    rw [perform]
    split <;> exact ⟨rfl, rfl, rfl, List.Subset.refl _, id⟩
  | pop =>
    rw [perform]
    split
    · rename_i plan hplan
      -- a pop that goes as planned leaves a plan behind, as there was one
      have hpop : w.Kept (w.plannedPop plan).2 := by
        rw [plannedPop]
        split
        · exact ⟨rfl, rfl, rfl, List.Subset.refl _, fun h => by cases hplan.symm.trans h⟩
        · exact ⟨rfl, rfl, rfl, List.Subset.refl _, id⟩
        · split
          · exact ⟨rfl, rfl, rfl, List.Subset.refl _, id⟩
          · exact ⟨rfl, rfl, rfl, List.Subset.refl _, fun h => by cases hplan.symm.trans h⟩
      exact hpop
    · exact ⟨rfl, rfl, rfl, List.Subset.refl _, id⟩
  | sleep d =>
    rw [perform]
    split <;> exact ⟨rfl, rfl, rfl, List.Subset.refl _, id⟩
  | queueLength | queueContains _ | now | send _ _ | drawOffset _ | note _ =>
    exact ⟨rfl, rfl, rfl, List.Subset.refl _, id⟩

end World

/-- Nothing is stored, recorded or queued. -/
structure World.Empty (w : World) : Prop where
  messages : w.store.messages = []
  attempts : w.store.attempts = []
  entries : w.queue.entries = []

/-- Two worlds have the same on record, and give out the same identifiers. Clocks may differ, and
so may the failures that were asked for. -/
def World.SameRecord (w w' : World) : Prop :=
  w'.ledger = w.ledger ∧ w'.supply.messageIds = w.supply.messageIds

theorem World.SameRecord.refl (w : World) : w.SameRecord w :=
  ⟨rfl, rfl⟩

/-- A call without an answer leaves the record as it is. -/
theorem World.sameRecord_of_unanswered {w w' : World} {c : Call}
    (h : w.perform c = (none, w')) : w.SameRecord w' := by
  have hkept := w.kept_perform c
  rw [h] at hkept
  exact ⟨ledger_of_unanswered h, congrArg Supply.messageIds hkept.supply⟩

-- ---------------------------------------------------------------------------
-- Queries that succeed
-- ---------------------------------------------------------------------------

namespace World

/-- Where nothing is made to fail, the query for due retries (`find_retry_ready`) answers with what
is due. -/
theorem perform_findRetryReady {w : World} (hquery : w.store.dueQueryFailure = none)
    (hplanned : takePlanned .findRetryReady w.planned = none) (limit : Nat) (now : Instant) :
    w.perform (.findRetryReady limit now) = (some (.ok (w.ledger.dueRetries limit now)), w) := by
  simp only [perform, storeCall, hplanned, Store.findDue, hquery]
  rfl

/-- Where nothing is made to fail, the query for pending messages (`find_pending`) answers with
them. -/
theorem perform_findPending {w : World} (hplanned : takePlanned .findPending w.planned = none)
    (limit : Nat) :
    w.perform (.findPending limit) = (some (.ok (w.ledger.pending limit)), w) := by
  simp only [perform, storeCall, hplanned]
  rfl

/-- Where nothing is made to fail, a message on record is found (`find_message`). -/
theorem perform_findMessage {w : World} (hplanned : takePlanned .findMessage w.planned = none)
    {id : MessageId} {m : Message} (hstored : w.store.get? id = some m) :
    w.perform (.findMessage id) = (some (.ok m), w) := by
  simp only [perform, storeCall, hplanned, Store.find, hstored]

/-- The world in which a pop has left these entries in the queue. -/
def popped (w : World) (rest : List String) : World :=
  { w with queue := { w.queue with entries := rest }, popPlan := none }

/-- A pop that nothing is planned for takes the head of the queue. -/
theorem perform_pop {w : World} (hplan : w.popPlan = none) {entry : String} {rest : List String}
    (hentries : w.queue.entries = entry :: rest) :
    w.perform .pop = (some (.ok (some entry)), w.popped rest) := by
  simp only [perform, hplan, Queue.pop, hentries, popped]

end World

-- ---------------------------------------------------------------------------
-- Writes that succeed
-- ---------------------------------------------------------------------------

/-- The operations that write to the store. -/
def StoreOperation.writes : StoreOperation → Bool
  | .createMessage | .updateMessageStatus | .updateMessage | .requeueMessage | .recordAttempt => true
  | _ => false

namespace World

/-- No write to the store is made to fail. -/
structure Writable (w : World) : Prop where
  updates : w.store.failMessageUpdates = false
  records : w.store.failAttemptWrites = false
  unplanned : ∀ p ∈ w.planned, p.1.writes = false

/-- Calls leave the store as writable as it was. -/
theorem Writable.of_kept {w w' : World} (hkept : w.Kept w') (h : w.Writable) : w'.Writable where
  updates := hkept.updates.trans h.updates
  records := hkept.records.trans h.records
  unplanned p hp := h.unplanned p (hkept.planned hp)

/-- Nothing fails that is not planned to. -/
theorem takePlanned_eq_none {op : StoreOperation} {planned : List (StoreOperation × StoreError)}
    (h : ∀ p ∈ planned, p.1 ≠ op) : takePlanned op planned = none := by
  induction planned with
  | nil => rfl
  | cons p rest ih =>
    obtain ⟨o, e⟩ := p
    rw [takePlanned, if_neg (h (o, e) List.mem_cons_self),
      ih fun q hq => h q (List.mem_cons_of_mem _ hq)]
    rfl

/-- An operation for which no failure is planned is carried out. -/
theorem storeCall_of_unplanned {α : Type} {w : World} {op : StoreOperation}
    (h : ∀ p ∈ w.planned, p.1 ≠ op) (run : Unit → Except StoreError α × World) :
    w.storeCall op run = run () := by
  rw [storeCall, takePlanned_eq_none h]

/-- A write that is not made to fail is carried out. -/
theorem Writable.storeCall_eq {α : Type} {w : World} (h : w.Writable) {op : StoreOperation}
    (hop : op.writes = true) (run : Unit → Except StoreError α × World) :
    w.storeCall op run = run () := by
  refine storeCall_of_unplanned (fun p hp heq => ?_) run
  have hfalse := h.unplanned p hp
  rw [heq, hop] at hfalse
  cases hfalse

/-- A consistent copy of a stored message is written back. -/
theorem Writable.update {w : World} (h : w.Writable) {m stored : Message}
    (hconsistent : m.IsConsistent) (hget : w.ledger.get? m.id = some stored) :
    (w.perform (.updateMessage m)).1 = some (.ok ()) := by
  simp only [perform]
  rw [h.storeCall_eq rfl]
  have hstored : w.store.get? m.id = some stored := hget
  simp [Store.update, h.updates, hconsistent, hstored, write, Except.map]

/-- A stored message takes any status but the retry status, which needs a due time. -/
theorem Writable.setStatus {w : World} (h : w.Writable) {id : MessageId} {status : Status}
    {stored : Message} (hstatus : status ≠ .retry) (hget : w.ledger.get? id = some stored) :
    ∃ m, (w.perform (.updateMessageStatus id status)).1 = some (.ok m) := by
  simp only [perform]
  rw [h.storeCall_eq rfl]
  have hstored : w.store.get? id = some stored := hget
  simp [Store.setStatus, Message.setStatus, h.updates, hstatus, hstored, write, storeTime]

/-- A compare-and-set is carried out; whether it changes anything is another matter. -/
theorem Writable.requeue {w : World} (h : w.Writable) (id : MessageId) (due : Instant) :
    ∃ b, (w.perform (.requeueMessage id due)).1 = some (.ok b) := by
  simp only [perform]
  rw [h.storeCall_eq rfl]
  have hrequeue : ∀ now, ∃ b s, w.store.requeue id due now = .ok (b, s) := by
    intro now
    rw [Store.requeue, h.updates]
    cases w.store.get? id with
    | none => exact ⟨_, _, rfl⟩
    | some m =>
      by_cases hchanged : m.status ≠ .retry ∨ m.nextRetryAt ≠ some due
      · exact ⟨false, w.store, if_pos hchanged⟩
      · exact ⟨true, w.store.insert (m.requeued now), if_neg hchanged⟩
  obtain ⟨b, s, heq⟩ := hrequeue w.storeTime.1
  refine ⟨b, ?_⟩
  show some (w.storeTime.2.write (w.store.requeue id due w.storeTime.1)).1 = some (.ok b)
  rw [heq]
  rfl

/-- No write of an attempt is made to fail. -/
structure RecordsAttempts (w : World) : Prop where
  records : w.store.failAttemptWrites = false
  unplanned : ∀ p ∈ w.planned, p.1 ≠ .recordAttempt

/-- Calls leave attempts as recordable as they were. -/
theorem RecordsAttempts.of_kept {w w' : World} (hkept : w.Kept w') (h : w.RecordsAttempts) :
    w'.RecordsAttempts where
  records := hkept.records.trans h.records
  unplanned p hp := h.unplanned p (hkept.planned hp)

/-- Where no write fails, attempts are recorded. -/
theorem Writable.recordsAttempts {w : World} (h : w.Writable) : w.RecordsAttempts where
  records := h.records
  unplanned p hp heq := by
    have hfalse := h.unplanned p hp
    rw [heq] at hfalse
    cases hfalse

/-- An attempt on a stored message is recorded, if its text can be stored. -/
theorem RecordsAttempts.record {w : World} (h : w.RecordsAttempts) {a : NewAttempt}
    {stored : Message} (hbody : a.result.responseBody.any (·.toList.contains '\x00') = false)
    (hget : w.ledger.get? a.messageId = some stored) :
    ∃ r, (w.perform (.recordAttempt a)).1 = some (.ok r) := by
  simp only [perform]
  rw [storeCall_of_unplanned h.unplanned]
  have hcontains : w.store.contains a.messageId = true := by
    rw [Store.contains, List.any_eq_true]
    exact ⟨stored, Ledger.mem_of_get? hget, by simpa using Ledger.id_of_get? hget⟩
  rw [Store.record, h.records, hbody, hcontains]
  exact ⟨_, rfl⟩

end World

end WebhookDelivery
