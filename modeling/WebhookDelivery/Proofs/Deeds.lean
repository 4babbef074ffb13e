import WebhookDelivery.Proofs.SecretIndependence

/-!
# What is done for one message

Work for a message leaves other messages alone, and what it does does not depend on them. Its deed
is what becomes of the message, the attempts that it adds to the record and the events that it adds
to the counters. Two worlds that are alike for the message see the same deed, with identifiers and
times of their own for the attempts.

* `Deed.Done` — a deed as all that lies between two worlds.
* `World.Alike.perform` — calls for one message, in worlds that are alike for it.
* `Task.Makes.sameDeed` — tasks of such calls.
-/

namespace WebhookDelivery

-- ---------------------------------------------------------------------------
-- Events that only count
-- ---------------------------------------------------------------------------

/-- Whether an event only adds to counters, whatever was counted before. -/
def Event.tallies : Event → Bool
  | .processed | .delivered | .retryScheduled | .deadLettered | .rejected => true
  | _ => false

/-- The order in which two events are tallied does not show in the totals. -/
theorem Stats.count_comm (s : Stats) {e e' : Event} (h : e.tallies = true)
    (h' : e'.tallies = true) : (s.count e).count e' = (s.count e').count e := by
  cases e <;> cases h <;> cases e' <;> cases h' <;> rfl

theorem Metrics.count_comm (m : Metrics) {e e' : Event} (h : e.tallies = true)
    (h' : e'.tallies = true) : (m.count e).count e' = (m.count e').count e := by
  cases e <;> cases h <;> cases e' <;> cases h' <;> rfl

-- ---------------------------------------------------------------------------
-- Deeds
-- ---------------------------------------------------------------------------

/-- An attempt without what the outside has supplied for its record. -/
def Attempt.bare (a : Attempt) : Attempt :=
  { a.untimed with id := default }

/-- What was done for a message. -/
structure Deed (id : MessageId) where
  /-- What is stored under its identifier then. -/
  message : Option Message
  /-- The attempts that were recorded. -/
  attempts : List Attempt
  /-- What was counted. -/
  events : List Event
  own : ∀ a ∈ attempts, a.messageId = id
  tallied : ∀ e ∈ events, e.tallies = true

theorem Store.contains_eq (s : Store) (id : MessageId) : s.contains id = (s.get? id).isSome := by
  rw [contains, get?, List.isSome_find?]

/-- The world around messages and attempts, without what was counted, sent and asked for. -/
def World.setting (w : World) : World :=
  { w with
    store := { w.store with messages := [], attempts := [] }
    stats := {}, metrics := {}, sent := [], asked := 0 }

namespace Deed

variable {id : MessageId}

/-- Nothing was recorded or counted. -/
def leaving (id : MessageId) (message : Option Message) : Deed id where
  message := message
  attempts := []
  events := []
  own := List.forall_mem_nil _
  tallied := List.forall_mem_nil _

/-- An attempt was recorded. -/
def recording (message : Option Message) (a : Attempt) (own : a.messageId = id) : Deed id where
  message := message
  attempts := [a]
  events := []
  own := List.forall_mem_singleton.mpr own
  tallied := List.forall_mem_nil _

/-- An event was counted. -/
def counting (message : Option Message) (e : Event) (tallies : e.tallies = true) : Deed id where
  message := message
  attempts := []
  events := [e]
  own := List.forall_mem_nil _
  tallied := List.forall_mem_singleton.mpr tallies

/-- One deed after another. -/
def andThen (d e : Deed id) : Deed id where
  message := e.message
  attempts := d.attempts ++ e.attempts
  events := d.events ++ e.events
  own := List.forall_mem_append.mpr ⟨d.own, e.own⟩
  tallied := List.forall_mem_append.mpr ⟨d.tallied, e.tallied⟩

/-- Whether a deed is all that lies between two worlds, except for what was sent and asked for. -/
structure Done (d : Deed id) (w w' : World) : Prop where
  setting : w'.setting = w.setting
  message : w'.store.get? id = d.message
  others : ∀ other, other ≠ id → w'.store.get? other = w.store.get? other
  ids : w'.store.messages.map (·.id) = w.store.messages.map (·.id)
  attempts : w'.store.attempts.map (·.bare) = w.store.attempts.map (·.bare) ++ d.attempts
  stats : w'.stats = d.events.foldl Stats.count w.stats
  metrics : w'.metrics = d.events.foldl Metrics.count w.metrics

variable {d e : Deed id} {w w' w'' : World}

/-- Two deeds, one after the other, are done as one. -/
theorem Done.trans (h : d.Done w w') (h' : e.Done w' w'') : (d.andThen e).Done w w'' where
  setting := h'.setting.trans h.setting
  message := h'.message
  others other hne := (h'.others other hne).trans (h.others other hne)
  ids := h'.ids.trans h.ids
  attempts := by
    rw [h'.attempts, h.attempts, List.append_assoc]
    rfl
  stats := by
    rw [h'.stats, h.stats, ← List.foldl_append]
    rfl
  metrics := by
    rw [h'.metrics, h.metrics, ← List.foldl_append]
    rfl

/-- Asking the outside and sending requests is no deed. -/
theorem done_leaving (id : MessageId) (w : World) (sent : List WireRequest) (asked : Nat) :
    (leaving id (w.store.get? id)).Done w { w with sent, asked } where
  setting := rfl
  message := rfl
  others _ _ := rfl
  ids := rfl
  attempts := (List.append_nil _).symm
  stats := rfl
  metrics := rfl

/-- Counting an event is a deed that changes the counters alone. -/
theorem done_counting (id : MessageId) (w : World) {event : Event} (h : event.tallies = true) :
    (counting (w.store.get? id) event h : Deed id).Done w
      { w with stats := w.stats.count event, metrics := w.metrics.count event } where
  setting := rfl
  message := rfl
  others _ _ := rfl
  ids := rfl
  attempts := (List.append_nil _).symm
  stats := rfl
  metrics := rfl

/-- A message that is stored already was stored anew. -/
theorem done_insert {m : Message} (hm : m.id = id) (hstored : (w.store.get? id).isSome = true)
    (asked : Nat) :
    (leaving id (some m)).Done w { w with store := w.store.insert m, asked } where
  setting := rfl
  message := (Ledger.find?_place m w.store.messages id).trans (if_pos hm)
  others other hne :=
    (Ledger.find?_place m w.store.messages other).trans (if_neg fun h => hne (h.symm.trans hm))
  ids := by
    obtain ⟨stored, hget⟩ := Option.isSome_iff_exists.mp hstored
    have hid : stored.id = m.id := (Ledger.id_of_get? (k := w.ledger) hget).trans hm.symm
    -- the place is taken already, so no identifier is added
    have hmem : m.id ∈ w.store.messages.map (·.id) := by
      rw [← hid]
      exact List.mem_map_of_mem (List.mem_of_find?_eq_some hget)
    exact (Ledger.ids_place m w.store.messages).trans (if_pos hmem)
  attempts := (List.append_nil _).symm
  stats := rfl
  metrics := rfl

/-- Recording an attempt is a deed that adds it to the record alone. -/
theorem done_recording {a b : Attempt} (hbare : a.bare = b) (own : b.messageId = id)
    (asked : Nat) :
    (recording (w.store.get? id) b own).Done w
      { w with store := { w.store with attempts := w.store.attempts ++ [a] }, asked } where
  setting := rfl
  message := rfl
  others _ _ := rfl
  ids := rfl
  attempts := hbare ▸ List.map_append
  stats := rfl
  metrics := rfl

end Deed

-- ---------------------------------------------------------------------------
-- The same deed in two worlds
-- ---------------------------------------------------------------------------

/-- Whether the store's own clock stands still and an offset depends on its range alone. -/
structure Supply.Steady (s : Supply) : Prop where
  storeTimes : ∀ n, s.storeTimes n = s.storeTimes 0
  offsets : ∀ n range, s.offsets n range = s.offsets 0 range

/-- Two worlds that make no difference to a message, where no failure is planned for a single call
and the supply is steady. -/
structure World.Alike (id : MessageId) (w v : World) : Prop where
  setting : v.setting = w.setting
  message : v.store.get? id = w.store.get? id
  unplanned : w.planned = []
  steady : w.supply.Steady

/-- Two runs from two worlds that come to the same by the same deed. -/
structure SameDeed {α : Type} (id : MessageId) (w v : World) (x y : Option α × World) : Prop where
  result : y.1 = x.1
  deed : ∃ d : Deed id, d.Done w x.2 ∧ d.Done v y.2

namespace World.Alike

variable {id : MessageId} {w v w' v' : World} (h : w.Alike id v)

include h

theorem supply_eq : v.supply = w.supply :=
  congrArg (·.supply) h.setting

theorem clock_eq : v.clock = w.clock :=
  congrArg (·.clock) h.setting

theorem network_eq : v.network = w.network :=
  congrArg (·.network) h.setting

theorem secrets_eq : v.store.secrets = w.store.secrets :=
  congrArg (·.store.secrets) h.setting

theorem failMessageUpdates_eq : v.store.failMessageUpdates = w.store.failMessageUpdates :=
  congrArg (·.store.failMessageUpdates) h.setting

theorem failAttemptWrites_eq : v.store.failAttemptWrites = w.store.failAttemptWrites :=
  congrArg (·.store.failAttemptWrites) h.setting

/-- Worlds are alike both ways. -/
theorem symm : v.Alike id w where
  setting := h.setting.symm
  message := h.message.symm
  unplanned := (congrArg (·.planned) h.setting : v.planned = w.planned).trans h.unplanned
  steady := h.supply_eq ▸ h.steady

/-- Every operation of the store is carried out. -/
theorem storeCall_eq {α : Type} (op : StoreOperation) (run : Unit → Except StoreError α × World) :
    w.storeCall op run = run () := by
  refine storeCall_of_unplanned ?_ run
  rw [h.unplanned]
  exact List.forall_mem_nil _

/-- The same deed leaves worlds alike. -/
theorem of_done {d : Deed id} (hd : d.Done w w') (hd' : d.Done v v') : w'.Alike id v' where
  setting := hd'.setting.trans (h.setting.trans hd.setting.symm)
  message := hd'.message.trans hd.message.symm
  unplanned := (congrArg (·.planned) hd.setting).trans h.unplanned
  steady := (congrArg (·.supply) hd.setting : w'.supply = w.supply) ▸ h.steady

/-- What was sent and asked for makes no difference. -/
theorem sameDeed_leaving {α : Type} (a? : Option α) (sent sent' : List WireRequest)
    (asked asked' : Nat) :
    SameDeed id w v (a?, { w with sent, asked })
      (a?, { v with sent := sent', asked := asked' }) where
  result := rfl
  deed := ⟨_, Deed.done_leaving id w sent asked, h.message ▸ Deed.done_leaving id v sent' asked'⟩

/-- A write that fails in both worlds, or stores the same message anew in both. -/
theorem sameDeed_write {α : Type} {r r' : Except StoreError (α × Store)} (asked asked' : Nat)
    (hr : (∃ e, r = .error e ∧ r' = .error e)
      ∨ ∃ a m, m.id = id ∧ (w.store.get? id).isSome = true
        ∧ r = .ok (a, w.store.insert m) ∧ r' = .ok (a, v.store.insert m)) :
    SameDeed id w v (some ({ w with asked }.write r).1, ({ w with asked }.write r).2)
      (some ({ v with asked := asked' }.write r').1, ({ v with asked := asked' }.write r').2) := by
  rcases hr with ⟨e, rfl, rfl⟩ | ⟨a, m, hm, hstored, rfl, rfl⟩
  · exact h.sameDeed_leaving _ w.sent v.sent asked asked'
  · have hstored' : (v.store.get? id).isSome = true := h.message ▸ hstored
    exact ⟨rfl, _, Deed.done_insert hm hstored asked, Deed.done_insert hm hstored' asked'⟩

end World.Alike

/-- Whether a call has to do with no message but this one. Records of attempts are left out, because
they hold what the outside has supplied. -/
def Call.Concerns (id : MessageId) : Call → Prop
  | .findMessage id' => id' = id
  | .updateMessageStatus id' _ => id' = id
  | .updateMessage m => m.id = id
  | .findSigningSecret _ | .now | .drawOffset _ => True
  | .note e => e.tallies = true
  | _ => False

namespace World.Alike

variable {id : MessageId} {w v : World}

/-- A change of status does the same in both worlds. -/
theorem setStatus (h : w.Alike id v) (status : Status) (now : Instant) :
    (∃ e, w.store.setStatus id status now = .error e ∧ v.store.setStatus id status now = .error e)
    ∨ ∃ a m, m.id = id ∧ (w.store.get? id).isSome = true
      ∧ w.store.setStatus id status now = .ok (a, w.store.insert m)
      ∧ v.store.setStatus id status now = .ok (a, v.store.insert m) := by
  rw [Store.setStatus, Store.setStatus, h.failMessageUpdates_eq, h.message]
  split
  · exact .inl ⟨_, rfl, rfl⟩
  · cases hget : w.store.get? id with
    | none => exact .inl ⟨_, rfl, rfl⟩
    | some m =>
      simp only
      cases hset : m.setStatus status now with
      | error e => exact .inl ⟨e, rfl, rfl⟩
      | ok m' =>
        have hid : m'.id = id :=
          (Message.id_of_setStatus hset).trans (Ledger.id_of_get? (k := w.ledger) hget)
        exact .inr ⟨m', m', hid, rfl, rfl, rfl⟩

/-- A message is written back alike in both worlds. -/
theorem update (h : w.Alike id v) {m : Message} (hm : m.id = id) :
    (∃ e, w.store.update m = .error e ∧ v.store.update m = .error e)
    ∨ ∃ m', m'.id = id ∧ (w.store.get? id).isSome = true
      ∧ w.store.update m = .ok (w.store.insert m')
      ∧ v.store.update m = .ok (v.store.insert m') := by
  rw [Store.update, Store.update, h.failMessageUpdates_eq, hm, h.message]
  split
  · exact .inl ⟨_, rfl, rfl⟩
  · split
    · exact .inl ⟨_, rfl, rfl⟩
    · cases hget : w.store.get? id with
      | none => exact .inl ⟨_, rfl, rfl⟩
      | some stored =>
        have hid : stored.id = id := Ledger.id_of_get? (k := w.ledger) hget
        exact .inr ⟨{ stored with
          status := m.status, attemptCount := m.attemptCount, nextRetryAt := m.nextRetryAt
          updatedAt := m.updatedAt }, hid, rfl, rfl, rfl⟩

/-- A call for a message does the same in both worlds. -/
theorem perform (h : w.Alike id v) {c : Call} (hc : c.Concerns id) :
    SameDeed id w v (w.perform c) (v.perform c) := by
  cases c with
  | findMessage id' =>
    obtain rfl : id' = id := hc
    have hfind : v.store.find id' = w.store.find id' := by
      rw [Store.find, Store.find, h.message]
    simp only [World.perform, h.storeCall_eq, h.symm.storeCall_eq, hfind]
    exact h.sameDeed_leaving _ w.sent v.sent w.asked v.asked
  | updateMessageStatus id' status =>
    obtain rfl : id' = id := hc
    -- a steady supply tells the same store time whatever was asked before
    have htime : v.supply.storeTimes v.asked = w.supply.storeTimes w.asked := by
      rw [h.supply_eq, h.steady.storeTimes, ← h.steady.storeTimes w.asked]
    simp only [World.perform, h.storeCall_eq, h.symm.storeCall_eq, storeTime, htime]
    exact h.sameDeed_write _ _ (h.setStatus status _)
  | updateMessage m =>
    simp only [World.perform, h.storeCall_eq, h.symm.storeCall_eq]
    refine h.sameDeed_write w.asked v.asked ?_
    rcases h.update hc with ⟨e, hw, hv⟩ | ⟨m', hid, hstored, hw, hv⟩
    · rw [hw, hv]
      exact .inl ⟨e, rfl, rfl⟩
    · rw [hw, hv]
      exact .inr ⟨(), m', hid, hstored, rfl, rfl⟩
  | findSigningSecret org =>
    have hsecret : v.store.secretOf org = w.store.secretOf org := by
      rw [Store.secretOf, Store.secretOf, h.secrets_eq]
    simp only [World.perform, h.storeCall_eq, h.symm.storeCall_eq, hsecret]
    exact h.sameDeed_leaving _ w.sent v.sent w.asked v.asked
  | now =>
    simp only [World.perform, h.clock_eq]
    exact h.sameDeed_leaving _ w.sent v.sent w.asked v.asked
  | drawOffset range =>
    have hoffset : v.supply.offsets v.asked range = w.supply.offsets w.asked range := by
      rw [h.supply_eq, h.steady.offsets, ← h.steady.offsets w.asked]
    simp only [World.perform, hoffset]
    exact h.sameDeed_leaving _ w.sent v.sent _ _
  | note e =>
    exact ⟨rfl, _, Deed.done_counting id w hc, h.message ▸ Deed.done_counting id v hc⟩
  | _ => cases hc

/-- An attempt can be recorded in both stores or in none, however long it took. -/
theorem record (h : w.Alike id v) {a a' : NewAttempt} (own : a.messageId = id)
    (hsame : a'.untimed = a.untimed) (uuid uuid' : Uuid) :
    (∃ e, w.store.record uuid a = .error e ∧ v.store.record uuid' a' = .error e)
    ∨ (w.store.record uuid a
          = .ok (a.record uuid, { w.store with attempts := w.store.attempts ++ [a.record uuid] })
        ∧ v.store.record uuid' a' = .ok (a'.record uuid',
            { v.store with attempts := v.store.attempts ++ [a'.record uuid'] })) := by
  have hresult : a'.result = a.result := congrArg (·.result) hsame
  have hmessage : a'.messageId = id := (congrArg (·.messageId) hsame).trans own
  rw [Store.record, Store.record, hresult, hmessage, own, Store.contains_eq, Store.contains_eq,
    h.message, h.failAttemptWrites_eq]
  split
  · exact .inl ⟨_, rfl, rfl⟩
  · split
    · exact .inl ⟨_, rfl, rfl⟩
    · split
      · exact .inl ⟨_, rfl, rfl⟩
      · exact .inr ⟨rfl, by rw [← h.failAttemptWrites_eq]⟩

/-- To record an attempt is the same deed in both worlds, however long it took. -/
theorem recordAttempt (h : w.Alike id v) {a a' : NewAttempt} (own : a.messageId = id)
    (hsame : a'.untimed = a.untimed) :
    ∃ answer w' answer' v', w.perform (.recordAttempt a) = (some answer, w')
      ∧ v.perform (.recordAttempt a') = (some answer', v')
      ∧ ∃ d : Deed id, d.Done w w' ∧ d.Done v v' := by
  -- no failure is planned, so the record goes to the store
  have hperform := fun (u : World) (b : NewAttempt)
      (hcall : ∀ run : Unit → Except StoreError Attempt × World,
        u.storeCall .recordAttempt run = run ()) => show u.perform (.recordAttempt b)
      = (some ({ u with asked := u.asked + 1 }.write
          (u.store.record (u.supply.attemptIds u.asked) b)).1,
        ({ u with asked := u.asked + 1 }.write
          (u.store.record (u.supply.attemptIds u.asked) b)).2) by
    simp only [World.perform, hcall]
  refine ⟨_, _, _, _, hperform w a (h.storeCall_eq _), hperform v a' (h.symm.storeCall_eq _), ?_⟩
  rcases h.record own hsame (w.supply.attemptIds w.asked) (v.supply.attemptIds v.asked)
    with ⟨e, hw, hv⟩ | ⟨hw, hv⟩
  · rw [hw, hv]
    exact (h.sameDeed_leaving (some ()) w.sent v.sent _ _).deed
  · -- the records differ in their identifiers and measured times only
    have hbare : ∀ (b : NewAttempt) (uuid : Uuid), b.untimed = a.untimed →
        (b.record uuid).bare = a.untimed.record default := by
      intro b uuid hb
      rw [← hb]
      rfl
    rw [hw, hv]
    exact ⟨_, Deed.done_recording (hbare a _ rfl) own _,
      h.message ▸ Deed.done_recording (hbare a' _ hsame) own _⟩

end World.Alike

-- ---------------------------------------------------------------------------
-- Tasks for one message
-- ---------------------------------------------------------------------------

section Tasks

variable {α β : Type} {id : MessageId} {w v w' v' : World}

/-- A deed before the same deed in two worlds. -/
theorem SameDeed.after {d : Deed id} {x y : Option α × World} (hd : d.Done w w')
    (hd' : d.Done v v') (h : SameDeed id w' v' x y) : SameDeed id w v x y := by
  obtain ⟨hresult, e, he, he'⟩ := h
  exact ⟨hresult, _, hd.trans he, hd'.trans he'⟩

/-- Tasks in worlds that are alike for a message do the same if they do so step by step. -/
theorem SameDeed.bind {t u : Task α} {f g : α → Task β} (halike : w.Alike id v)
    (h : SameDeed id w v (t.run w) (u.run v))
    (hnext : ∀ a w' v', t.run w = (some a, w') → u.run v = (some a, v') → w'.Alike id v' →
      SameDeed id w' v' ((f a).run w') ((g a).run v')) :
    SameDeed id w v ((t >>= f).run w) ((u >>= g).run v) := by
  obtain ⟨hresult, d, hd, hd'⟩ := h
  -- either both break down in the first task, or neither does
  rcases ht : t.run w with ⟨_ | a, w'⟩
  · rcases hu : u.run v with ⟨_ | a', v'⟩
    · rw [ht] at hd
      rw [hu] at hd'
      rw [Task.run_bind_none ht, Task.run_bind_none hu]
      exact ⟨rfl, d, hd, hd'⟩
    · rw [ht, hu] at hresult
      cases hresult
  · rcases hu : u.run v with ⟨_ | a', v'⟩
    · rw [ht, hu] at hresult
      cases hresult
    · rw [ht, hu] at hresult
      rw [ht] at hd
      rw [hu] at hd'
      obtain rfl := Option.some.inj hresult
      rw [Task.run_bind_some ht, Task.run_bind_some hu]
      exact (hnext a' w' v' ht hu (halike.of_done hd hd')).after hd hd'

theorem Task.run_perform (c : Call) (w : World) : (Task.perform c).run w = w.perform c := by
  rw [Task.perform, Task.run]
  rcases w.perform c with ⟨_ | answer, w'⟩ <;> rfl

/-- A task for a message is the same deed in worlds that are alike for it. -/
theorem Task.Makes.sameDeed {t : Task α} {Q : α → Prop} (ht : t.Makes (Call.Concerns id) Q)
    (h : w.Alike id v) : SameDeed id w v (t.run w) (t.run v) := by
  induction t generalizing w v with
  | done a => exact h.sameDeed_leaving _ w.sent v.sent w.asked v.asked
  | breakdown => exact h.sameDeed_leaving _ w.sent v.sent w.asked v.asked
  | call c next ih =>
    have hcall : SameDeed id w v ((Task.perform c).run w) ((Task.perform c).run v) := by
      rw [Task.run_perform, Task.run_perform]
      exact h.perform ht.1
    exact hcall.bind (f := next) (g := next) h fun answer w' v' _ _ h' => ih answer (ht.2 answer) h'

end Tasks

end WebhookDelivery
