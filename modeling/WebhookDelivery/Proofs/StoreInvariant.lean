import WebhookDelivery.Proofs.AuditTrail

/-!
# What the store keeps

Whoever calls the store, with whatever arguments and while whichever failures come and go, what is
stored stays in order: a due time goes with the retry status alone, a stored message stays the
webhook that was submitted, attempts are only ever appended and belong to stored messages. And a
call that does not do what was asked, because of an error or because a message has changed in the
meantime, changes nothing that is stored.

The guards that this rests on differ from call to call. Writing a message back refuses a copy whose
due time and status do not fit; a plain change of status refuses to enter the retry status without a
due time and drops the due time otherwise; recording refuses an attempt on a message that is not
there. `Message.isConsistent_of_setStatus` and `World.guarded_of_perform` read them off the calls.

* `Ledger.Extends` — what may become of what is on record.
* `Effect.extends`, `Effect.consistent`, `Effect.unchanged_of_declined` — one call.
* `Dealings.store_invariant` — any number of calls.
-/

namespace WebhookDelivery

-- ---------------------------------------------------------------------------
-- What may become of a record
-- ---------------------------------------------------------------------------

/-- A message is still the webhook that was submitted. -/
structure Message.SameWebhook (m m' : Message) : Prop where
  id : m'.id = m.id
  org : m'.org = m.org
  method : m'.method = m.method
  url : m'.url = m.url
  payload : m'.payload = m.payload
  createdAt : m'.createdAt = m.createdAt

theorem Message.SameWebhook.refl (m : Message) : m.SameWebhook m :=
  ⟨rfl, rfl, rfl, rfl, rfl, rfl⟩

theorem Message.SameWebhook.trans {m m' m'' : Message} (h : m.SameWebhook m')
    (h' : m'.SameWebhook m'') : m.SameWebhook m'' :=
  ⟨h'.id.trans h.id, h'.org.trans h.org, h'.method.trans h.method, h'.url.trans h.url,
    h'.payload.trans h.payload, h'.createdAt.trans h.createdAt⟩

namespace Ledger

/-- A due time is there exactly for the stored messages that wait for a retry. -/
def Consistent (k : Ledger) : Prop :=
  ∀ m ∈ k.messages, m.IsConsistent

/-- What may become of a ledger: every stored message is there as the same webhook, and the record
has grown at its end, by attempts on stored messages. -/
structure Extends (k k' : Ledger) : Prop where
  kept : ∀ id m, k.get? id = some m → ∃ m', k'.get? id = some m' ∧ m.SameWebhook m'
  grown : ∃ added, k'.attempts = k.attempts ++ added ∧ ∀ a ∈ added, k'.Stores a.messageId

variable {k k' k'' : Ledger}

/-- A ledger with the same messages and attempts extends the one before. -/
theorem Extends.of_eq (hmessages : k'.messages = k.messages)
    (hattempts : k'.attempts = k.attempts) : k.Extends k' where
  kept id m hget := by
    refine ⟨m, ?_, .refl m⟩
    rwa [get?, hmessages]
  grown := ⟨[], by simpa using hattempts, by simp⟩

/-- A stored message stays stored. -/
theorem Extends.stores (h : k.Extends k') {id : MessageId} (hstores : k.Stores id) :
    k'.Stores id := by
  obtain ⟨m, hget⟩ := hstores
  obtain ⟨m', hget', -⟩ := h.kept id m hget
  exact ⟨m', hget'⟩

/-- Extending twice is extending. -/
theorem Extends.trans (h : k.Extends k') (h' : k'.Extends k'') : k.Extends k'' where
  kept id m hget := by
    obtain ⟨m', hget', hsame⟩ := h.kept id m hget
    obtain ⟨m'', hget'', hsame'⟩ := h'.kept id m' hget'
    exact ⟨m'', hget'', hsame.trans hsame'⟩
  grown := by
    obtain ⟨added, hadded, hstores⟩ := h.grown
    obtain ⟨added', hadded', hstores'⟩ := h'.grown
    refine ⟨added ++ added', by rw [hadded', hadded, List.append_assoc], fun a ha => ?_⟩
    rcases List.mem_append.mp ha with ha | ha
    · exact h'.stores (hstores a ha)
    · exact hstores' a ha

/-- Attempts belong to stored messages if they did before. -/
theorem Extends.attempts_stored (h : k.Extends k')
    (hstored : ∀ a ∈ k.attempts, k.Stores a.messageId) :
    ∀ a ∈ k'.attempts, k'.Stores a.messageId := by
  obtain ⟨added, hadded, hnew⟩ := h.grown
  intro a ha
  rw [hadded] at ha
  rcases List.mem_append.mp ha with ha | ha
  · exact h.stores (hstored a ha)
  · exact hnew a ha

/-- Putting a message in the place of the same webhook. -/
theorem extends_put {id : MessageId} {n n' : Message} (hget : k.get? id = some n)
    (hsame : n.SameWebhook n') : k.Extends (k.put n') where
  kept id' m hm := by
    have hid : n'.id = id := hsame.id.trans (id_of_get? hget)
    by_cases heq : n'.id = id'
    · rw [← heq, hid, hget] at hm
      obtain rfl := Option.some.inj hm
      exact ⟨n', by rw [← heq]; exact get?_put_self k n', hsame⟩
    · exact ⟨m, (get?_put_of_ne k heq).trans hm, .refl m⟩
  grown := ⟨[], (List.append_nil _).symm, by simp⟩

/-- A message under a new identifier changes nothing that was there. -/
theorem extends_create {m : Message} (hmissing : k.get? m.id = none) :
    k.Extends { k.put m with created := k.created + 1 } where
  kept _ n hget := ⟨n, get?_put_of_missing hmissing hget, .refl n⟩
  grown := ⟨[], (List.append_nil _).symm, by simp⟩

theorem stores_of_contains {w : World} {id : MessageId} (h : w.store.contains id = true) :
    w.ledger.Stores id := by
  obtain ⟨m, hm, hid⟩ := List.any_eq_true.mp h
  exact Option.isSome_iff_exists.mp (List.find?_isSome.mpr ⟨m, hm, hid⟩)

/-- A consistent message may be written to a consistent ledger. -/
theorem consistent_put (h : k.Consistent) {n : Message} (hn : n.IsConsistent) :
    (k.put n).Consistent := by
  intro m hm
  rcases mem_put hm with rfl | hm
  · exact hn
  · exact h m hm

end Ledger

-- ---------------------------------------------------------------------------
-- The guards
-- ---------------------------------------------------------------------------

/-- A plain change of status that is allowed leaves due time and status in accord, whatever they
were before. -/
theorem Message.isConsistent_of_setStatus {m m' : Message} {status : Status} {now : Instant}
    (h : m.setStatus status now = .ok m') : m'.IsConsistent := by
  obtain rfl := eq_of_setStatus h
  rw [setStatus] at h
  split at h
  · cases h
  · rename_i hallowed
    by_cases hretry : status = .retry
    · have hdue : m.nextRetryAt ≠ none := fun hnone => hallowed ⟨hretry, hnone⟩
      simpa [IsConsistent, hretry, Option.isSome_iff_ne_none] using hdue
    · simp [IsConsistent, hretry]

theorem Message.isConsistent_ofDraft (id : MessageId) (d : Draft) (now : Instant) :
    (ofDraft id d now).IsConsistent := by
  simp [IsConsistent, ofDraft]

theorem Message.isConsistent_requeued (m : Message) (now : Instant) :
    (m.requeued now).IsConsistent := by
  simp [IsConsistent, requeued]

/-- What an answer says of the guards that a call has passed: a copy that is written back has a due
time exactly if it waits for a retry, and an attempt that is recorded is on a stored message. -/
def Call.Guarded (k : Ledger) : (c : Call) → c.Answer → Prop
  | .updateMessage m, answer => answer = .ok () → m.IsConsistent
  | .recordAttempt a, answer => ∀ r, answer = .ok r → k.Stores a.messageId
  | _, _ => True

/-- The store takes no update that is not consistent. -/
theorem Store.isConsistent_of_update {s s' : Store} {m : Message} (h : s.update m = .ok s') :
    m.IsConsistent := by
  refine Decidable.byContradiction fun hinconsistent => ?_
  rw [update, if_pos hinconsistent] at h
  split at h <;> cases h

/-- The store takes an attempt only on a message that it contains. -/
theorem Store.contains_of_record {s : Store} {a : NewAttempt} {u : Uuid} {result : Attempt × Store}
    (h : s.record u a = .ok result) : s.contains a.messageId = true := by
  rw [record] at h
  cases hcontains : s.contains a.messageId with
  | true => rfl
  | false =>
    rw [hcontains] at h
    split at h
    · cases h
    · split at h <;> cases h

namespace World

/-- An operation that has been answered with success has been carried out. -/
theorem storeCall_of_ok {α : Type} {w : World} {op : StoreOperation}
    {run : Unit → Except StoreError α × World} {a : α} (h : (w.storeCall op run).1 = .ok a) :
    w.storeCall op run = run () := by
  rcases w.storeCall_cases op run with ⟨e, planned, _, heq⟩ | ⟨_, heq⟩
  · rw [heq] at h
    cases h
  · exact heq

/-- A write that has gone well has left a store. -/
theorem write_of_ok {α : Type} {w : World} {r : Except StoreError (α × Store)} {a : α}
    (h : (w.write r).1 = .ok a) : ∃ store, r = .ok (a, store) := by
  cases r with
  | error e => cases h
  | ok result =>
    obtain rfl := Except.ok.inj h
    exact ⟨result.2, rfl⟩

/-- Every answer has passed the guards of its call. -/
theorem guarded_of_perform {w w' : World} {c : Call} {answer : c.Answer}
    (h : w.perform c = (some answer, w')) : c.Guarded w.ledger answer := by
  -- two calls have a guard
  cases c with
  | updateMessage m =>
    rintro rfl
    simp only [perform] at h
    have hanswer := Option.some.inj (Prod.mk.inj h).1
    rw [storeCall_of_ok hanswer] at hanswer
    obtain ⟨store, hupdate⟩ := write_of_ok hanswer
    exact Store.isConsistent_of_update (Store.ok_of_map hupdate)
  | recordAttempt a =>
    rintro r rfl
    simp only [perform] at h
    have hanswer := Option.some.inj (Prod.mk.inj h).1
    rw [storeCall_of_ok hanswer] at hanswer
    obtain ⟨store, hrecord⟩ := write_of_ok hanswer
    exact Ledger.stores_of_contains (Store.contains_of_record hrecord)
  | _ => trivial

end World

-- ---------------------------------------------------------------------------
-- One call
-- ---------------------------------------------------------------------------

section Call

attribute [local irreducible] MessageId.text

variable {ids : Nat → MessageId} {k k' : Ledger} {c : Call} {answer : c.Answer}

/-- Whether a message that is created has an identifier of its own. -/
def Call.Fresh (k : Ledger) : (c : Call) → c.Answer → Prop
  | .createMessage _, answer => ∀ m, answer = .ok m → k.get? m.id = none
  | _, _ => True

/-- Whether a store operation has not done what was asked, because of an error or because the
message no longer waits for the retry that was meant. -/
def Call.Declined : (c : Call) → c.Answer → Prop
  | .createMessage _, answer => ∃ e, answer = .error e
  | .findMessage _, answer => ∃ e, answer = .error e
  | .updateMessageStatus _ _, answer => ∃ e, answer = .error e
  | .updateMessage _, answer => ∃ e, answer = .error e
  | .findRetryReady _ _, answer => ∃ e, answer = .error e
  | .findPending _, answer => ∃ e, answer = .error e
  | .requeueMessage _ _, answer => answer = .ok false ∨ ∃ e, answer = .error e
  | .recordAttempt _, answer => ∃ e, answer = .error e
  | .findAttempts _, answer => ∃ e, answer = .error e
  | .findSigningSecret _, answer => ∃ e, answer = .error e
  | _, _ => False

/-- What is on record after a call has come of what was on record before. -/
theorem Effect.extends (h : Effect ids k c answer k') (hguarded : c.Guarded k answer)
    (hfresh : c.Fresh k answer) : k.Extends k' := by
  -- writes replace a message by the same webhook, and attempts are added
  cases h with
  | quiet | find | due | pending | keep | push | pop | contains => exact .of_eq rfl rfl
  | create d now =>
    exact Ledger.extends_create (hfresh _ rfl)
  | @setStatus id status m m' now hget hset =>
    obtain rfl := Message.eq_of_setStatus hset
    exact Ledger.extends_put hget ⟨rfl, rfl, rfl, rfl, rfl, rfl⟩
  | @update stored m hget =>
    exact Ledger.extends_put hget ⟨rfl, rfl, rfl, rfl, rfl, rfl⟩
  | @requeue id due m now hget =>
    exact Ledger.extends_put hget ⟨rfl, rfl, rfl, rfl, rfl, rfl⟩
  | record a u =>
    have hstores := hguarded _ rfl
    refine ⟨fun id m hget => ⟨m, hget, .refl m⟩, [a.record u], rfl, fun b hb => ?_⟩
    obtain rfl := List.mem_singleton.mp hb
    exact hstores

/-- A call leaves due times and statuses in accord. -/
theorem Effect.consistent (h : Effect ids k c answer k') (hguarded : c.Guarded k answer)
    (hconsistent : k.Consistent) : k'.Consistent := by
  cases h with
  | quiet | find | due | pending | keep | push | pop | contains | record => exact hconsistent
  | create d now => exact Ledger.consistent_put hconsistent (Message.isConsistent_ofDraft _ d now)
  | setStatus hget hset =>
    exact Ledger.consistent_put hconsistent (Message.isConsistent_of_setStatus hset)
  | @update stored m hget => exact Ledger.consistent_put hconsistent (hguarded rfl)
  | @requeue id due m now hget =>
    exact Ledger.consistent_put hconsistent (m.isConsistent_requeued now)

/-- A call that has not done what was asked has changed neither messages nor attempts. -/
theorem Effect.unchanged_of_declined (h : Effect ids k c answer k')
    (hdeclined : c.Declined answer) : k'.messages = k.messages ∧ k'.attempts = k.attempts := by
  cases h with
  | quiet | find | due | pending | keep | push | pop | contains => exact ⟨rfl, rfl⟩
  | create | setStatus | update | record =>
    obtain ⟨_, ⟨⟩⟩ := hdeclined
  | requeue =>
    rcases hdeclined with ⟨⟨⟩⟩ | ⟨_, ⟨⟩⟩

end Call

-- ---------------------------------------------------------------------------
-- Any number of calls
-- ---------------------------------------------------------------------------

/-- The world in which a call has been answered. -/
def Moment.after (x : Moment) : World :=
  (x.world.perform x.call).2

/-- What may be done with a world from its start on, with the calls that were answered, the latest
first. In between the outside may change anything but the stored messages and the recorded attempts:
which failures are asked for, the clock, the secrets, the queue. -/
inductive Dealings (start : World) : World → List Moment → Prop where
  | start : Dealings start start []
  | call {w w' : World} {h : List Moment} {c : Call} {answer : c.Answer}
    (answered : w.perform c = (some answer, w')) (before : Dealings start w h) :
    Dealings start w' (⟨w, c, answer⟩ :: h)
  | outside {w w' : World} {h : List Moment} (messages : w'.store.messages = w.store.messages)
    (attempts : w'.store.attempts = w.store.attempts) (before : Dealings start w h) :
    Dealings start w' h

namespace Dealings

variable {start w : World} {h : List Moment}

/-- What holds after any dealings: messages are in order, all has come of what was there at the
start, and each call has kept to this. -/
structure Upheld (start w : World) (h : List Moment) : Prop where
  consistent : w.ledger.Consistent
  extended : start.ledger.Extends w.ledger
  calls : ∀ x ∈ h, x.after.ledger.Consistent ∧ x.world.ledger.Extends x.after.ledger
    ∧ x.after.ledger.Extends w.ledger
    ∧ (x.call.Declined x.answer → x.after.store.messages = x.world.store.messages
      ∧ x.after.store.attempts = x.world.store.attempts)

/-- What is on record is carried on. -/
theorem Upheld.extend {w' : World} (hupheld : Upheld start w h)
    (hextends : w.ledger.Extends w'.ledger) (hconsistent : w'.ledger.Consistent) :
    Upheld start w' h where
  consistent := hconsistent
  extended := hupheld.extended.trans hextends
  calls x hx := by
    obtain ⟨hafter, hown, hsince, hdeclined⟩ := hupheld.calls x hx
    exact ⟨hafter, hown, hsince.trans hextends, hdeclined⟩

/-- What holds after some dealings holds after one more call. -/
theorem Upheld.call {w' : World} {c : Call} {answer : c.Answer} (hupheld : Upheld start w h)
    (hanswered : w.perform c = (some answer, w')) (hfresh : c.Fresh w.ledger answer) :
    Upheld start w' (⟨w, c, answer⟩ :: h) := by
  have heffect := World.effect_of_perform hanswered
  have hguarded := World.guarded_of_perform hanswered
  have hextends := heffect.extends hguarded hfresh
  have hconsistent := heffect.consistent hguarded hupheld.consistent
  have hon := hupheld.extend hextends hconsistent
  refine ⟨hconsistent, hon.extended, fun x hx => ?_⟩
  rcases List.mem_cons.mp hx with rfl | hx
  · have hafter : Moment.after ⟨w, c, answer⟩ = w' := congrArg Prod.snd hanswered
    rw [hafter]
    exact ⟨hconsistent, hextends, .of_eq rfl rfl, heffect.unchanged_of_declined⟩
  · exact hon.calls x hx

/-- After any dealings it holds, if messages are created under identifiers of their own. -/
theorem upheld (hdealings : Dealings start w h) (hconsistent : start.ledger.Consistent)
    (hfresh : ∀ x ∈ h, x.call.Fresh x.world.ledger x.answer) : Upheld start w h := by
  induction hdealings with
  | start => exact ⟨hconsistent, .of_eq rfl rfl, fun x hx => absurd hx List.not_mem_nil⟩
  | call answered before ih =>
    have hbefore := ih fun x hx => hfresh x (List.mem_cons_of_mem _ hx)
    exact hbefore.call answered (hfresh _ List.mem_cons_self)
  | @outside w w' h messages attempts before ih =>
    have hbefore := ih hfresh
    have hmessages : w'.ledger.messages = w.ledger.messages := messages
    refine hbefore.extend (.of_eq hmessages attempts) fun m hm => hbefore.consistent m ?_
    rwa [← hmessages]

/-- Whatever calls are made with whatever arguments, and whatever failures are asked for in between:
if the stored messages were in order at the start, and every message that is created has an
identifier of its own, then they are in order; every message that was ever stored is there as the
same webhook; the record has only grown at its end, by attempts on stored messages, so that attempts
belong to stored messages if they did at the start; all this holds from each call on; and each call
that was declined left messages and attempts as they were. -/
theorem store_invariant (hdealings : Dealings start w h) (hconsistent : start.ledger.Consistent)
    (hfresh : ∀ x ∈ h, x.call.Fresh x.world.ledger x.answer) :
    w.ledger.Consistent ∧ start.ledger.Extends w.ledger
    ∧ ((∀ a ∈ start.ledger.attempts, start.ledger.Stores a.messageId) →
      ∀ a ∈ w.ledger.attempts, w.ledger.Stores a.messageId)
    ∧ ∀ x ∈ h, x.after.ledger.Consistent ∧ x.world.ledger.Extends x.after.ledger
      ∧ x.after.ledger.Extends w.ledger
      ∧ (x.call.Declined x.answer → x.after.store.messages = x.world.store.messages
        ∧ x.after.store.attempts = x.world.store.attempts) := by
  have hupheld := hdealings.upheld hconsistent hfresh
  exact ⟨hupheld.consistent, hupheld.extended, hupheld.extended.attempts_stored, hupheld.calls⟩

/-- A webhook was stored. -/
def stocked : World :=
  (World.fresh.perform (.createMessage .toLoopback)).2

/-- Then the store was made to refuse changes of messages. -/
def refusing : World :=
  { stocked with store := { stocked.store with failMessageUpdates := true } }

/-- A change of status that is asked for there is refused, and the message stays as it was. -/
theorem store_invariant_refusing : ∃ m, refusing.store.messages = [m]
    ∧ (refusing.perform (.updateMessageStatus m.id .failed)).1 = some (.error Store.updateFailure)
    ∧ (refusing.perform (.updateMessageStatus m.id .failed)).2.store.messages = [m]
    ∧ m.IsConsistent := by
  let m := Message.ofDraft (Supply.counting.messageIds 0) .toLoopback .epoch
  have hcreated : World.fresh.perform (.createMessage .toLoopback) = (some (.ok m), stocked) := rfl
  have hrefused : refusing.perform (.updateMessageStatus m.id .failed)
      = (some (.error Store.updateFailure),
        (refusing.perform (.updateMessageStatus m.id .failed)).2) := rfl
  -- a webhook is stored, updates are made to fail, and one is asked for
  have hdealings := Dealings.call hrefused
    (.outside (w := stocked) rfl rfl (.call hcreated .start))
  have hinvariant := hdealings.store_invariant (fun n hn => absurd hn List.not_mem_nil) ?fresh
  case fresh =>
    intro x hx
    rcases List.mem_cons.mp hx with rfl | hx
    · trivial
    · obtain rfl := List.mem_singleton.mp hx
      exact fun n _ => rfl
  obtain ⟨hconsistent, -, -, hcalls⟩ := hinvariant
  obtain ⟨-, -, -, hdeclined⟩ := hcalls _ List.mem_cons_self
  obtain ⟨hsame, -⟩ := hdeclined ⟨_, rfl⟩
  have hmessages : (refusing.perform (.updateMessageStatus m.id .failed)).2.store.messages = [m] :=
    hsame
  have hm : m ∈ (refusing.perform (.updateMessageStatus m.id .failed)).2.ledger.messages :=
    List.mem_cons_self
  exact ⟨m, rfl, rfl, hmessages, hconsistent m hm⟩

end Dealings

end WebhookDelivery
