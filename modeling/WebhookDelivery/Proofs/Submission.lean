import WebhookDelivery.Proofs.Ownership

/-!
# What a submission leaves behind

A submission stores its message, hands it to the queue, and if the queue does not take it, writes
the message once more so that a sweep will find it. A caller that is told of a failure submits
again, so a failure must leave nothing behind. It does, as long as the message can be written that
second time: where the queue rejects the entry and the store refuses the write, the caller is told
of a failure, and the message is stored, pending, with no entry.

* `Submission.Ends` — all the ways a submission can end, and what is on record then.
* `Submission.ends` — it ends in one of them.
* `Submission.lawful_iff` — the law about failures and what breaks it.
-/

namespace WebhookDelivery

-- ---------------------------------------------------------------------------
-- New messages
-- ---------------------------------------------------------------------------

/-- The ledger with a new message. -/
def Ledger.grown (k : Ledger) (m : Message) : Ledger :=
  { k.put m with created := k.created + 1 }

namespace World

/-- Whether changes of messages are refused: all of them, or the next one as planned. -/
def RefusesUpdates (w : World) : Prop :=
  w.store.failMessageUpdates = true ∨ (takePlanned .updateMessage w.planned).isSome = true

/-- The message that a draft becomes if it is stored next. -/
def newMessage (w : World) (draft : Draft) : Message :=
  .ofDraft (w.supply.messageIds w.created) draft (w.supply.storeTimes w.asked)

/-- The world in which a draft has been stored. -/
def storing (w : World) (draft : Draft) : World :=
  { w with store := w.store.insert (w.newMessage draft), asked := w.asked + 1
           created := w.created + 1 }

/-- A draft that is not made to fail is stored as the next message. -/
theorem perform_create {w : World} (hplanned : takePlanned .createMessage w.planned = none)
    (draft : Draft) :
    w.perform (.createMessage draft) = (some (.ok (w.newMessage draft)), w.storing draft) := by
  simp only [perform, storeCall, hplanned]
  rfl

/-- A queue that accepts entries has one more at its end. -/
theorem perform_push_of_accepting {w : World} (h : w.queue.rejecting = false) (entry : String) :
    ∃ w', w.perform (.push entry) = (some (.ok ()), w')
      ∧ w'.ledger = { w.ledger with entries := w.ledger.entries ++ [entry] } := by
  refine ⟨{ w with queue := { w.queue with entries := w.queue.entries ++ [entry] } }, ?_, rfl⟩
  simp [perform, Queue.push, h]

theorem perform_push_of_rejecting {w : World} (h : w.queue.rejecting = true) (entry : String) :
    ∃ e, w.perform (.push entry) = (some (.error e), w) := by
  refine ⟨.queue ("queue " ++ w.queue.settings.name ++ " is rejecting pushes"), ?_⟩
  simp [perform, Queue.push, h]

/-- An update that is refused leaves the ledger as it is. -/
theorem perform_update_of_refusing {w : World} (h : w.RefusesUpdates) (m : Message) :
    ∃ e w', w.perform (.updateMessage m) = (some (.error e), w') ∧ w'.ledger = w.ledger := by
  rcases hplanned : takePlanned .updateMessage w.planned with _ | ⟨e, planned⟩
  · have hfails : w.store.failMessageUpdates = true := by
      rcases h with h | h
      · exact h
      · rw [hplanned] at h
        cases h
    refine ⟨Store.updateFailure, w, ?_, rfl⟩
    simp [perform, storeCall, hplanned, Store.update, hfails, Except.map, write]
  · refine ⟨e, { w with planned }, ?_, rfl⟩
    simp only [perform, storeCall, hplanned]

/-- An update that is not refused is written. -/
theorem perform_update_of_accepting {w : World} (h : ¬ w.RefusesUpdates) {m stored : Message}
    (hconsistent : m.IsConsistent) (hget : w.ledger.get? m.id = some stored) :
    ∃ w', w.perform (.updateMessage m) = (some (.ok ()), w')
      ∧ w'.ledger = w.ledger.put (stored.progressed m) := by
  rw [RefusesUpdates, not_or, Bool.not_eq_true, Bool.not_eq_true, Option.isSome_eq_false_iff,
    Option.isNone_iff_eq_none] at h
  obtain ⟨hfails, hplanned⟩ := h
  have hstored : w.store.get? m.id = some stored := hget
  refine ⟨{ w with store := w.store.insert (stored.progressed m) }, ?_, rfl⟩
  simp [perform, storeCall, hplanned, Store.update, hfails, hconsistent, hstored, Except.map, write,
    Message.progressed]

end World

-- ---------------------------------------------------------------------------
-- How submissions end
-- ---------------------------------------------------------------------------

/-- How a submission can end, and what is on record then. -/
inductive Submission.Ends (w : World) (d : Draft) :
    Option (Except PipelineError Message) → Ledger → Prop where
  /-- The draft cannot be sent. -/
  | refused {u : Unsendable} (h : d.normalize = .error u) :
    Ends w d (some (.error u.toPipeline)) w.ledger
  | notStored {draft : Draft} (h : d.normalize = .ok draft)
    (hfails : (World.takePlanned .createMessage w.planned).isSome = true) (e : StoreError) :
    Ends w d (some (.error e.toPipeline)) w.ledger
  | queued {draft : Draft} (h : d.normalize = .ok draft)
    (hstores : World.takePlanned .createMessage w.planned = none)
    (haccepts : w.queue.rejecting = false) :
    Ends w d (some (.ok (w.newMessage draft)))
      { w.ledger.grown (w.newMessage draft) with
        entries := w.ledger.entries ++ [(w.newMessage draft).id.text] }
  /-- The queue has not taken the entry, and the message waits for the next sweep. -/
  | setAside {draft : Draft} (h : d.normalize = .ok draft)
    (hstores : World.takePlanned .createMessage w.planned = none)
    (hrejects : w.queue.rejecting = true) {now : Instant} (hnow : w.clock.utc? = some now)
    (hwrites : ¬ w.RefusesUpdates) :
    Ends w d (some (.ok ((w.newMessage draft).defer now now)))
      (w.ledger.grown ((w.newMessage draft).defer now now))
  /-- The queue has not taken the entry, and the message could not be written again. -/
  | leftBehind {draft : Draft} (h : d.normalize = .ok draft)
    (hstores : World.takePlanned .createMessage w.planned = none)
    (hrejects : w.queue.rejecting = true) (hrefuses : w.RefusesUpdates) (e : StoreError) :
    Ends w d (some (.error e.toPipeline)) (w.ledger.grown (w.newMessage draft))
  /-- The clock shows no instant to set the message aside until. -/
  | broken {draft : Draft} (h : d.normalize = .ok draft)
    (hstores : World.takePlanned .createMessage w.planned = none)
    (hrejects : w.queue.rejecting = true) (hnow : w.clock.utc? = none) :
    Ends w d none (w.ledger.grown (w.newMessage draft))

namespace Submission

/-- A message takes the place of one that was put before under its identifier. -/
theorem place_place {m n : Message} (h : n.id = m.id) (l : List Message) :
    Store.place n (Store.place m l) = Store.place n l := by
  induction l with
  | nil => simp [Store.place, h]
  | cons x rest ih =>
    by_cases hx : x.id = m.id
    · simp [Store.place, hx, h]
    · have hxn : x.id ≠ n.id := fun heq => hx (heq.trans h)
      simp only [Store.place, if_neg hx, if_neg hxn, ih]

/-- A message that was put may be put again as it is now. -/
theorem grown_put {k : Ledger} {m n : Message} (h : n.id = m.id) :
    (k.grown m).put n = k.grown n := by
  have hplace := place_place h k.messages
  simp only [Ledger.grown, Ledger.put, hplace]

/-- A new message that the queue has rejected is set aside, or left behind as pending. -/
theorem ends_setAside {w : World} {d draft : Draft} (h : d.normalize = .ok draft)
    (hstores : World.takePlanned .createMessage w.planned = none)
    (hrejects : w.queue.rejecting = true) :
    Ends w d ((setAside (w.newMessage draft)).run (w.storing draft)).1
      ((setAside (w.newMessage draft)).run (w.storing draft)).2.ledger := by
  show Ends w d (Task.run (.call .now _) (w.storing draft)).1
    (Task.run (.call .now _) (w.storing draft)).2.ledger
  have hclock : (w.storing draft).perform .now = (w.clock.utc?, w.storing draft) := rfl
  rw [Task.run, hclock]
  -- without a time to set it aside to, the submission breaks down
  cases hnow : w.clock.utc? with
  | none => exact .broken h hstores hrejects hnow
  | some now =>
    show Ends w d (Task.run (.call (.updateMessage ((w.newMessage draft).defer now now)) _) _).1
      (Task.run (.call (.updateMessage ((w.newMessage draft).defer now now)) _) _).2.ledger
    -- refused, the message stays behind as pending
    by_cases hrefuses : w.RefusesUpdates
    · obtain ⟨e, w', hperform, hledger⟩ :=
        World.perform_update_of_refusing (w := w.storing draft) hrefuses
          ((w.newMessage draft).defer now now)
      rw [Task.run, hperform]
      show Ends w d (some (.error e.toPipeline)) w'.ledger
      rw [hledger]
      exact .leftBehind h hstores hrejects hrefuses e
    · have hstored : (w.storing draft).ledger.get? ((w.newMessage draft).defer now now).id
          = some (w.newMessage draft) := Ledger.get?_put_self w.ledger (w.newMessage draft)
      obtain ⟨w', hperform, hledger⟩ :=
        World.perform_update_of_accepting (w := w.storing draft) hrefuses
          (by simp [Message.IsConsistent, Message.defer]) hstored
      rw [Task.run, hperform]
      show Ends w d (some (.ok ((w.newMessage draft).defer now now))) w'.ledger
      have hgrown : w'.ledger = w.ledger.grown ((w.newMessage draft).defer now now) :=
        hledger.trans (grown_put (k := w.ledger) (m := w.newMessage draft) rfl)
      rw [hgrown]
      exact .setAside h hstores hrejects hnow hrefuses

/-- A new message has its entry, or is set aside or left behind. -/
theorem ends_enqueue {w : World} {d draft : Draft} (h : d.normalize = .ok draft)
    (hstores : World.takePlanned .createMessage w.planned = none) :
    Ends w d ((enqueue (w.newMessage draft)).run (w.storing draft)).1
      ((enqueue (w.newMessage draft)).run (w.storing draft)).2.ledger := by
  show Ends w d (Task.run (.call (.push (w.newMessage draft).id.text) _) (w.storing draft)).1
    (Task.run (.call (.push (w.newMessage draft).id.text) _) (w.storing draft)).2.ledger
  -- a rejected entry leaves the message to be set aside
  cases hrejects : w.queue.rejecting with
  | true =>
    obtain ⟨e, hperform⟩ := World.perform_push_of_rejecting (w := w.storing draft) hrejects
      (w.newMessage draft).id.text
    rw [Task.run, hperform]
    exact ends_setAside h hstores hrejects
  | false =>
    obtain ⟨w', hperform, hledger⟩ :=
      World.perform_push_of_accepting (w := w.storing draft) hrejects (w.newMessage draft).id.text
    rw [Task.run, hperform]
    show Ends w d (some (.ok (w.newMessage draft))) w'.ledger
    rw [hledger]
    exact .queued h hstores hrejects

/-- Every submission ends in one of the listed ways. -/
theorem ends (w : World) (d : Draft) :
    Ends w d ((submit d).run w).1 ((submit d).run w).2.ledger := by
  rw [submit]
  cases hdraft : d.normalize with
  | error u => exact .refused hdraft
  | ok draft =>
    show Ends w d (Task.run (.call (.createMessage draft) _) w).1
      (Task.run (.call (.createMessage draft) _) w).2.ledger
    rcases hplanned : World.takePlanned .createMessage w.planned with _ | ⟨e, planned⟩
    · rw [Task.run, World.perform_create hplanned]
      exact ends_enqueue hdraft hplanned
    · have hperform : w.perform (.createMessage draft) = (some (.error e), { w with planned }) := by
        simp only [World.perform, World.storeCall, hplanned]
      rw [Task.run, hperform]
      exact .notStored hdraft (by rw [hplanned]; rfl) e

-- ---------------------------------------------------------------------------
-- Nothing is left behind
-- ---------------------------------------------------------------------------

/-- What is to hold when a submission in a world has been answered and this is on record: an error
leaves nothing behind, and a message that is returned is the one that was added. It is pending and
was put into the queue, or it waits for a retry that is due now. -/
inductive Lawful (w : World) : Except PipelineError Message → Ledger → Prop where
  | error {e : PipelineError} {k : Ledger} (hmessages : k.messages = w.ledger.messages)
    (hentries : k.entries = w.ledger.entries) : Lawful w (.error e) k
  | queued {m : Message} {k : Ledger} (hmessages : k.messages = w.ledger.messages ++ [m])
    (hpending : m.status = .pending) (hentries : k.entries = w.ledger.entries ++ [m.id.text]) :
    Lawful w (.ok m) k
  | setAside {m : Message} {now : Instant} {k : Ledger}
    (hmessages : k.messages = w.ledger.messages ++ [m]) (hretry : m.status = .retry)
    (hnow : w.clock.utc? = some now) (hdue : m.nextRetryAt = some now)
    (hentries : k.entries = w.ledger.entries) : Lawful w (.ok m) k

/-- Whether a submission of this draft stores a message that it can neither queue nor set aside. -/
structure LeavesBehind (w : World) (d : Draft) : Prop where
  sendable : ∃ draft, d.normalize = .ok draft
  stores : World.takePlanned .createMessage w.planned = none
  rejects : w.queue.rejecting = true
  refuses : w.RefusesUpdates

/-- A message under an identifier that is not there is put at the end. -/
theorem place_of_missing {m : Message} {l : List Message} (h : ∀ n ∈ l, n.id ≠ m.id) :
    Store.place m l = l ++ [m] := by
  induction l with
  | nil => rfl
  | cons n rest ih =>
    rw [Store.place, if_neg (h n List.mem_cons_self),
      ih fun n hn => h n (List.mem_cons_of_mem _ hn)]
    rfl

theorem messages_grown {k : Ledger} {m : Message} (h : k.get? m.id = none) :
    (k.grown m).messages = k.messages ++ [m] :=
  place_of_missing fun n hn => by simpa using List.find?_eq_none.mp h n hn

section Answer

variable {w : World} {d : Draft} {answer : Except PipelineError Message} {k : Ledger}

/-- A submission is lawful, unless both the queue and the update refuse the message. -/
theorem Ends.lawful_or_leavesBehind (h : Ends w d (some answer) k)
    (hnew : w.ledger.get? (w.supply.messageIds w.created) = none) :
    Lawful w answer k ∨ LeavesBehind w d := by
  cases h with
  | refused => exact .inl (.error rfl rfl)
  | notStored => exact .inl (.error rfl rfl)
  | queued => exact .inl (.queued (messages_grown hnew) rfl rfl)
  | setAside _ _ _ hnow => exact .inl (.setAside (messages_grown hnew) rfl hnow rfl rfl)
  | leftBehind hdraft hstores hrejects hrefuses _ =>
    exact .inr ⟨⟨_, hdraft⟩, hstores, hrejects, hrefuses⟩

/-- What a submission ends with that leaves its message behind. -/
theorem Ends.of_leavesBehind (h : Ends w d (some answer) k) (hbehind : LeavesBehind w d)
    (hnew : w.ledger.get? (w.supply.messageIds w.created) = none) :
    (∃ e, answer = .error e) ∧ k.entries = w.ledger.entries
      ∧ ∃ m : Message, m.status = .pending ∧ k.messages = w.ledger.messages ++ [m] := by
  obtain ⟨⟨draft', hdraft'⟩, hstores', hrejects', hrefuses'⟩ := hbehind
  cases h with
  | refused hdraft => cases hdraft'.symm.trans hdraft
  | notStored _ hfails =>
    rw [hstores'] at hfails
    cases hfails
  | queued _ _ haccepts => cases hrejects'.symm.trans haccepts
  | setAside _ _ _ _ hwrites => exact absurd hrefuses' hwrites
  | leftBehind _ _ _ _ e => exact ⟨⟨_, rfl⟩, rfl, _, rfl, messages_grown hnew⟩

/-- Where both refuse it, the submission is not lawful. -/
theorem Ends.not_lawful (h : Ends w d (some answer) k) (hbehind : LeavesBehind w d)
    (hnew : w.ledger.get? (w.supply.messageIds w.created) = none) : ¬ Lawful w answer k := by
  obtain ⟨⟨e, rfl⟩, -, m, -, hmessages⟩ := h.of_leavesBehind hbehind hnew
  intro hlawful
  cases hlawful with
  | error hsame =>
    rw [hsame] at hmessages
    simp at hmessages

/-- A submission is answered, if the clock can be read. -/
theorem Ends.isSome {answer : Option (Except PipelineError Message)} (h : Ends w d answer k)
    (hclock : w.clock.utc?.isSome = true) : answer.isSome = true := by
  cases h with
  | broken _ _ _ hnow =>
    rw [hnow] at hclock
    cases hclock
  | refused | notStored | queued | setAside | leftBehind => rfl

end Answer

/-- A submission whose identifier is new keeps to the law, unless it stores a message that it can
neither queue nor set aside. Then it ends with an error, and the message is there, pending, without
an entry. Wherever the clock shows an instant there is an answer. -/
theorem lawful_or_left_behind (w : World) (d : Draft)
    (hnew : w.ledger.get? (w.supply.messageIds w.created) = none) :
    (∀ answer, ((submit d).run w).1 = some answer →
      (Lawful w answer ((submit d).run w).2.ledger ↔ ¬ LeavesBehind w d)
      ∧ (LeavesBehind w d → (∃ e, answer = .error e)
        ∧ ((submit d).run w).2.ledger.entries = w.ledger.entries
        ∧ ∃ m : Message, m.status = .pending
          ∧ ((submit d).run w).2.ledger.messages = w.ledger.messages ++ [m]))
    ∧ (w.clock.utc?.isSome = true → ((submit d).run w).1.isSome = true) := by
  have hends := ends w d
  refine ⟨fun answer hanswer => ?_, hends.isSome⟩
  rw [hanswer] at hends
  refine ⟨⟨fun hlawful hbehind => hends.not_lawful hbehind hnew hlawful, ?_⟩,
    fun hbehind => hends.of_leavesBehind hbehind hnew⟩
  exact (hends.lawful_or_leavesBehind hnew).resolve_right

end Submission

-- A webhook is submitted where the queue takes no entries, and where messages cannot be changed
-- either.

/-- A world in which nothing has happened, whose queue rejects all pushes. -/
def World.rejecting : World :=
  { World.fresh with queue := { rejecting := true } }

/-- The same, where no message can be changed. -/
def World.refusing : World :=
  { World.rejecting with store := { failMessageUpdates := true } }

/-- Where only the queue fails, the law is kept. -/
theorem Submission.lawful_rejecting : ∃ answer, ((submit .toLoopback).run .rejecting).1 = some answer
    ∧ Lawful .rejecting answer ((submit .toLoopback).run .rejecting).2.ledger := by
  obtain ⟨hlaw, hanswered⟩ := lawful_or_left_behind .rejecting .toLoopback rfl
  obtain ⟨answer, hanswer⟩ := Option.isSome_iff_exists.mp (hanswered (by decide +kernel))
  refine ⟨answer, hanswer, (hlaw answer hanswer).1.mpr fun hbehind => ?_⟩
  rcases hbehind.refuses with hfails | hplanned
  · cases hfails
  · cases hplanned

/-- The law is not always kept. -/
theorem Submission.not_always_lawful : ¬ ∀ (w : World) (d : Draft) (answer : _),
    w.ledger.get? (w.supply.messageIds w.created) = none → ((submit d).run w).1 = some answer →
    Lawful w answer ((submit d).run w).2.ledger := by
  intro hall
  have hends := ends .refusing .toLoopback
  have hbehind : LeavesBehind .refusing .toLoopback :=
    ⟨⟨_, Draft.normalize_toLoopback⟩, rfl, rfl, .inl rfl⟩
  obtain ⟨answer, hanswer⟩ := Option.isSome_iff_exists.mp (hends.isSome (by decide +kernel))
  rw [hanswer] at hends
  exact hends.not_lawful hbehind rfl (hall _ _ _ rfl hanswer)

end WebhookDelivery
