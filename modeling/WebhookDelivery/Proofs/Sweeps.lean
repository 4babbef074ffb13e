import WebhookDelivery.Proofs.Recovery

/-!
# What sweeps put back

A sweep asks for the due messages, the earliest first and no more than its batch, pushes each into
the queue and marks it pending. What it puts back is not due any more, so the next sweep asks for
the earliest of those that are left: where nothing fails and the clock stands still, sweeps in a row
put every due message back once, and then do nothing. Nothing here depends on how messages that are
due at the same time are put in order.

* `Sweep.areEarliest_dueRetries` — what a sweep finds.
* `World.Sweepable.sweep` — what it does with it.
* `World.Sweepable.sweeps` — what sweeps in a row have done.
* `Sweep.drains` — how many sweeps it takes.
-/

namespace WebhookDelivery

-- ---------------------------------------------------------------------------
-- Due messages
-- ---------------------------------------------------------------------------

/-- Both messages have a due time, and that of the first is not after that of the second. -/
def Message.DueNoLater (m n : Message) : Prop :=
  ∃ d e, m.nextRetryAt = some d ∧ n.nextRetryAt = some e ∧ d ≤ e

theorem Store.notAfter_trans {a b c : Option Instant} (hab : notAfter a b = true)
    (hbc : notAfter b c = true) : notAfter a c = true := by
  cases a <;> cases b <;> cases c <;> simp_all [notAfter]
  exact Instant.le_trans hab hbc

theorem Store.notAfter_total (a b : Option Instant) :
    (notAfter a b || notAfter b a) = true := by
  cases a <;> cases b <;> simp [notAfter]
  exact Instant.le_total _ _

/-- A retry is due if the message waits for a time that has come. -/
theorem Message.isRetryDue_iff {m : Message} {now : Instant} :
    m.isRetryDue now = true
      ↔ m.status = .retry ∧ ∃ due, m.nextRetryAt = some due ∧ due ≤ now := by
  simp [isRetryDue, Option.any_eq_true]

namespace Ledger

/-- All messages whose retry is due. -/
def due (k : Ledger) (now : Instant) : List Message :=
  k.messages.filter (·.isRetryDue now)

/-- The due messages, the earliest first. -/
def schedule (k : Ledger) (now : Instant) : List Message :=
  (k.due now).mergeSort fun a b => Store.notAfter a.nextRetryAt b.nextRetryAt

variable {k : Ledger} {now : Instant} {m : Message}

theorem dueRetries_eq_take (k : Ledger) (limit : Nat) (now : Instant) :
    k.dueRetries limit now = (k.schedule now).take limit :=
  rfl

theorem schedule_perm (k : Ledger) (now : Instant) : (k.schedule now).Perm (k.due now) :=
  List.mergeSort_perm _ _

theorem mem_due_iff : m ∈ k.due now ↔ m ∈ k.messages ∧ m.isRetryDue now = true :=
  List.mem_filter

theorem nodup_ids_due (hdistinct : (k.messages.map (·.id)).Nodup) (now : Instant) :
    ((k.due now).map (·.id)).Nodup :=
  hdistinct.sublist (List.filter_sublist.map _)

/-- The schedule is in the order of the due times. -/
theorem pairwise_schedule (k : Ledger) (now : Instant) :
    (k.schedule now).Pairwise Message.DueNoLater := by
  have hsorted : (k.schedule now).Pairwise fun m n =>
      Store.notAfter m.nextRetryAt n.nextRetryAt = true := by
    refine List.pairwise_mergeSort ?_ ?_ _
    · exact fun _ _ _ => Store.notAfter_trans
    · exact fun _ _ => Store.notAfter_total _ _
  refine hsorted.imp_of_mem fun {m n} hm hn hle => ?_
  have hisDue : ∀ x ∈ k.schedule now, ∃ due, x.nextRetryAt = some due := fun x hx =>
    (Message.isRetryDue_iff.mp (mem_due_iff.mp ((k.schedule_perm now).mem_iff.mp hx)).2).2.imp
      fun _ h => h.1
  obtain ⟨d, hd⟩ := hisDue m hm
  obtain ⟨e, he⟩ := hisDue n hn
  rw [hd, he] at hle
  exact ⟨d, e, hd, he, of_decide_eq_true hle⟩

end Ledger

/-- The earliest of the due messages among some, as many as the limit allows, in the order of their
due times. -/
structure Sweep.AreEarliest (limit : Nat) (now : Instant) (stored chosen : List Message) : Prop where
  length_eq : chosen.length = min limit (stored.filter (·.isRetryDue now)).length
  distinct : (chosen.map (·.id)).Nodup
  due : ∀ m ∈ chosen, m ∈ stored ∧ m.status = .retry ∧ ∃ due, m.nextRetryAt = some due ∧ due ≤ now
  ordered : chosen.Pairwise Message.DueNoLater
  /-- Nothing due that is left out is due before anything that is chosen. -/
  earliest : ∀ n ∈ stored, n.isRetryDue now = true → n ∉ chosen → ∀ m ∈ chosen, m.DueNoLater n

/-- A query answers with the earliest of the due messages. -/
theorem Sweep.areEarliest_dueRetries {k : Ledger} (hdistinct : (k.messages.map (·.id)).Nodup)
    (limit : Nat) (now : Instant) :
    AreEarliest limit now k.messages (k.dueRetries limit now) := by
  -- the schedule is the answer and what was left out, which is due no earlier
  have hsplit : (k.dueRetries limit now ++ (k.schedule now).drop limit).Pairwise
      Message.DueNoLater := by
    rw [Ledger.dueRetries_eq_take, List.take_append_drop]
    exact k.pairwise_schedule now
  obtain ⟨hordered, -, hearlier⟩ := List.pairwise_append.mp hsplit
  refine ⟨?_, Ledger.nodup_dueRetries hdistinct limit now, fun m hm => ?_, hordered, ?_⟩
  · rw [Ledger.dueRetries_eq_take, List.length_take, (k.schedule_perm now).length_eq, Ledger.due]
  · obtain ⟨hstored, hdue⟩ := Ledger.mem_dueRetries hm
    exact ⟨hstored, Message.isRetryDue_iff.mp hdue⟩
  · intro n hn hdue hout m hm
    have hscheduled : n ∈ k.dueRetries limit now ++ (k.schedule now).drop limit := by
      rw [Ledger.dueRetries_eq_take, List.take_append_drop, (k.schedule_perm now).mem_iff]
      exact Ledger.mem_due_iff.mpr ⟨hn, hdue⟩
    exact hearlier m hm n ((List.mem_append.mp hscheduled).resolve_left hout)

-- ---------------------------------------------------------------------------
-- Messages that were put back
-- ---------------------------------------------------------------------------

/-- Whether it is all that lies between two ledgers that some messages were put back: each has its
entry, in this order, and is pending without a due time. -/
structure Ledger.PutBack (k : Ledger) (batch : List Message) (k' : Ledger) : Prop where
  entries : k'.entries = k.entries ++ batch.map (·.id.text)
  moved : ∀ m ∈ batch, ∃ t, k'.get? m.id = some (m.requeued t)
  others : ∀ id, id ∉ batch.map (·.id) → k'.get? id = k.get? id
  ids : k'.messages.map (·.id) = k.messages.map (·.id)
  attempts : k'.attempts = k.attempts

namespace Ledger.PutBack

variable {k k' k'' : Ledger} {batch more : List Message} {m : Message} {now : Instant}

/-- Nothing put back is nothing changed. -/
theorem nil (k : Ledger) : k.PutBack [] k where
  entries := (List.append_nil _).symm
  moved _ h := absurd h List.not_mem_nil
  others _ _ := rfl
  ids := rfl
  attempts := rfl

/-- First some messages are put back, then others. -/
theorem trans (h : k.PutBack batch k') (h' : k'.PutBack more k'')
    (hothers : ∀ m ∈ batch, m.id ∉ more.map (·.id)) : k.PutBack (batch ++ more) k'' where
  entries := by rw [h'.entries, h.entries, List.map_append, List.append_assoc]
  moved m hm := by
    rcases List.mem_append.mp hm with hm | hm
    · rw [h'.others m.id (hothers m hm)]
      exact h.moved m hm
    · exact h'.moved m hm
  others id hid := by
    rw [List.map_append, List.mem_append, not_or] at hid
    rw [h'.others id hid.2, h.others id hid.1]
  ids := h'.ids.trans h.ids
  attempts := h'.attempts.trans h.attempts

theorem distinct (h : k.PutBack batch k') (hdistinct : (k.messages.map (·.id)).Nodup) :
    (k'.messages.map (·.id)).Nodup :=
  h.ids ▸ hdistinct

/-- What is due now was due before and was not put back. -/
theorem mem_due_iff (h : k.PutBack batch k') (hdistinct : (k.messages.map (·.id)).Nodup) :
    m ∈ k'.due now ↔ m ∈ k.due now ∧ m.id ∉ batch.map (·.id) := by
  rw [Ledger.mem_due_iff, Ledger.mem_due_iff]
  constructor
  · rintro ⟨hm, hdue⟩
    have hget := get?_of_mem (h.distinct hdistinct) hm
    -- a message that was put back is pending, so it is not due
    have hout : m.id ∉ batch.map (·.id) := by
      intro hin
      obtain ⟨n, hn, hid⟩ := List.mem_map.mp hin
      obtain ⟨t, hmoved⟩ := h.moved n hn
      rw [hid, hget] at hmoved
      rw [Option.some.inj hmoved] at hdue
      cases (Message.isRetryDue_iff.mp hdue).1
    rw [h.others m.id hout] at hget
    exact ⟨⟨mem_of_get? hget, hdue⟩, hout⟩
  · rintro ⟨⟨hm, hdue⟩, hout⟩
    have hget := (h.others m.id hout).trans (get?_of_mem hdistinct hm)
    exact ⟨mem_of_get? hget, hdue⟩

/-- What was due is what was put back and what is due now. -/
theorem perm_due (h : k.PutBack batch k') (hdistinct : (k.messages.map (·.id)).Nodup)
    (hbatch : (batch.map (·.id)).Nodup) (hdue : batch ⊆ k.due now) :
    (batch ++ k'.due now).Perm (k.due now) := by
  -- neither part has a message twice, and they have none in common
  have hleft : ((batch ++ k'.due now).map (·.id)).Nodup := by
    rw [List.map_append, List.nodup_append]
    refine ⟨hbatch, nodup_ids_due (h.distinct hdistinct) now, ?_⟩
    rintro id hin _ hid rfl
    obtain ⟨m, hm, rfl⟩ := List.mem_map.mp hid
    exact ((h.mem_due_iff hdistinct).mp hm).2 hin
  have hright := Message.nodup_of_ids (nodup_ids_due hdistinct now)
  refine (List.perm_ext_iff_of_nodup (Message.nodup_of_ids hleft) hright).mpr ?_
  intro m
  rw [List.mem_append, h.mem_due_iff hdistinct]
  refine ⟨fun hm => hm.elim (fun hin => hdue hin) (·.1), fun hm => ?_⟩
  refine Classical.or_iff_not_imp_left.mpr fun hout => ⟨hm, fun hid => hout ?_⟩
  obtain ⟨n, hn, hsame⟩ := List.mem_map.mp hid
  have hstored := (Ledger.mem_due_iff.mp (hdue hn)).1
  rwa [← Ledger.eq_of_id hdistinct hstored (Ledger.mem_due_iff.mp hm).1 hsame]

end Ledger.PutBack

-- ---------------------------------------------------------------------------
-- One sweep
-- ---------------------------------------------------------------------------

namespace World

/-- A query for due messages is answered. -/
structure AnswersQuery (w : World) : Prop where
  query : w.store.dueQueryFailure = none
  unplanned : takePlanned .findRetryReady w.planned = none

/-- Nothing that a sweep does at this time fails. -/
structure Sweepable (now : Instant) (w : World) : Prop extends w.AnswersQuery where
  clock : w.clock.utc? = some now
  accepts : w.queue.rejecting = false
  writes : w.store.failMessageUpdates = false
  requeues : takePlanned .requeueMessage w.planned = none
  distinct : (w.store.messages.map (·.id)).Nodup

/-- The world in which a message was put back. -/
def puttingBack (w : World) (m : Message) : World :=
  { w.appending [m.id.text] with
    store := w.store.insert (m.requeued (w.supply.storeTimes w.asked)), asked := w.asked + 1 }

variable {w : World} {now : Instant} {m : Message} {batch : List Message}

/-- After a message was put back the sweep can go on. -/
theorem Sweepable.puttingBack (h : w.Sweepable now) (m : Message) :
    (w.puttingBack m).Sweepable now where
  query := h.query
  unplanned := h.unplanned
  clock := h.clock
  accepts := h.accepts
  writes := h.writes
  requeues := h.requeues
  distinct := Ledger.nodup_put (k := w.ledger) h.distinct _

/-- A due message is put back. -/
theorem Sweepable.requeueOne_run (h : w.Sweepable now) (hget : w.ledger.get? m.id = some m)
    (hdue : m.isRetryDue now = true) :
    (Sweep.requeueOne m).run w = (some true, w.puttingBack m) := by
  obtain ⟨hretry, due, hnext, -⟩ := Message.isRetryDue_iff.mp hdue
  -- the message still waits for the due time that it was found with
  have hrequeue : (w.appending [m.id.text]).perform (.requeueMessage m.id due)
      = (some (.ok true), w.puttingBack m) := by
    have hstored : (w.appending [m.id.text]).store.get? m.id = some m := hget
    have hwrites : (w.appending [m.id.text]).store.failMessageUpdates = false := h.writes
    have hplanned : takePlanned .requeueMessage (w.appending [m.id.text]).planned = none :=
      h.requeues
    simp only [perform, storeCall, hplanned]
    simp [Store.requeue, storeTime, hwrites, hstored, hretry, hnext, Message.setStatus, write]
    rfl
  rw [Sweep.requeueOne, hnext]
  show Task.run (.call (.push m.id.text) _) w = _
  rw [Task.run, perform_push h.accepts]
  show Task.run (.call (.requeueMessage m.id due) _) (w.appending [m.id.text]) = _
  rw [Task.run, hrequeue]
  rfl

/-- The world in which a message was put back has just that changed. -/
theorem putBack_puttingBack (hget : w.ledger.get? m.id = some m) :
    w.ledger.PutBack [m] (w.puttingBack m).ledger where
  entries := rfl
  moved n hn := by
    obtain rfl := List.mem_singleton.mp hn
    exact ⟨_, w.ledger.get?_put_self (n.requeued (w.supply.storeTimes w.asked))⟩
  others id hid := by
    have hne : m.id ≠ id := fun heq => hid (List.mem_singleton.mpr heq.symm)
    exact w.ledger.get?_put_of_ne hne
  ids := by
    have hmem : m.id ∈ w.ledger.messages.map (·.id) :=
      List.mem_map_of_mem (Ledger.mem_of_get? hget)
    exact (Ledger.ids_place (m.requeued _) w.ledger.messages).trans (if_pos hmem)
  attempts := rfl

/-- A batch of due messages is put back, one message after another. -/
theorem Sweepable.requeueAll_run (h : w.Sweepable now) (hbatch : (batch.map (·.id)).Nodup)
    (hdue : batch ⊆ w.ledger.due now) :
    ∃ w', (Sweep.requeueAll batch).run w = (some batch.length, w')
      ∧ w.ledger.PutBack batch w'.ledger ∧ w'.Sweepable now := by
  -- on the batch; the world is general, as each message changes it
  induction batch generalizing w with
  | nil => exact ⟨w, rfl, .nil _, h⟩
  | cons m rest ih =>
    obtain ⟨hm, hrest⟩ := List.nodup_cons.mp hbatch
    obtain ⟨hstored, hisDue⟩ := Ledger.mem_due_iff.mp (hdue List.mem_cons_self)
    have hget := Ledger.get?_of_mem h.distinct hstored
    have hfirst := putBack_puttingBack hget
    -- The others are still due, as no message comes twice.
    have hstill : rest ⊆ (w.puttingBack m).ledger.due now := fun n hn =>
      (hfirst.mem_due_iff h.distinct).mpr ⟨hdue (List.mem_cons_of_mem _ hn), fun heq =>
        hm (List.mem_singleton.mp heq ▸ List.mem_map_of_mem hn)⟩
    obtain ⟨w', hrun, hothers, hsweepable⟩ := ih (h.puttingBack m) hrest hstill
    refine ⟨w', ?_, hfirst.trans hothers ?_, hsweepable⟩
    · show Task.run ((Sweep.requeueOne m).bind _) w = _
      rw [Task.run_bind, h.requeueOne_run hget hisDue]
      show Task.run ((Sweep.requeueAll rest).bind _) (w.puttingBack m) = _
      rw [Task.run_bind, hrun]
      show (some (true.toNat + rest.length), w') = _
      rw [List.length_cons, Bool.toNat_true, Nat.add_comm]
    · intro n hn
      obtain rfl := List.mem_singleton.mp hn
      exact hm

end World

namespace Sweep

/-- A query for due messages is followed by putting them back and counting them. -/
theorem run_of_query (s : SweepSettings) {w w' : World} {now : Instant} {n : Nat}
    (hclock : w.clock.utc? = some now) (hquery : w.AnswersQuery)
    (hrun : (requeueAll (w.ledger.dueRetries s.batchSize.toNat now)).run w = (some n, w')) :
    s.sweep.run w = (some (.ok n), if n = 0 then w' else (w'.perform (.note (.requeued n))).2) := by
  have hnow : w.perform .now = (some now, w) := by rw [World.perform, hclock]
  show Task.run (.call .now _) w = _
  rw [Task.run, hnow]
  show Task.run (.call (.findRetryReady s.batchSize.toNat now) _) w = _
  rw [Task.run, World.perform_findRetryReady hquery.query hquery.unplanned]
  show Task.run ((requeueAll _).bind _) w = _
  rw [Task.run_bind, hrun]
  show Task.run ((report n).bind _) w' = _
  rw [report]
  split
  · rename_i hnone
    subst hnone
    rfl
  · rfl

/-- Where all pushes are rejected nothing is put back. -/
theorem requeueAll_of_rejecting {w : World} (hrejects : w.queue.rejecting = true)
    (batch : List Message) : (requeueAll batch).run w = (some 0, w) := by
  induction batch with
  | nil => rfl
  | cons m rest ih =>
    have hone : (requeueOne m).run w = (some false, w) := by
      obtain ⟨e, hpush⟩ := World.perform_push_of_rejecting hrejects m.id.text
      rw [requeueOne]
      split
      · rfl
      · show Task.run (.call (.push m.id.text) _) w = _
        rw [Task.run, hpush]
        rfl
    show Task.run ((requeueOne m).bind _) w = _
    rw [Task.run_bind, hone]
    show Task.run ((requeueAll rest).bind _) w = _
    rw [Task.run_bind, ih]
    rfl

end Sweep

/-- A query answers with all that is due, or as many as it may. -/
theorem World.Sweepable.length_dueRetries {w : World} {now : Instant} (h : w.Sweepable now)
    (limit : Nat) :
    (w.ledger.dueRetries limit now).length = min limit (w.ledger.due now).length :=
  (Sweep.areEarliest_dueRetries (k := w.ledger) h.distinct limit now).length_eq

/-- A sweep puts back what its query finds. If that is nothing, it does nothing. -/
theorem World.Sweepable.sweep {w : World} {now : Instant} (h : w.Sweepable now) (s : SweepSettings) :
    ∃ w', s.sweep.run w
        = (some (.ok (w.ledger.dueRetries s.batchSize.toNat now).length), w')
      ∧ w.ledger.PutBack (w.ledger.dueRetries s.batchSize.toNat now) w'.ledger ∧ w'.Sweepable now
      ∧ (w.ledger.dueRetries s.batchSize.toNat now = [] → w' = w) := by
  have hbatch := Ledger.nodup_dueRetries (k := w.ledger) h.distinct s.batchSize.toNat now
  have hdue : w.ledger.dueRetries s.batchSize.toNat now ⊆ w.ledger.due now := fun m hm =>
    Ledger.mem_due_iff.mpr (Ledger.mem_dueRetries hm)
  obtain ⟨w', hrun, hback, hsweepable⟩ := h.requeueAll_run hbatch hdue
  have hsweep := Sweep.run_of_query s h.clock h.toAnswersQuery hrun
  -- the totals are touched only if something was put back
  split at hsweep
  · rename_i hnone
    refine ⟨w', hsweep, hback, hsweepable, fun hnil => ?_⟩
    rw [hnil] at hrun
    exact (Prod.mk.inj hrun).2.symm
  · rename_i hsome
    refine ⟨_, hsweep, hback, ?_, fun hnil => absurd (congrArg List.length hnil) hsome⟩
    exact ⟨⟨hsweepable.query, hsweepable.unplanned⟩, hsweepable.clock, hsweepable.accepts,
      hsweepable.writes, hsweepable.requeues, hsweepable.distinct⟩

-- ---------------------------------------------------------------------------
-- Sweeps in a row
-- ---------------------------------------------------------------------------

/-- The world after so many sweeps in a row. -/
def SweepSettings.sweepTimes (s : SweepSettings) (w : World) : Nat → World
  | 0 => w
  | sweeps + 1 => (s.sweep.run (s.sweepTimes w sweeps)).2

/-- How far sweeps have come: what they have put back, and what is still due. -/
structure Sweep.Progress (now : Instant) (k : Ledger) (moved : List Message) (k' : Ledger) :
    Prop where
  back : k.PutBack moved k'
  /-- Nothing is lost, and nothing is put back twice. -/
  perm : (moved ++ k'.due now).Perm (k.due now)
  ordered : moved.Pairwise Message.DueNoLater
  earlier : ∀ m ∈ moved, ∀ n ∈ k'.due now, m.DueNoLater n

namespace Sweep.Progress

variable {now : Instant} {k k' k'' : Ledger} {moved : List Message}

/-- Before the first sweep nothing was put back. -/
theorem start (now : Instant) (k : Ledger) : Progress now k [] k where
  back := .nil k
  perm := .refl _
  ordered := .nil
  earlier _ h := absurd h List.not_mem_nil

/-- The earliest of those that are left are put back. -/
theorem next (h : Progress now k moved k') (hdistinct : (k.messages.map (·.id)).Nodup)
    {limit : Nat} (hback : k'.PutBack (k'.dueRetries limit now) k'') :
    Progress now k (moved ++ k'.dueRetries limit now) k'' := by
  have hdistinct' := h.back.distinct hdistinct
  have hearliest := areEarliest_dueRetries hdistinct' limit now
  have hdue : k'.dueRetries limit now ⊆ k'.due now := fun m hm =>
    Ledger.mem_due_iff.mpr (Ledger.mem_dueRetries hm)
  -- what is due afterwards was due before and was left out
  have hleft : ∀ m ∈ k''.due now, m ∈ k'.due now ∧ m ∉ k'.dueRetries limit now := fun m hm =>
    ((hback.mem_due_iff hdistinct').mp hm).imp_right fun hid hin =>
      hid (List.mem_map_of_mem hin)
  refine ⟨h.back.trans hback fun m hm hin => ?_, ?_, ?_, fun m hm n hn => ?_⟩
  · obtain ⟨n, hn, hid⟩ := List.mem_map.mp hin
    have hout := ((h.back.mem_due_iff hdistinct).mp (hdue hn)).2
    exact hout (hid ▸ List.mem_map_of_mem hm)
  · rw [List.append_assoc]
    exact ((hback.perm_due hdistinct' hearliest.distinct hdue).append_left moved).trans h.perm
  · exact List.pairwise_append.mpr
      ⟨h.ordered, hearliest.ordered, fun m hm n hn => h.earlier m hm n (hdue hn)⟩
  · obtain ⟨hn, hout⟩ := hleft n hn
    rcases List.mem_append.mp hm with hm | hm
    · exact h.earlier m hm n hn
    · obtain ⟨hstored, hisDue⟩ := Ledger.mem_due_iff.mp hn
      exact hearliest.earliest n hstored hisDue hout m hm

end Sweep.Progress

/-- Sweeps in a row have put back as many messages as they could take. -/
theorem World.Sweepable.sweeps {w : World} {now : Instant} (h : w.Sweepable now) (s : SweepSettings)
    (i : Nat) :
    (s.sweepTimes w i).Sweepable now
      ∧ ∃ moved, Sweep.Progress now w.ledger moved (s.sweepTimes w i).ledger
        ∧ moved.length = min (i * s.batchSize.toNat) (w.ledger.due now).length := by
  induction i with
  | zero => exact ⟨h, [], .start now w.ledger, by simp⟩
  | succ i ih =>
    obtain ⟨hsweepable, moved, hprogress, hlength⟩ := ih
    obtain ⟨w', hrun, hback, hsweepable', -⟩ := hsweepable.sweep s
    have hworld : s.sweepTimes w (i + 1) = w' := by rw [SweepSettings.sweepTimes, hrun]
    have hall := hprogress.perm.length_eq
    rw [hworld]
    refine ⟨hsweepable', _, hprogress.next h.distinct hback, ?_⟩
    rw [List.length_append] at hall ⊢
    rw [hsweepable.length_dueRetries, hlength, Nat.succ_mul]
    omega

/-- What a sweep in the row answers. -/
theorem World.Sweepable.answer {w : World} {now : Instant} (h : w.Sweepable now) (s : SweepSettings)
    (i : Nat) :
    (s.sweep.run (s.sweepTimes w i)).1 = some (.ok
      (min s.batchSize.toNat ((w.ledger.due now).length - i * s.batchSize.toNat))) := by
  obtain ⟨hsweepable, moved, hprogress, hlength⟩ := h.sweeps s i
  obtain ⟨w', hrun, -⟩ := hsweepable.sweep s
  have hall := hprogress.perm.length_eq
  rw [List.length_append, hlength] at hall
  have hleft : ((s.sweepTimes w i).ledger.due now).length
      = (w.ledger.due now).length - i * s.batchSize.toNat := by omega
  rw [hrun, hsweepable.length_dueRetries, hleft]

/-- So many batches hold so many messages. -/
theorem Sweep.le_batches {n b i : Nat} (hb : 0 < b) (hi : (n + b - 1) / b ≤ i) : n ≤ i * b := by
  have hwhole := Nat.div_add_mod (n + b - 1) b
  have hrest := Nat.mod_lt (n + b - 1) hb
  have hmono := Nat.mul_le_mul_left b hi
  rw [Nat.mul_comm i b]
  omega

/-- A query for due messages finds the earliest of them, as many as it asks for. A sweep whose
pushes are rejected changes nothing. Where nothing fails, a sweep puts back exactly what the query
finds, in this order, and answers how many they are; and of sweeps in a row each puts back a batch of
what is left. If the batch is not empty, then after as many sweeps as it takes to hold them all every
message that was due was put back once, the earliest first, and every further sweep does nothing. -/
theorem Sweep.drains (s : SweepSettings) {w : World} {now : Instant}
    (hclock : w.clock.utc? = some now) (hquery : w.AnswersQuery)
    (hdistinct : (w.store.messages.map (·.id)).Nodup) :
    ∃ batch, w.perform (.findRetryReady s.batchSize.toNat now) = (some (.ok batch), w)
      ∧ AreEarliest s.batchSize.toNat now w.store.messages batch
      ∧ (w.queue.rejecting = true → s.sweep.run w = (some (.ok 0), w))
      ∧ (w.queue.rejecting = false → w.store.failMessageUpdates = false →
        World.takePlanned .requeueMessage w.planned = none →
        (∃ w', s.sweep.run w = (some (.ok batch.length), w') ∧ w.ledger.PutBack batch w'.ledger)
        ∧ (∀ i, (s.sweep.run (s.sweepTimes w i)).1 = some (.ok
          (min s.batchSize.toNat ((w.ledger.due now).length - i * s.batchSize.toNat))))
        ∧ (0 < s.batchSize.toNat →
          ∀ i, ((w.ledger.due now).length + s.batchSize.toNat - 1) / s.batchSize.toNat ≤ i →
            (∃ moved, moved.Perm (w.ledger.due now) ∧ moved.Pairwise Message.DueNoLater
              ∧ w.ledger.PutBack moved (s.sweepTimes w i).ledger)
            ∧ s.sweep.run (s.sweepTimes w i) = (some (.ok 0), s.sweepTimes w i))) := by
  refine ⟨w.ledger.dueRetries s.batchSize.toNat now,
    World.perform_findRetryReady hquery.query hquery.unplanned _ _,
    areEarliest_dueRetries (k := w.ledger) hdistinct _ now, fun hrejects => ?_,
    fun haccepts hwrites hrequeues => ?_⟩
  · have hnone := requeueAll_of_rejecting hrejects (w.ledger.dueRetries s.batchSize.toNat now)
    exact run_of_query s hclock hquery hnone
  · have hsweepable : w.Sweepable now :=
      ⟨hquery, hclock, haccepts, hwrites, hrequeues, hdistinct⟩
    obtain ⟨w', hrun, hback, -⟩ := hsweepable.sweep s
    refine ⟨⟨w', hrun, hback⟩, hsweepable.answer s, fun hbatch i hi => ?_⟩
    obtain ⟨hlast, moved, hprogress, hlength⟩ := hsweepable.sweeps s i
    rw [Nat.min_eq_right (le_batches hbatch hi)] at hlength
    -- As many were put back as were due, so that none is left.
    have hnone : (s.sweepTimes w i).ledger.due now = [] := by
      have hall := hprogress.perm.length_eq
      rw [List.length_append] at hall
      exact List.length_eq_zero_iff.mp (by omega)
    have hperm := hprogress.perm
    rw [hnone, List.append_nil] at hperm
    refine ⟨⟨moved, hperm, hprogress.ordered, hprogress.back⟩, ?_⟩
    have hfound : (s.sweepTimes w i).ledger.dueRetries s.batchSize.toNat now = [] := by
      have hschedule := (s.sweepTimes w i).ledger.schedule_perm now
      rw [hnone] at hschedule
      rw [Ledger.dueRetries_eq_take, hschedule.eq_nil, List.take_nil]
    obtain ⟨w'', hidle, -, -, hsame⟩ := hlast.sweep s
    rw [hidle, hsame hfound, hfound]
    rfl

-- Two webhooks are due at the same time, and a third a second later.

/-- A world in which they wait. -/
def World.waiting : World :=
  { World.fresh with
    store := { messages := [
      Message.older.defer .epoch .epoch, Message.newer.defer .epoch .epoch,
      { Message.older with id := Supply.counting.messageIds 2 }.defer
        Message.newer.createdAt .epoch] } }

/-- Two sweeps that take one message each put the first two back. -/
theorem Sweep.drains_waiting : ∃ moved,
    moved.Perm [Message.older.defer .epoch .epoch, Message.newer.defer .epoch .epoch]
      ∧ World.waiting.ledger.PutBack moved
        (SweepSettings.sweepTimes { batchSize := 1 } .waiting 2).ledger := by
  have hclock : World.waiting.clock.utc? = some .epoch := by decide
  obtain ⟨_, -, -, -, hworks⟩ := drains { batchSize := 1 } hclock ⟨rfl, rfl⟩ (by decide)
  obtain ⟨-, -, hrow⟩ := hworks rfl rfl rfl
  obtain ⟨⟨moved, hperm, -, hback⟩, -⟩ := hrow (by decide) 2 (by decide)
  exact ⟨moved, hperm, hback⟩

end WebhookDelivery
