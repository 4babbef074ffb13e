import WebhookDelivery.Proofs.Recovery

/-!
# Recoveries one after another

A recovery adds to the queue and does nothing else: what is stored stays as it is, and so do the
entries that are there. It adds the identifiers of pending messages without an entry, in the order
of their age, and no identifier twice. What it has added has an entry then, so that a second recovery
with the same limit finds nothing to add.

* `Recovery.enqueued_appending` — nothing is left for a second recovery.
* `Recovery.recover_of_rejecting` — where pushes are rejected, nothing is added.
* `Recovery.adds_once` — what one recovery adds, and that a second adds nothing.
-/

namespace WebhookDelivery

namespace Recovery

attribute [local irreducible] MessageId.text

section Enqueued

variable {k : Ledger} {limit : Nat} {m : Message}

/-- What is put into the queue is pending within the limit and has no entry. -/
theorem mem_enqueued_iff :
    m ∈ enqueued k limit ↔ m ∈ k.pending limit ∧ m.id.text ∉ k.entries := by
  rw [enqueued, List.mem_filter, Ledger.lacks]
  simp

/-- No identifier is added twice. -/
theorem nodup_enqueued (hdistinct : (k.messages.map (·.id)).Nodup) :
    ((enqueued k limit).map (·.id.text)).Nodup := by
  have hids : ((enqueued k limit).map (·.id)).Nodup :=
    (k.nodup_backlog hdistinct).sublist
      ((List.filter_sublist.trans (List.take_sublist _ _)).map _)
  have htexts : (((enqueued k limit).map (·.id)).map MessageId.text).Nodup :=
    List.Pairwise.map _ (fun _ _ hne heq => hne (MessageId.text_injective heq)) hids
  rwa [List.map_map] at htexts

/-- After a recovery each of the oldest pending messages has an entry. -/
theorem mem_entries_of_pending (h : m ∈ k.pending limit) :
    m.id.text ∈ k.entries ++ (enqueued k limit).map (·.id.text) := by
  rw [List.mem_append]
  refine Classical.or_iff_not_imp_left.mpr fun hlacks => ?_
  exact List.mem_map_of_mem (mem_enqueued_iff.mpr ⟨h, hlacks⟩)

/-- Nothing is left for a second recovery. -/
theorem enqueued_appending (k : Ledger) (limit : Nat) :
    enqueued { k with entries := k.entries ++ (enqueued k limit).map (·.id.text) } limit = [] := by
  refine List.eq_nil_iff_forall_not_mem.mpr fun m hm => ?_
  obtain ⟨hpending, hlacks⟩ := mem_enqueued_iff.mp hm
  exact hlacks (mem_entries_of_pending hpending)

end Enqueued

/-- Where all pushes are rejected nothing is added. -/
theorem enqueueAll_of_rejecting {w : World} (hrejects : w.queue.rejecting = true)
    (batch : List Message) : (enqueueAll batch).run w = (some (.ok 0), w) := by
  induction batch with
  | nil => rfl
  | cons m rest ih =>
    -- with an entry it is passed over, without one the push is rejected
    have hone : (enqueueOne m).run w = (some (.ok false), w) := by
      obtain ⟨e, hpush⟩ := World.perform_push_of_rejecting hrejects m.id.text
      have hlook : w.perform (.queueContains m.id.text)
          = (some (.ok (w.queue.contains m.id.text)), w) := rfl
      show Task.run (.call (.queueContains m.id.text) _) w = _
      rw [Task.run, hlook]
      cases w.queue.contains m.id.text with
      | true => rfl
      | false =>
        show Task.run (.call (.push m.id.text) _) w = _
        rw [Task.run, hpush]
        rfl
    show Task.run ((enqueueOne m).bind _) w = _
    rw [Task.run_bind, hone]
    show Task.run ((enqueueAll rest).bind _) w = _
    rw [Task.run_bind, ih]
    rfl

/-- A recovery whose entries are rejected changes nothing and counts nothing. -/
theorem recover_of_rejecting (s : SweepSettings) {w : World}
    (hplanned : World.takePlanned .findPending w.planned = none)
    (hrejects : w.queue.rejecting = true) : s.recover.run w = (some (.ok 0), w) := by
  show Task.run (.call (.findPending s.recoveryLimit.toNat) _) w = _
  rw [Task.run, World.perform_findPending hplanned]
  show Task.run ((enqueueAll (w.ledger.pending s.recoveryLimit.toNat)).bind _) w = _
  rw [Task.run_bind, enqueueAll_of_rejecting hrejects]
  rfl

/-- A recovery that finds nothing to add changes nothing. -/
theorem recover_of_none (s : SweepSettings) {w : World}
    (hplanned : World.takePlanned .findPending w.planned = none)
    (haccepts : w.queue.rejecting = false) (hdistinct : (w.store.messages.map (·.id)).Nodup)
    (hnone : enqueued w.ledger s.recoveryLimit.toNat = []) :
    s.recover.run w = (some (.ok 0), w) := by
  rw [recover_eq s hplanned haccepts hdistinct, hnone]
  show (_, counted (w.appending []) 0) = _
  rw [counted, if_pos rfl, w.appending_nil]
  rfl

/-- A recovery whose query is answered ends and answers how many identifiers it has added at the end
of the queue. They are those of pending messages that had no entry, none of them twice, in the order
of their age, and nothing else changes in the store or the queue. If pushes are rejected none is
added. If they are accepted, each of the oldest messages that it asks for has an entry then, and a
second recovery adds nothing and changes nothing. -/
theorem adds_once (s : SweepSettings) {w : World}
    (hplanned : World.takePlanned .findPending w.planned = none)
    (hdistinct : (w.store.messages.map (·.id)).Nodup) :
    ∃ added w', s.recover.run w = (some (.ok added.length), w')
      ∧ w'.store = w.store
      ∧ w'.queue = { w.queue with entries := w.queue.entries ++ added.map (·.id.text) }
      ∧ (∀ m ∈ added,
        m ∈ w.store.messages ∧ m.status = .pending ∧ m.id.text ∉ w.queue.entries)
      ∧ (added.map (·.id.text)).Nodup
      ∧ added.Pairwise (fun m n => m.createdAt ≤ n.createdAt)
      ∧ (w.queue.rejecting = true → added = [])
      ∧ (w.queue.rejecting = false →
        (∀ m ∈ w.store.pending s.recoveryLimit.toNat, m.id.text ∈ w'.queue.entries)
        ∧ s.recover.run w' = (some (.ok 0), w')) := by
  -- a queue that rejects entries is left as it is
  cases hrejects : w.queue.rejecting with
  | true =>
    have hrun := recover_of_rejecting s hplanned hrejects
    refine ⟨[], w, hrun, rfl, by simp, List.forall_mem_nil _, .nil, .nil, fun _ => rfl, ?_⟩
    rintro ⟨⟩
  | false =>
    have hrun := recover_eq s hplanned hrejects hdistinct
    obtain ⟨stats, metrics, hcounted⟩ :=
      exists_counted_eq (w.appending ((enqueued w.ledger s.recoveryLimit.toNat).map (·.id.text)))
        (enqueued w.ledger s.recoveryLimit.toNat).length
    rw [hcounted] at hrun
    refine ⟨enqueued w.ledger s.recoveryLimit.toNat, _, hrun, rfl, rfl, fun m hm => ?_,
      nodup_enqueued hdistinct, (pairwise_enqueued w.ledger _).1, (by rintro ⟨⟩), fun _ => ?_⟩
    · obtain ⟨hpending, hlacks⟩ := mem_enqueued_iff.mp hm
      obtain ⟨hstored, hstatus⟩ := Ledger.mem_pending hpending
      exact ⟨hstored, hstatus, hlacks⟩
    · refine ⟨fun m hm => mem_entries_of_pending (k := w.ledger) hm, ?_⟩
      exact recover_of_none s hplanned hrejects hdistinct (enqueued_appending w.ledger _)

/-- Where the older of two pending webhooks has an entry, the newer one is added, once. -/
theorem adds_once_halfQueued : ∃ w',
    (SweepSettings.recover { recoveryLimit := 2 }).run .halfQueued = (some (.ok 1), w')
      ∧ w'.queue.entries = [Message.older.id.text, Message.newer.id.text]
      ∧ (SweepSettings.recover { recoveryLimit := 2 }).run w' = (some (.ok 0), w') := by
  have hpending : World.halfQueued.store.pending 2 = [.older, .newer] := by
    show World.halfQueued.ledger.pending 2 = _
    rw [Ledger.pending_eq_take, World.backlog_halfQueued]
    rfl
  obtain ⟨added, w', hrun, hstore, hqueue, hadded, hnodup, -, -, haccepted⟩ :=
    adds_once { recoveryLimit := 2 } (w := .halfQueued) rfl World.distinct_halfQueued
  obtain ⟨hentered, hagain⟩ := haccepted rfl
  -- the older one has its entry already
  have honly : ∀ m ∈ added, m = .newer := by
    intro m hm
    obtain ⟨hstored, -, hlacks⟩ := hadded m hm
    have hboth : m = .older ∨ m = .newer := by simpa using List.mem_cons.mp hstored
    rcases hboth with rfl | rfl
    · exact absurd List.mem_cons_self hlacks
    · rfl
  rw [hqueue] at hentered
  have hone : added = [.newer] := by
    cases added with
    | nil =>
      have hnewer := hentered .newer (by rw [show (2 : UInt64).toNat = 2 from rfl, hpending]; simp)
      exact absurd hnewer (by decide +kernel)
    | cons m rest =>
      cases rest with
      | nil => rw [honly m List.mem_cons_self]
      | cons n rest =>
        rw [honly m List.mem_cons_self, honly n (by simp)] at hnodup
        simp at hnodup
  subst hone
  exact ⟨w', hrun, by rw [hqueue]; rfl, hagain⟩

end Recovery

end WebhookDelivery
