import WebhookDelivery.Proofs.Submission

/-!
# What a recovery puts back

A recovery is to put the pending messages back that have no entry in the queue, the oldest first and
no more than its limit. It asks the store for as many pending messages as the limit says, and passes
over those that have an entry. So messages that have an entry count against the limit as well: where
one of them is among the oldest, and there are more pending messages than the limit, a message
without an entry may be left out although the limit is not reached.

* `Recovery.recover_run` — what a recovery does.
* `Recovery.Lawful` — what it is to do.
* `Recovery.lawful_or_crowded` — it does so except where the limit is taken up in this way.
-/

namespace WebhookDelivery

-- ---------------------------------------------------------------------------
-- Pending messages by age
-- ---------------------------------------------------------------------------

namespace Ledger

/-- All pending messages, the oldest first. -/
def backlog (k : Ledger) : List Message :=
  (k.messages.filter (·.status = .pending)).mergeSort
    fun a b => decide (a.createdAt ≤ b.createdAt)

/-- A query answers with the first of the backlog. -/
theorem pending_eq_take (k : Ledger) (limit : Nat) : k.pending limit = k.backlog.take limit := rfl

theorem backlog_perm (k : Ledger) : k.backlog.Perm (k.messages.filter (·.status = .pending)) :=
  List.mergeSort_perm _ _

theorem nodup_backlog (k : Ledger) (hdistinct : (k.messages.map (·.id)).Nodup) :
    (k.backlog.map (·.id)).Nodup := by
  rw [(k.backlog_perm.map _).nodup_iff]
  exact hdistinct.sublist (List.filter_sublist.map _)

/-- The backlog goes from the oldest to the newest. -/
theorem pairwise_backlog (k : Ledger) :
    k.backlog.Pairwise fun m n => m.createdAt ≤ n.createdAt := by
  have hsorted : k.backlog.Pairwise fun m n => decide (m.createdAt ≤ n.createdAt) = true := by
    refine List.pairwise_mergeSort ?trans ?total _
    case trans =>
      intro a b c hab hbc
      exact decide_eq_true (Instant.le_trans (of_decide_eq_true hab) (of_decide_eq_true hbc))
    case total =>
      intro a b
      rw [Bool.or_eq_true, decide_eq_true_eq, decide_eq_true_eq]
      exact Instant.le_total _ _
  exact hsorted.imp of_decide_eq_true

/-- Whether no entry in the queue names a message. -/
def lacks (k : Ledger) (m : Message) : Bool :=
  !k.entries.contains m.id.text

/-- The pending messages without an entry. -/
def orphans (k : Ledger) : List Message :=
  (k.messages.filter (·.status = .pending)).filter k.lacks

theorem filter_backlog_perm (k : Ledger) : (k.backlog.filter k.lacks).Perm k.orphans :=
  k.backlog_perm.filter _

end Ledger

namespace World

/-- The world with more entries at the end of the queue. -/
def appending (w : World) (entries : List String) : World :=
  { w with queue := { w.queue with entries := w.queue.entries ++ entries } }

theorem appending_nil (w : World) : w.appending [] = w := by
  simp [appending]

theorem appending_append (w : World) (l l' : List String) :
    (w.appending l).appending l' = w.appending (l ++ l') := by
  simp [appending]

theorem perform_push {w : World} (haccepts : w.queue.rejecting = false) (entry : String) :
    w.perform (.push entry) = (some (.ok ()), w.appending [entry]) := by
  simp [perform, Queue.push, haccepts, appending]

end World

-- ---------------------------------------------------------------------------
-- What a recovery does
-- ---------------------------------------------------------------------------

namespace Recovery

attribute [local irreducible] MessageId.text

/-- The entry that a message gets, if it has none. -/
def newEntry (k : Ledger) (m : Message) : List String :=
  if k.lacks m then [m.id.text] else []

/-- The new entry is the identifier of the message. -/
theorem eq_text_of_mem_newEntry {k : Ledger} {m : Message} {entry : String}
    (h : entry ∈ newEntry k m) : entry = m.id.text := by
  rw [newEntry] at h
  split at h
  · exact List.mem_singleton.mp h
  · cases h

/-- One more message to look at is one more orphan, or none. -/
theorem length_lacking_cons (k : Ledger) (m : Message) (rest : List Message) :
    ((m :: rest).filter k.lacks).length
      = (k.lacks m).toNat + (rest.filter k.lacks).length := by
  cases hlacks : k.lacks m with
  | true => simp [hlacks, Nat.add_comm]
  | false => simp [hlacks]

/-- One more message to look at adds its new entry in front, if it has one. -/
theorem entries_lacking_cons (k : Ledger) (m : Message) (rest : List Message) :
    ((m :: rest).filter k.lacks).map (·.id.text)
      = newEntry k m ++ (rest.filter k.lacks).map (·.id.text) := by
  rw [newEntry]
  cases hlacks : k.lacks m with
  | true => simp [hlacks]
  | false => simp [hlacks]

/-- A message gets an entry exactly if it has none. -/
theorem enqueueOne_run {w : World} (haccepts : w.queue.rejecting = false) (m : Message) :
    (enqueueOne m).run w
      = (some (.ok (w.ledger.lacks m)), w.appending (newEntry w.ledger m)) := by
  show Task.run (.call (.queueContains m.id.text) _) w = _
  have hlook : w.perform (.queueContains m.id.text)
      = (some (.ok (w.ledger.entries.contains m.id.text)), w) := rfl
  rw [Task.run, hlook, newEntry, Ledger.lacks]
  cases hcontains : w.ledger.entries.contains m.id.text with
  | true =>
    rw [if_neg (by simp), w.appending_nil]
    rfl
  | false =>
    show Task.run (.call (.push m.id.text) _) w = _
    rw [Task.run, World.perform_push haccepts]
    rfl

/-- Putting one message into the queue gives no other message an entry. -/
theorem lacks_appending (w : World) {m n : Message} (hne : n.id ≠ m.id) :
    (w.appending (newEntry w.ledger m)).ledger.lacks n = w.ledger.lacks n := by
  have hother : n.id.text ∉ newEntry w.ledger m := fun hmem =>
    hne (MessageId.text_injective (eq_text_of_mem_newEntry hmem))
  show (!(w.ledger.entries ++ newEntry w.ledger m).contains n.id.text)
    = !w.ledger.entries.contains n.id.text
  simp [hother]

/-- Those of a batch without an entry are put into the queue, in the order of the batch. -/
theorem enqueueAll_run {w : World} (haccepts : w.queue.rejecting = false) {batch : List Message}
    (hdistinct : (batch.map (·.id)).Nodup) :
    (enqueueAll batch).run w = (some (.ok (batch.filter w.ledger.lacks).length),
      w.appending ((batch.filter w.ledger.lacks).map (·.id.text))) := by
  -- on the batch; the world is general, as the queue grows
  induction batch generalizing w with
  | nil =>
    rw [List.filter_nil, List.map_nil, w.appending_nil]
    rfl
  | cons m rest ih =>
    rw [List.map_cons, List.nodup_cons] at hdistinct
    obtain ⟨hm, hrest⟩ := hdistinct
    -- No message comes twice in a batch, so that the first one's entry makes no difference later.
    have hlacks : rest.filter (w.appending (newEntry w.ledger m)).ledger.lacks
        = rest.filter w.ledger.lacks := by
      refine List.filter_congr fun n hn => lacks_appending w fun heq => ?_
      exact hm (heq ▸ List.mem_map_of_mem hn)
    have hothers := ih (w := w.appending (newEntry w.ledger m)) haccepts hrest
    rw [hlacks, World.appending_append] at hothers
    rw [length_lacking_cons, entries_lacking_cons]
    show Task.run ((enqueueOne m).bind _) w = _
    rw [Task.run_bind, enqueueOne_run haccepts]
    show Task.run ((enqueueAll rest).bind _) (w.appending (newEntry w.ledger m)) = _
    rw [Task.run_bind, hothers]
    rfl

/-- The messages that a recovery puts into the queue. -/
def enqueued (k : Ledger) (limit : Nat) : List Message :=
  (k.pending limit).filter k.lacks

/-- The world in which it was counted how many messages were put into the queue, if any were. -/
def counted (w : World) (n : Nat) : World :=
  if n = 0 then w else (w.perform (.note (.recovered n))).2

/-- What was put into the queue is counted and told. -/
theorem report_run (w : World) (n : Nat) : (report n).run w = (some (.ok n), counted w n) := by
  rw [report, counted]
  split
  · rename_i hnone
    rw [hnone]
    rfl
  · rfl

/-- Counting changes the counters only. -/
theorem exists_counted_eq (w : World) (n : Nat) :
    ∃ stats metrics, counted w n = { w with stats, metrics } := by
  rw [counted]
  split
  · exact ⟨w.stats, w.metrics, rfl⟩
  · exact ⟨_, _, rfl⟩

/-- A recovery puts those of the oldest pending messages into the queue that have no entry, counts
them, and answers how many they are. -/
theorem recover_eq (s : SweepSettings) {w : World}
    (hplanned : World.takePlanned .findPending w.planned = none)
    (haccepts : w.queue.rejecting = false) (hdistinct : (w.ledger.messages.map (·.id)).Nodup) :
    s.recover.run w
      = (some (.ok (enqueued w.ledger s.recoveryLimit.toNat).length),
        counted (w.appending ((enqueued w.ledger s.recoveryLimit.toNat).map (·.id.text)))
          (enqueued w.ledger s.recoveryLimit.toNat).length) := by
  have hbatch : ((w.ledger.pending s.recoveryLimit.toNat).map (·.id)).Nodup :=
    (w.ledger.nodup_backlog hdistinct).sublist ((List.take_sublist _ _).map _)
  show Task.run (.call (.findPending s.recoveryLimit.toNat) _) w = _
  rw [Task.run, World.perform_findPending hplanned]
  show Task.run ((enqueueAll (w.ledger.pending s.recoveryLimit.toNat)).bind _) w = _
  rw [Task.run_bind, enqueueAll_run haccepts hbatch]
  exact report_run _ _

/-- A recovery puts the orphans that the query has answered with into the queue. -/
theorem recover_run (s : SweepSettings) {w : World}
    (hplanned : World.takePlanned .findPending w.planned = none)
    (haccepts : w.queue.rejecting = false) (hdistinct : (w.ledger.messages.map (·.id)).Nodup) :
    ∃ w', s.recover.run w = (some (.ok (enqueued w.ledger s.recoveryLimit.toNat).length), w')
      ∧ w'.ledger = { w.ledger with entries := w.ledger.entries
          ++ (enqueued w.ledger s.recoveryLimit.toNat).map (·.id.text) } := by
  refine ⟨_, recover_eq s hplanned haccepts hdistinct, ?_⟩
  obtain ⟨_, _, heq⟩ :=
    exists_counted_eq (w.appending ((enqueued w.ledger s.recoveryLimit.toNat).map (·.id.text)))
      (enqueued w.ledger s.recoveryLimit.toNat).length
  rw [heq]
  rfl

-- ---------------------------------------------------------------------------
-- What a recovery is to do
-- ---------------------------------------------------------------------------

/-- The oldest messages of some, as many as the limit allows, in the order of their age. -/
structure AreOldest (limit : Nat) (among chosen : List Message) : Prop where
  length_eq : chosen.length = min limit among.length
  ordered : chosen.Pairwise fun m n => m.createdAt ≤ n.createdAt
  /-- Nothing that is left out is older than anything that is chosen. -/
  oldest : ∃ others, (chosen ++ others).Perm among
    ∧ ∀ m ∈ chosen, ∀ n ∈ others, m.createdAt ≤ n.createdAt

/-- A recovery is to append the oldest orphans to the queue, as many as the limit allows, and to
answer how many they are. -/
def Lawful (k : Ledger) (limit n : Nat) (k' : Ledger) : Prop :=
  ∃ chosen, AreOldest limit k.orphans chosen ∧ n = chosen.length
    ∧ k' = { k with entries := k.entries ++ chosen.map (·.id.text) }

/-- Whether messages with an entry take up the limit: one of them is among the oldest pending
messages, and there is an orphan that is not. -/
structure Crowded (k : Ledger) (limit : Nat) : Prop where
  queued : ∃ m ∈ k.pending limit, k.lacks m = false
  beyond : ∃ n ∈ k.orphans, n ∉ k.pending limit

section Law

variable {k : Ledger} {limit : Nat}

/-- The orphans that are beyond the limit of the query. -/
def beyond (k : Ledger) (limit : Nat) : List Message :=
  (k.backlog.drop limit).filter k.lacks

theorem enqueued_append_beyond (k : Ledger) (limit : Nat) :
    enqueued k limit ++ beyond k limit = k.backlog.filter k.lacks := by
  rw [enqueued, beyond, Ledger.pending_eq_take, ← List.filter_append, List.take_append_drop]

theorem perm_orphans (k : Ledger) (limit : Nat) :
    (enqueued k limit ++ beyond k limit).Perm k.orphans := by
  rw [enqueued_append_beyond]
  exact k.filter_backlog_perm

/-- No orphan is lost between the two. -/
theorem length_orphans (k : Ledger) (limit : Nat) :
    k.orphans.length = (enqueued k limit).length + (beyond k limit).length := by
  rw [← (perm_orphans k limit).length_eq, List.length_append]

/-- What is put into the queue is in order, and older than what is beyond the limit. -/
theorem pairwise_enqueued (k : Ledger) (limit : Nat) :
    (enqueued k limit).Pairwise (fun m n => m.createdAt ≤ n.createdAt)
      ∧ ∀ m ∈ enqueued k limit, ∀ n ∈ beyond k limit, m.createdAt ≤ n.createdAt := by
  have hsorted : (k.backlog.filter k.lacks).Pairwise fun m n => m.createdAt ≤ n.createdAt :=
    k.pairwise_backlog.sublist List.filter_sublist
  rw [← enqueued_append_beyond k limit, List.pairwise_append] at hsorted
  exact ⟨hsorted.1, hsorted.2.2⟩

theorem length_enqueued_le (k : Ledger) (limit : Nat) :
    (enqueued k limit).length ≤ (k.pending limit).length :=
  List.length_filter_le _ _

theorem length_pending_le (k : Ledger) (limit : Nat) : (k.pending limit).length ≤ limit :=
  List.length_take_le _ _

/-- If something is beyond the limit, the query is full. -/
theorem length_pending_of_beyond (h : beyond k limit ≠ []) : (k.pending limit).length = limit := by
  rw [Ledger.pending_eq_take, List.length_take, Nat.min_eq_left]
  refine Nat.le_of_not_lt fun hlt => h ?_
  rw [beyond, List.drop_of_length_le (Nat.le_of_lt hlt), List.filter_nil]

/-- Beyond the limit are the orphans that the query has left out. -/
theorem mem_beyond_iff (hdistinct : (k.messages.map (·.id)).Nodup) {n : Message} :
    n ∈ beyond k limit ↔ n ∈ k.orphans ∧ n ∉ k.pending limit := by
  have hbacklog : (k.backlog.take limit ++ k.backlog.drop limit).Nodup := by
    rw [List.take_append_drop]
    exact Message.nodup_of_ids (k.nodup_backlog hdistinct)
  have horphans : n ∈ k.orphans ↔ n ∈ enqueued k limit ∨ n ∈ beyond k limit := by
    rw [← (perm_orphans k limit).mem_iff, List.mem_append]
  constructor
  · intro hn
    refine ⟨horphans.mpr (.inr hn), fun hpending => ?_⟩
    exact (List.nodup_append.mp hbacklog).2.2 n hpending n (List.mem_filter.mp hn).1 rfl
  · rintro ⟨hn, hpending⟩
    exact (horphans.mp hn).resolve_left fun h => hpending (List.mem_filter.mp h).1

/-- The limit is crowded exactly if an answer had an entry and an orphan was left out. -/
theorem crowded_iff (hdistinct : (k.messages.map (·.id)).Nodup) :
    Crowded k limit
      ↔ (enqueued k limit).length < (k.pending limit).length ∧ beyond k limit ≠ [] := by
  have hqueued : (enqueued k limit).length < (k.pending limit).length
      ↔ ∃ m ∈ k.pending limit, k.lacks m = false := by
    rw [enqueued, List.length_filter_lt_length_iff_exists]
    simp only [Bool.not_eq_true]
  have hbeyond : beyond k limit ≠ [] ↔ ∃ n ∈ k.orphans, n ∉ k.pending limit := by
    rw [List.ne_nil_iff_exists_cons]
    constructor
    · rintro ⟨n, rest, heq⟩
      exact ⟨n, (mem_beyond_iff hdistinct).mp (heq ▸ List.mem_cons_self)⟩
    · rintro ⟨n, hn⟩
      exact List.ne_nil_iff_exists_cons.mp (List.ne_nil_of_mem ((mem_beyond_iff hdistinct).mpr hn))
  rw [hqueued, hbeyond]
  exact ⟨fun h => ⟨h.queued, h.beyond⟩, fun h => ⟨h.1, h.2⟩⟩

/-- What a recovery puts into the queue is what it is to put there, except where the limit is taken
up. -/
theorem areOldest_enqueued (hdistinct : (k.messages.map (·.id)).Nodup) (h : ¬ Crowded k limit) :
    AreOldest limit k.orphans (enqueued k limit) := by
  obtain ⟨hordered, holdest⟩ := pairwise_enqueued k limit
  refine ⟨?_, hordered, beyond k limit, perm_orphans k limit, holdest⟩
  have horphans := length_orphans k limit
  have hle := length_enqueued_le k limit
  have hlimit := length_pending_le k limit
  by_cases hbeyond : beyond k limit = []
  · have hnone : (beyond k limit).length = 0 := by rw [hbeyond]; rfl
    omega
  · have hfull := length_pending_of_beyond hbeyond
    have hall : ¬ (enqueued k limit).length < (k.pending limit).length := fun hlt =>
      h ((crowded_iff hdistinct).mpr ⟨hlt, hbeyond⟩)
    omega

/-- Where the limit is crowded, fewer orphans are put into the queue than there is room for. -/
theorem length_enqueued_lt (hdistinct : (k.messages.map (·.id)).Nodup) (h : Crowded k limit) :
    (enqueued k limit).length < min limit k.orphans.length := by
  obtain ⟨hlt, hbeyond⟩ := (crowded_iff hdistinct).mp h
  have horphans := length_orphans k limit
  have hlimit := length_pending_le k limit
  have hsome : 0 < (beyond k limit).length := List.length_pos_iff.mpr hbeyond
  omega

/-- Where the limit is crowded, a recovery does not do as it should. -/
theorem not_lawful_of_crowded {k' : Ledger} (hdistinct : (k.messages.map (·.id)).Nodup)
    (h : Crowded k limit) : ¬ Lawful k limit (enqueued k limit).length k' := by
  rintro ⟨chosen, holdest, hlength, -⟩
  have hlt := length_enqueued_lt hdistinct h
  rw [hlength, holdest.length_eq] at hlt
  exact Nat.lt_irrefl _ hlt

/-- Where fewer are chosen than the limit allows, all are chosen. -/
theorem AreOldest.mem_of_lt {among chosen : List Message} (h : AreOldest limit among chosen)
    (hlt : chosen.length < limit) {m : Message} (hm : m ∈ among) : m ∈ chosen := by
  obtain ⟨others, hperm, -⟩ := h.oldest
  have hlength := hperm.length_eq
  rw [List.length_append] at hlength
  have hchosen := h.length_eq
  have hnone : others = [] := List.length_eq_zero_iff.mp (by omega)
  rw [hnone, List.append_nil] at hperm
  exact hperm.mem_iff.mpr hm

/-- After a recovery that keeps to the law and does not reach its limit every pending message has an
entry. -/
theorem Lawful.queued_of_lt {k' : Ledger} {n : Nat} (h : Lawful k limit n k') (hlt : n < limit)
    {m : Message} (hm : m ∈ k'.messages) (hpending : m.status = .pending) :
    m.id.text ∈ k'.entries := by
  obtain ⟨chosen, holdest, rfl, rfl⟩ := h
  rw [List.mem_append]
  cases hlacks : k.lacks m with
  | false => exact .inl (by simpa [Ledger.lacks] using hlacks)
  | true =>
    have horphan : m ∈ k.orphans :=
      List.mem_filter.mpr ⟨List.mem_filter.mpr ⟨hm, decide_eq_true hpending⟩, hlacks⟩
    exact .inr (List.mem_map_of_mem (holdest.mem_of_lt hlt horphan))

/-- An orphan beyond the limit of the query has no entry after the recovery either. -/
theorem not_queued_of_beyond (hdistinct : (k.messages.map (·.id)).Nodup) {n : Message}
    (horphan : n ∈ k.orphans) (hbeyond : n ∉ k.pending limit) :
    n ∈ k.messages ∧ n.status = .pending
      ∧ n.id.text ∉ k.entries ++ (enqueued k limit).map (·.id.text) := by
  obtain ⟨hpending, hlacks⟩ := List.mem_filter.mp horphan
  obtain ⟨hn, hstatus⟩ := List.mem_filter.mp hpending
  refine ⟨hn, of_decide_eq_true hstatus, fun hentry => ?_⟩
  rcases List.mem_append.mp hentry with hentry | hentry
  · simp [Ledger.lacks, hentry] at hlacks
  · obtain ⟨m, hm, htext⟩ := List.mem_map.mp hentry
    have hm := (List.mem_filter.mp hm).1
    have hsame := Ledger.eq_of_id hdistinct (Ledger.mem_pending hm).1 hn
      (MessageId.text_injective htext)
    exact hbeyond (hsame ▸ hm)

end Law

/-- A recovery whose query and pushes do not fail ends with an answer. It keeps to the law exactly
where the limit is not taken up by messages with an entry; and exactly there it holds that if it
answers less than its limit, then every pending message has an entry. -/
theorem lawful_or_crowded (s : SweepSettings) {w : World}
    (hplanned : World.takePlanned .findPending w.planned = none)
    (haccepts : w.queue.rejecting = false) (hdistinct : (w.ledger.messages.map (·.id)).Nodup) :
    ∃ n w', s.recover.run w = (some (.ok n), w')
      ∧ (Lawful w.ledger s.recoveryLimit.toNat n w'.ledger
        ↔ ¬ Crowded w.ledger s.recoveryLimit.toNat)
      ∧ ((n < s.recoveryLimit.toNat →
          ∀ m ∈ w'.store.messages, m.status = .pending → m.id.text ∈ w'.queue.entries)
        ↔ ¬ Crowded w.ledger s.recoveryLimit.toNat) := by
  obtain ⟨w', hrun, hledger⟩ := recover_run s hplanned haccepts hdistinct
  have hlawful (h : ¬ Crowded w.ledger s.recoveryLimit.toNat) :
      Lawful w.ledger s.recoveryLimit.toNat _ w'.ledger :=
    ⟨_, areOldest_enqueued hdistinct h, rfl, hledger⟩
  refine ⟨_, w', hrun, ⟨fun hkept hcrowded => ?_, hlawful⟩, ⟨fun hall hcrowded => ?_, ?_⟩⟩
  · exact not_lawful_of_crowded hdistinct hcrowded hkept
  · -- crowded, with room left: one that is beyond the limit has no entry
    have hlt := length_enqueued_lt hdistinct hcrowded
    obtain ⟨m, horphan, hbeyond⟩ := hcrowded.beyond
    obtain ⟨hm, hpending, hnone⟩ := not_queued_of_beyond hdistinct horphan hbeyond
    have hmessages : w'.store.messages = w.ledger.messages := congrArg Ledger.messages hledger
    have hentries : w'.queue.entries = w.ledger.entries
        ++ (enqueued w.ledger s.recoveryLimit.toNat).map (·.id.text) :=
      congrArg Ledger.entries hledger
    refine hnone (hentries ▸ hall (by omega) m ?_ hpending)
    rwa [hmessages]
  · exact fun h hlt m hm hpending => (hlawful h).queued_of_lt hlt hm hpending

end Recovery

-- Two webhooks are pending; the older one has its entry.

/-- The older one. -/
def Message.older : Message :=
  .ofDraft (Supply.counting.messageIds 0) .toLoopback .epoch

/-- The one that was created a second later. -/
def Message.newer : Message :=
  .ofDraft (Supply.counting.messageIds 1) .toLoopback ((Instant.of? 1 0).getD .epoch)

/-- A world with both. -/
def World.halfQueued : World :=
  { World.fresh with
    store := { messages := [.older, .newer] }
    queue := { entries := [Message.older.id.text] } }

/-- The older message comes first in the backlog. -/
theorem World.backlog_halfQueued : World.halfQueued.ledger.backlog = [.older, .newer] := by
  have hpending : World.halfQueued.ledger.messages.filter (·.status = .pending)
      = [.older, .newer] := rfl
  rw [Ledger.backlog, hpending]
  exact List.mergeSort_of_pairwise (by decide)

theorem World.distinct_halfQueued : (World.halfQueued.ledger.messages.map (·.id)).Nodup := by
  decide

theorem World.lacks_halfQueued : World.halfQueued.ledger.lacks .older = false
    ∧ World.halfQueued.ledger.lacks .newer = true := by
  decide +kernel

/-- With a limit of one, the entry of the older webhook takes up the limit. -/
theorem Recovery.crowded_halfQueued : Crowded World.halfQueued.ledger 1 := by
  obtain ⟨holder, hnewer⟩ := World.lacks_halfQueued
  have hpending : World.halfQueued.ledger.pending 1 = [.older] := by
    rw [Ledger.pending_eq_take, World.backlog_halfQueued]
    rfl
  have hbeyond : Message.newer ∈ beyond World.halfQueued.ledger 1 := by
    rw [beyond, World.backlog_halfQueued]
    exact List.mem_filter.mpr ⟨List.mem_cons_self, hnewer⟩
  have hnewest := (mem_beyond_iff World.distinct_halfQueued).mp hbeyond
  exact ⟨⟨.older, by rw [hpending]; exact List.mem_cons_self, holder⟩, .newer, hnewest⟩

/-- With a limit of two there is room for the newer one, and it is put into the queue. -/
theorem Recovery.lawful_halfQueued : ∃ w',
    (SweepSettings.recover { recoveryLimit := 2 }).run .halfQueued = (some (.ok 1), w')
      ∧ Lawful World.halfQueued.ledger 2 1 w'.ledger := by
  obtain ⟨n, w', hrun, hlawful, -⟩ :=
    lawful_or_crowded { recoveryLimit := 2 } rfl rfl World.distinct_halfQueued
  -- both are within the limit, so nothing is beyond it
  have hroom : ¬ Crowded World.halfQueued.ledger 2 := by
    intro hcrowded
    obtain ⟨m, hm⟩ := hcrowded.beyond
    have hbeyond := (mem_beyond_iff World.distinct_halfQueued).mpr hm
    rw [beyond, World.backlog_halfQueued] at hbeyond
    exact absurd hbeyond List.not_mem_nil
  have hkept := hlawful.mpr hroom
  have horphans : World.halfQueued.ledger.orphans.length = 1 := by decide +kernel
  obtain rfl : n = 1 := by
    obtain ⟨chosen, holdest, hn, -⟩ := hkept
    rw [hn, holdest.length_eq, horphans]
    rfl
  exact ⟨w', hrun, hkept⟩

/-- The law is not always kept, not even where all creation times differ. -/
theorem Recovery.orphan_left_out : ¬ ∀ (s : SweepSettings) (w : World),
    World.takePlanned .findPending w.planned = none → w.queue.rejecting = false →
    (w.ledger.messages.map (·.id)).Nodup → (w.ledger.messages.map (·.createdAt)).Nodup →
    ∃ n w', s.recover.run w = (some (.ok n), w')
      ∧ Lawful w.ledger s.recoveryLimit.toNat n w'.ledger := by
  intro hall
  obtain ⟨n, w', hrun, hlawful⟩ :=
    hall { recoveryLimit := 1 } .halfQueued rfl rfl World.distinct_halfQueued (by decide)
  obtain ⟨w'', hdone, -⟩ :=
    recover_run { recoveryLimit := 1 } (w := .halfQueued) rfl rfl World.distinct_halfQueued
  obtain ⟨hn, -⟩ := Prod.mk.inj (hdone.symm.trans hrun)
  obtain rfl := Except.ok.inj (Option.some.inj hn)
  exact not_lawful_of_crowded World.distinct_halfQueued crowded_halfQueued hlawful

end WebhookDelivery
