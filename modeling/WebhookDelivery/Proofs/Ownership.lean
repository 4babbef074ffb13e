import WebhookDelivery.Proofs.Identifiers
import WebhookDelivery.Proofs.Stages

/-!
# Handles on a message

A message is reached through queue entries that name it, and through rounds that have it in hand.
These are its handles. As long as the sweep's status writes do not fail, there is at most one: what
puts an entry into the queue either gives up a handle for it, or has seen that there is none.

The sweep pushes before it marks, and in between anything may happen to the message: its entry may
be taken, the attempt made, and the message even be parked again. `Fair` is what survives all of
this: a message with a handle is pending, or it still waits for the very due time that the sweep is
about to compare with; and what the sweep has yet to push has no handle and is as the sweep saw it.

* `Owned` — the invariant, over a ledger and the stages of all rounds that are under way.
* `Owned.step` — every move preserves it.
-/

namespace WebhookDelivery

-- ---------------------------------------------------------------------------
-- What a stage holds
-- ---------------------------------------------------------------------------

namespace Stage

/-- The message that a round has in hand. -/
def hand : Stage → Option MessageId
  | popped _ id | troubled _ id => some id
  | loaded _ m | answered _ m _ | timed _ m _ _ | recorded _ m _ _ => some m.id
  | accepted m | refused m | deferring m _ => some m.id
  | idle | pausing | sweeping _ | pushed _ _ _ | recovering _ | absent _ _ => none

/-- The copy of a message that a round works on. -/
def copy? : Stage → Option Message
  | loaded _ m | answered _ m _ | timed _ m _ _ | recorded _ m _ _ => some m
  | accepted m | refused m | deferring m _ => some m
  | _ => none

/-- What the request of a round came to. -/
def report? : Stage → Option Report
  | answered _ _ report | timed _ _ report _ | recorded _ _ report _ => some report
  | _ => none

/-- The entry that a worker has taken. -/
def entry? : Stage → Option String
  | popped entry _ | troubled entry _ => some entry
  | loaded entry _ | answered entry _ _ | timed entry _ _ _ | recorded entry _ _ _ => some entry
  | _ => none

/-- The messages that are still to be swept. -/
def batch : Stage → List Message
  | sweeping batch | pushed _ _ batch => batch
  | _ => []

/-- The message that was pushed and is to be marked pending, and the due time that it had. -/
def pushed? : Stage → Option (MessageId × Instant)
  | pushed m due _ => some (m.id, due)
  | _ => none

/-- Whether a sweep is under way. -/
def sweeps : Stage → Bool
  | sweeping _ | pushed _ _ _ => true
  | _ => false

/-- Whether a recovery is under way. -/
def recovers : Stage → Bool
  | recovering _ | absent _ _ => true
  | _ => false

/-- One if the message is in hand. -/
def holds (σ : Stage) (id : MessageId) : Nat :=
  if σ.hand = some id then 1 else 0

/-- The entry in hand names the message in hand, and a sweep has no message twice. -/
structure Sound (σ : Stage) : Prop where
  entry : ∀ entry id, σ.entry? = some entry → σ.hand = some id → entry = id.text
  batch : (σ.batch.map (·.id)).Nodup
  pushed : ∀ id due, σ.pushed? = some (id, due) → id ∉ σ.batch.map (·.id)

/-- What a recovery is about to push is pending, and was not in the queue when it looked. -/
def Recovers (k : Ledger) : Stage → Prop
  | recovering batch => ∀ m ∈ batch, k.get? m.id = some m ∧ m.status = .pending
  | absent m batch => (∀ n ∈ m :: batch, k.get? n.id = some n ∧ n.status = .pending)
    ∧ m.id.text ∉ k.entries
  | _ => True

/-- Who works on a copy has its message in hand. -/
theorem hand_of_copy {σ : Stage} {c : Message} (h : σ.copy? = some c) : σ.hand = some c.id := by
  cases σ with
  | loaded | answered | timed | recorded | accepted | refused | deferring =>
    exact congrArg (Option.map (·.id)) h
  | idle | popped | troubled | pausing | sweeping | pushed | recovering | absent => cases h

theorem sweeps_of_batch {σ : Stage} {m : Message} (h : m ∈ σ.batch) : σ.sweeps = true := by
  cases σ <;> first | rfl | exact absurd h List.not_mem_nil

theorem sweeps_of_pushed {σ : Stage} {p : MessageId × Instant} (h : σ.pushed? = some p) :
    σ.sweeps = true := by
  cases σ <;> first | rfl | cases h

end Stage

/-- Whether an entry names a message. -/
def names (id : MessageId) (entry : String) : Bool :=
  MessageId.ofText? entry = some id

/-- The canonical text of an identifier names that identifier alone. -/
@[simp] theorem names_text (id id' : MessageId) : names id id'.text = decide (id' = id) := by
  simp [names]

/-- Whether an entry in the queue names a message. -/
def Ledger.Queues (k : Ledger) (id : MessageId) : Prop :=
  ∃ entry ∈ k.entries, names id entry = true

/-- What is in the queue is in a longer queue, too. -/
theorem Ledger.Queues.mono {k k' : Ledger} {id : MessageId} (h : k.Queues id)
    (hentries : k.entries ⊆ k'.entries) : k'.Queues id := by
  obtain ⟨entry, hentry, hnames⟩ := h
  exact ⟨entry, hentries hentry, hnames⟩

/-- The handles on a message: entries that name it, and rounds that have it in hand. -/
def handles (k : Ledger) (σs : List Stage) (id : MessageId) : Nat :=
  k.entries.countP (names id) + σs.countP (·.hand = some id)

/-- Handles are counted apart for one round and all others. -/
theorem handles_split (k : Ledger) (before after : List Stage) (σ : Stage) (id : MessageId) :
    handles k (before ++ σ :: after) id = handles k (before ++ after) id + σ.holds id := by
  simp only [handles, List.countP_append, List.countP_cons, decide_eq_true_eq, Stage.holds]
  omega

-- ---------------------------------------------------------------------------
-- The invariant
-- ---------------------------------------------------------------------------

/-- What holds of a message whose status writes have not failed. -/
structure Fair (k : Ledger) (σs : List Stage) (id : MessageId) : Prop where
  /-- There is at most one handle. -/
  single : handles k σs id ≤ 1
  /-- With a handle, the message is pending or about to be. -/
  live : 0 < handles k σs id → ∃ m, k.get? id = some m
    ∧ (m.status = .pending ∨ m.status = .retry
      ∧ ∃ σ ∈ σs, ∃ due, σ.pushed? = some (id, due) ∧ m.nextRetryAt = some due)
  /-- What is yet to be swept is as it was and has no handle. -/
  waiting : ∀ σ ∈ σs, ∀ m ∈ σ.batch, m.id = id →
    k.get? id = some m ∧ m.status = .retry ∧ handles k σs id = 0

/-- The first so many identifiers that are given out are all different. -/
def Supply.Distinct (s : Supply) (bound : Nat) : Prop :=
  ∀ a b, a < bound → b < bound → s.messageIds a = s.messageIds b → a = b

/-- A supply that counts: identifiers are numbers, the store's clock stands still, and calls take
no time. -/
def Supply.counting : Supply where
  messageIds n := ⟨⟨n % 340282366920938463463374607431768211456, Nat.mod_lt _ (by decide)⟩⟩
  attemptIds n := ⟨n % 340282366920938463463374607431768211456, Nat.mod_lt _ (by decide)⟩
  storeTimes _ := .epoch
  durations _ := .zero
  offsets _ _ := 0

/-- Counting gives different identifiers until all have been given out. -/
theorem Supply.distinct_counting {bound : Nat}
    (h : bound ≤ 340282366920938463463374607431768211456) : counting.Distinct bound := by
  intro a b ha hb heq
  have hmod : a % 340282366920938463463374607431768211456
      = b % 340282366920938463463374607431768211456 :=
    congrArg (fun id : MessageId => id.uuid.value) heq
  rwa [Nat.mod_eq_of_lt (Nat.lt_of_lt_of_le ha h), Nat.mod_eq_of_lt (Nat.lt_of_lt_of_le hb h)]
    at hmod

/-- The invariant: `ids` supplies identifiers, of which at most `bound` are given out, and `spoiled`
are the messages of which a status write has failed. -/
structure Owned (ids : Nat → MessageId) (bound : Nat) (spoiled : MessageId → Prop) (k : Ledger)
    (σs : List Stage) : Prop where
  distinct : (k.messages.map (·.id)).Nodup
  unissued : ∀ n, k.created ≤ n → n < bound → k.get? (ids n) = none
  canonical : ∀ entry ∈ k.entries, ∃ id : MessageId, entry = id.text
  sound : ∀ σ ∈ σs, σ.Sound
  recovery : ∀ σ ∈ σs, σ.Recovers k
  fair : ∀ id, ¬ spoiled id → Fair k σs id

/-- In the midst of a list is what it was split at, or what is left without that. -/
theorem mem_split {α : Type} {a b : α} {before after : List α} :
    a ∈ before ++ b :: after ↔ a = b ∨ a ∈ before ++ after := by
  simp only [List.mem_append, List.mem_cons, or_left_comm]

-- ---------------------------------------------------------------------------
-- What a move does to the ledger
-- ---------------------------------------------------------------------------

section Step

attribute [local irreducible] MessageId.text

variable {ids : Nat → MessageId} {k k' : Ledger} {role : Role} {σ σ' : Stage} {c : Call}
  {answer : c.Answer}

/-- Stored identifiers stay distinct. -/
theorem Effect.distinct (h : Effect ids k c answer k') (hdistinct : (k.messages.map (·.id)).Nodup) :
    (k'.messages.map (·.id)).Nodup := by
  cases h with
  | create d now => exact Ledger.nodup_put hdistinct _
  | setStatus | update | requeue => exact Ledger.nodup_put hdistinct _
  | quiet | find | due | pending | keep | record | push | pop | contains => exact hdistinct

theorem Message.id_of_setStatus {m m' : Message} {status : Status} {now : Instant}
    (h : m.setStatus status now = .ok m') : m'.id = m.id := by
  rw [eq_of_setStatus h]

/-- Identifiers are given out in order, and nothing else adds one. -/
theorem Effect.unissued {bound : Nat} (h : Effect ids k c answer k')
    (hids : ∀ a b, a < bound → b < bound → ids a = ids b → a = b) (hbound : k'.created ≤ bound)
    (hunissued : ∀ n, k.created ≤ n → n < bound → k.get? (ids n) = none) :
    ∀ n, k'.created ≤ n → n < bound → k'.get? (ids n) = none := by
  -- what is written over a stored message adds no identifier
  have hput : ∀ m stored : Message, k.get? m.id = some stored →
      ∀ n, k.created ≤ n → n < bound → (k.put m).get? (ids n) = none := by
    intro m stored hstored n hn hlt
    rw [Ledger.get?_put_of_ne]
    · exact hunissued n hn hlt
    · intro heq
      rw [heq, hunissued n hn hlt] at hstored
      cases hstored
  cases h with
  | create d now =>
    intro n hn hlt
    -- the identifier that was just given out is another one
    have hne : ids k.created ≠ ids n := by
      intro heq
      have := hids _ _ hbound hlt heq
      have : k.created + 1 ≤ n := hn
      omega
    exact (Ledger.get?_put_of_ne k hne).trans (hunissued n (Nat.le_of_succ_le hn) hlt)
  | setStatus hget hset =>
    obtain rfl := (Message.id_of_setStatus hset).trans (Ledger.id_of_get? hget)
    exact hput _ _ hget
  | update hget => exact hput _ _ (by rw [Message.progressed, Ledger.id_of_get? hget]; exact hget)
  | requeue now hget =>
    exact hput _ _ (by rw [Message.requeued, Ledger.id_of_get? hget]; exact hget)
  | quiet | find | due | pending | keep | record | push | pop | contains => exact hunissued

/-- Whatever a sound round pushes is the canonical text of an identifier: a worker puts back what it
has taken. -/
theorem Stage.Next.canonical {entry : String} {answer : Except PipelineError Unit}
    (h : Next role σ (.push entry) answer σ') (hsound : σ.Sound) :
    ∃ id : MessageId, entry = id.text := by
  cases h with
  | pushBack => exact ⟨_, hsound.entry _ _ rfl rfl⟩
  | sweepPush | sweepPushFailed | recoverPush | queue | refuse => exact ⟨_, rfl⟩

/-- So all entries stay canonical. -/
theorem Effect.canonical (h : Effect ids k c answer k') (hnext : Stage.Next role σ c answer σ')
    (hsound : σ.Sound) (hcanonical : ∀ entry ∈ k.entries, ∃ id : MessageId, entry = id.text) :
    ∀ entry ∈ k'.entries, ∃ id : MessageId, entry = id.text := by
  cases h with
  | push entry =>
    intro e he
    rcases List.mem_append.mp he with he | he
    · exact hcanonical e he
    · obtain rfl := List.mem_singleton.mp he
      exact hnext.canonical hsound
  | pop hentries => exact fun e he => hcanonical e (hentries ▸ List.mem_cons_of_mem _ he)
  | create | setStatus | update | requeue | quiet | find | due | pending | keep | record
  | contains => exact hcanonical

-- ---------------------------------------------------------------------------
-- What a move does to the round
-- ---------------------------------------------------------------------------

/-- Who has nothing in hand and nothing to sweep is sound. -/
theorem Stage.Sound.of_none (hentry : σ.entry? = none) (hbatch : σ.batch = [])
    (hpushed : σ.pushed? = none) : σ.Sound where
  entry _ _ h := by cases hentry.symm.trans h
  batch := by simp [hbatch]
  pushed _ _ h := by cases hpushed.symm.trans h

/-- A stage of a worker is sound if its entry names its message. -/
theorem Stage.Sound.of_entry {id : MessageId} (hentry : σ.entry? = some id.text)
    (hhand : σ.hand = some id) (hbatch : σ.batch = []) (hpushed : σ.pushed? = none) :
    σ.Sound where
  entry e id' he hid := by
    obtain rfl := Option.some.inj (hentry.symm.trans he)
    obtain rfl := Option.some.inj (hhand.symm.trans hid)
    rfl
  batch := by simp [hbatch]
  pushed _ _ h := by cases hpushed.symm.trans h

/-- A worker with a canonical entry is sound after a failure. -/
theorem Stage.sound_afterFailure {e : StoreError} {entry : String} {id : MessageId}
    (h : entry = id.text) : (Stage.afterFailure e entry id).Sound := by
  subst h
  rw [Stage.afterFailure]
  split
  · exact .of_entry rfl rfl rfl rfl
  · exact .of_none rfl rfl rfl

/-- Every move leads from a sound stage to a sound one. -/
theorem Stage.Next.sound (hnext : Next role σ c answer σ') (heffect : Effect ids k c answer k')
    (hdistinct : (k.messages.map (·.id)).Nodup)
    (hcanonical : ∀ entry ∈ k.entries, ∃ id : MessageId, entry = id.text) (hsound : σ.Sound) :
    σ'.Sound := by
  cases hnext with
  | note | secret | signingTime | draw => exact hsound
  | pop hid =>
    cases heffect with
    | quiet hquiet => exact absurd rfl (hquiet _)
    | pop hentries =>
      -- the entry is canonical, so that it is the text of what it names
      obtain ⟨id', rfl⟩ := hcanonical _ (hentries ▸ List.mem_cons_self)
      rw [MessageId.ofText?_text] at hid
      obtain rfl := Option.some.inj hid
      exact .of_entry rfl rfl rfl rfl
  | load =>
    cases heffect with
    | quiet hquiet => obtain ⟨_, ⟨⟩⟩ := hquiet
    | find hget =>
      obtain rfl := Ledger.id_of_get? hget
      obtain rfl := hsound.entry _ _ rfl rfl
      exact .of_entry rfl rfl rfl rfl
  | send | time | record =>
    obtain rfl := hsound.entry _ _ rfl rfl
    exact .of_entry rfl rfl rfl rfl
  | loadFailed | writeFailed | rejectFailed =>
    exact Stage.sound_afterFailure (hsound.entry _ _ rfl rfl)
  | due limit now batch =>
    cases heffect with
    | quiet hquiet => obtain ⟨_, ⟨⟩⟩ := hquiet
    | due =>
      refine ⟨by rintro _ _ ⟨⟩, ?_, by rintro _ _ ⟨⟩⟩
      -- one query gives out no message twice
      exact (Ledger.nodup_dueRetries hdistinct limit now).sublist (List.filter_sublist.map _)
  | sweepPush hdue =>
    have hnodup := List.nodup_cons.mp hsound.batch
    refine ⟨by rintro _ _ ⟨⟩, hnodup.2, fun id due h => ?_⟩
    obtain ⟨rfl, -⟩ := Prod.mk.inj (Option.some.inj h)
    exact hnodup.1
  | sweepPushFailed =>
    exact ⟨by rintro _ _ ⟨⟩, (List.nodup_cons.mp hsound.batch).2, by rintro _ _ ⟨⟩⟩
  | requeue => exact ⟨by rintro _ _ ⟨⟩, hsound.batch, by rintro _ _ ⟨⟩⟩
  | popUnreadable | popNothing | popFailed | pause | skipEnded | skipMissing | write | reject
  | pushBack | sweepTime | dueFailed | pending | pendingFailed | present | missing
  | containsFailed | recoverPush | create | createFailed | queue | refuse | deferTime | defer =>
    exact .of_none rfl rfl rfl

/-- A recovery that is alone goes on to push what is pending and not in the queue. -/
theorem Stage.Next.recovery (hnext : Next role σ c answer σ') (heffect : Effect ids k c answer k')
    (hdistinct : (k.messages.map (·.id)).Nodup) (hrecovers : σ.Recovers k) : σ'.Recovers k' := by
  cases hnext with
  | note =>
    cases heffect with
    | quiet => exact hrecovers
  | pending limit batch =>
    cases heffect with
    | quiet hquiet => obtain ⟨_, ⟨⟩⟩ := hquiet
    | pending =>
      intro m hm
      -- what the query gives out is pending
      obtain ⟨hstored, hpending⟩ := Ledger.mem_pending hm
      exact ⟨Ledger.get?_of_mem hdistinct hstored, hpending⟩
  | present =>
    cases heffect with
    | quiet hquiet => exact hquiet.elim
    | contains => exact fun m hm => hrecovers m (List.mem_cons_of_mem _ hm)
  | missing =>
    cases heffect with
    | quiet hquiet => exact hquiet.elim
    | contains habsent => exact ⟨hrecovers, by simpa using habsent⟩
  | recoverPush answer =>
    cases heffect with
    | quiet => exact fun m hm => hrecovers.1 m (List.mem_cons_of_mem _ hm)
    | push => exact fun m hm => hrecovers.1 m (List.mem_cons_of_mem _ hm)
  | loadFailed | writeFailed | rejectFailed =>
    rw [Stage.afterFailure]
    split <;> trivial
  | pop | popUnreadable | popNothing | popFailed | pause | load | skipEnded | skipMissing | secret
  | signingTime | send | time | record | draw | write | reject | pushBack | sweepTime | due
  | dueFailed | sweepPush | sweepPushFailed | requeue | pendingFailed | containsFailed | create
  | createFailed | queue | refuse | deferTime | defer => trivial

-- ---------------------------------------------------------------------------
-- What a move does to a message
-- ---------------------------------------------------------------------------

variable {before after : List Stage} {id : MessageId}

/-- A move that leaves a message alone, and adds no handle on it, is fair to it. -/
theorem Fair.frame (h : Fair k (before ++ σ :: after) id) (hget : k'.get? id = k.get? id)
    (hhandles : k'.entries.countP (names id) + σ'.holds id
      ≤ k.entries.countP (names id) + σ.holds id)
    (hpushed : ∀ due, σ.pushed? = some (id, due) → σ'.pushed? = some (id, due))
    (hbatch : ∀ m ∈ σ'.batch, m.id = id → m ∈ σ.batch) :
    Fair k' (before ++ σ' :: after) id := by
  have hle : handles k' (before ++ σ' :: after) id ≤ handles k (before ++ σ :: after) id := by
    rw [handles_split, handles_split, handles, handles]
    omega
  refine ⟨Nat.le_trans hle h.single, fun hpos => ?_, fun τ hτ m hm hid => ?_⟩
  · obtain ⟨m, hm, hstatus⟩ := h.live (Nat.lt_of_lt_of_le hpos hle)
    refine ⟨m, hget.trans hm, hstatus.imp_right ?_⟩
    rintro ⟨hretry, τ, hτ, due, hτdue, hdue⟩
    refine ⟨hretry, ?_⟩
    -- the round that has moved may be the one that is to mark the message
    rcases mem_split.mp hτ with rfl | hτ
    · exact ⟨σ', mem_split.mpr (.inl rfl), due, hpushed due hτdue, hdue⟩
    · exact ⟨τ, mem_split.mpr (.inr hτ), due, hτdue, hdue⟩
  · have hwaiting : k.get? id = some m ∧ m.status = .retry
        ∧ handles k (before ++ σ :: after) id = 0 := by
      rcases mem_split.mp hτ with rfl | hτ
      · exact h.waiting σ (mem_split.mpr (.inl rfl)) m (hbatch m hm hid) hid
      · exact h.waiting τ (mem_split.mpr (.inr hτ)) m hm hid
    exact ⟨hget.trans hwaiting.1, hwaiting.2.1, Nat.le_zero.mp (hwaiting.2.2 ▸ hle)⟩

/-- A round that comes to hold nothing and to sweep nothing is fair to a message that stays. -/
theorem Fair.let_go (h : Fair k (before ++ σ :: after) id) (hget : k'.get? id = k.get? id)
    (hentries : k'.entries = k.entries) (hhand : σ'.hand = none ∨ σ'.hand = σ.hand)
    (hbatch : σ'.batch = []) (hpushed : σ.pushed? = none) :
    Fair k' (before ++ σ' :: after) id := by
  refine h.frame hget ?_ ?_ ?_
  · have hholds : σ'.holds id ≤ σ.holds id := by
      rcases hhand with hhand | hhand <;> simp [Stage.holds, hhand]
    rw [hentries]
    omega
  · intro due hdue
    cases hpushed.symm.trans hdue
  · simp [hbatch]

/-- Who writes a message has it in hand and lets go of it: no handle is left. -/
theorem Fair.written {m : Message} (h : Fair k (before ++ σ :: after) id)
    (hhand : σ.hand = some m.id) (hlets : σ'.hand = none) (hbatch : σ'.batch = [])
    (hpushed : σ.pushed? = none) : Fair (k.put m) (before ++ σ' :: after) id := by
  by_cases hid : m.id = id
  · -- the writer held the only handle, and lets go of it
    subst hid
    have hholds : σ.holds m.id = 1 := by rw [Stage.holds, if_pos hhand]
    have hholds' : σ'.holds m.id = 0 := by simp [Stage.holds, hlets]
    have hsingle := h.single
    have hnone : handles (k.put m) (before ++ σ' :: after) m.id = 0 := by
      rw [handles_split] at hsingle ⊢
      have hsame : handles (k.put m) (before ++ after) m.id = handles k (before ++ after) m.id := rfl
      omega
    refine ⟨by omega, by omega, fun τ hτ n hn hnid => ?_⟩
    rcases mem_split.mp hτ with rfl | hτ
    · rw [hbatch] at hn
      exact absurd hn List.not_mem_nil
    · have hzero := (h.waiting τ (mem_split.mpr (.inr hτ)) n hn hnid).2.2
      rw [handles_split] at hzero
      omega
  · exact h.let_go (Ledger.get?_put_of_ne k hid) rfl (.inl hlets) hbatch hpushed

/-- Who lets go of a message may push its entry. -/
theorem Fair.put_back {id' : MessageId} (h : Fair k (before ++ σ :: after) id)
    (hhand : σ.hand = some id') (hlets : σ'.hand = none) (hbatch : σ'.batch = [])
    (hpushed : σ.pushed? = none) :
    Fair { k with entries := k.entries ++ [id'.text] } (before ++ σ' :: after) id := by
  refine h.frame rfl ?_ ?_ ?_
  · simp [Stage.holds, hhand, hlets, List.countP_append, List.countP_singleton]
  · intro due hdue
    cases hpushed.symm.trans hdue
  · simp [hbatch]

/-- Who takes an entry that names a message has it in hand. -/
theorem Fair.taken {entry : String} {rest : List String} (h : Fair k (before ++ .idle :: after) id)
    (hentries : k.entries = entry :: rest)
    (hhand : MessageId.ofText? entry = some id → σ'.hand = some id)
    (hother : MessageId.ofText? entry ≠ some id → σ'.hand ≠ some id) (hbatch : σ'.batch = []) :
    Fair { k with entries := rest } (before ++ σ' :: after) id := by
  refine h.frame rfl ?_ (by rintro _ ⟨⟩) (by simp [hbatch])
  rw [hentries, List.countP_cons]
  by_cases hid : MessageId.ofText? entry = some id
  · simp [Stage.holds, hhand hid, names, hid]
  · have hholds : σ'.holds id = 0 := if_neg (hother hid)
    simp [hholds, names, hid]

/-- A message that was just created is in the hand of its submission, and nowhere else. -/
theorem Fair.created {m : Message} (h : Fair k (before ++ .idle :: after) id)
    (hnew : k.get? m.id = none) (hpending : m.status = .pending)
    (hget : ∀ id, k'.get? id = (k.put m).get? id) (hentries : k'.entries = k.entries) :
    Fair k' (before ++ .accepted m :: after) id := by
  by_cases hid : m.id = id
  · subst hid
    -- nobody can have a handle on what is not stored
    have hnone : handles k (before ++ .idle :: after) m.id = 0 := by
      refine Nat.eq_zero_of_not_pos fun hpos => ?_
      obtain ⟨n, hn, -⟩ := h.live hpos
      rw [hnew] at hn
      cases hn
    have hone : handles k' (before ++ .accepted m :: after) m.id = 1 := by
      rw [handles_split, handles, hentries]
      rw [handles_split, handles] at hnone
      have hholds : (Stage.accepted m).holds m.id = 1 := if_pos rfl
      omega
    refine ⟨by omega, fun _ => ⟨m, (hget _).trans (Ledger.get?_put_self k m), .inl hpending⟩,
      fun τ hτ n hn hnid => ?_⟩
    rcases mem_split.mp hτ with rfl | hτ
    · exact absurd hn List.not_mem_nil
    · have hold := (h.waiting τ (mem_split.mpr (.inr hτ)) n hn hnid).1
      rw [hnew] at hold
      cases hold
  · refine h.frame ((hget _).trans (Ledger.get?_put_of_ne k hid)) ?_ ?_ ?_
    · rw [hentries]
      have hholds : (Stage.accepted m).holds id = 0 := if_neg fun heq => hid (Option.some.inj heq)
      omega
    · exact (by rintro _ ⟨⟩)
    · exact fun _ hn => absurd hn List.not_mem_nil

section Sweep

variable {m : Message} {due : Instant} {batch : List Message}

/-- If a sweep is the only one, nothing else is to be swept. -/
theorem not_sweeping (hlone : ∀ τ ∈ before ++ after, τ.sweeps = false) {τ : Stage}
    (hτ : τ ∈ before ++ after) {n : Message} (hn : n ∈ τ.batch) : False := by
  have htrue := Stage.sweeps_of_batch hn
  rw [hlone τ hτ] at htrue
  cases htrue

/-- What a query finds due has no handle: there is no sweep to have pushed it. -/
theorem Fair.found (h : Fair k (before ++ .idle :: after) id)
    (hlone : ∀ τ ∈ before ++ after, τ.sweeps = false)
    (hbatch : ∀ m ∈ batch, k.get? m.id = some m ∧ m.status = .retry) :
    Fair k (before ++ .sweeping batch :: after) id := by
  have hsame : handles k (before ++ .sweeping batch :: after) id
      = handles k (before ++ .idle :: after) id := by
    rw [handles_split, handles_split]
    rfl
  -- no other round sweeps, so that nothing is pushed and unmarked
  have hno : ∀ τ ∈ before ++ Stage.idle :: after, τ.pushed? = none := by
    intro τ hτ
    rcases mem_split.mp hτ with rfl | hτ
    · rfl
    · cases hpushed : τ.pushed? with
      | none => rfl
      | some p =>
        have htrue := Stage.sweeps_of_pushed hpushed
        rw [hlone τ hτ] at htrue
        cases htrue
  have hlive : 0 < handles k (before ++ .idle :: after) id →
      ∃ m, k.get? id = some m ∧ m.status = .pending := by
    intro hpos
    obtain ⟨m, hm, hstatus⟩ := h.live hpos
    rcases hstatus with hpending | ⟨-, τ, hτ, due, hτdue, -⟩
    · exact ⟨m, hm, hpending⟩
    · cases (hno τ hτ).symm.trans hτdue
  refine ⟨hsame ▸ h.single, fun hpos => ?_, fun τ hτ m hm hid => ?_⟩
  · obtain ⟨m, hm, hpending⟩ := hlive (hsame ▸ hpos)
    exact ⟨m, hm, .inl hpending⟩
  · rcases mem_split.mp hτ with rfl | hτ
    · subst hid
      obtain ⟨hstored, hretry⟩ := hbatch m hm
      refine ⟨hstored, hretry, ?_⟩
      rw [hsame]
      refine Nat.eq_zero_of_not_pos fun hpos => ?_
      obtain ⟨n, hn, hpending⟩ := hlive hpos
      obtain rfl := Option.some.inj (hstored.symm.trans hn)
      cases hretry.symm.trans hpending
    · exact (not_sweeping hlone hτ hm).elim

/-- What a sweep pushes gets its one handle, and keeps the due time until the sweep compares. -/
theorem Fair.swept (h : Fair k (before ++ .sweeping (m :: batch) :: after) id)
    (hlone : ∀ τ ∈ before ++ after, τ.sweeps = false) (hdue : m.nextRetryAt = some due)
    (hapart : m.id ∉ batch.map (·.id)) :
    Fair { k with entries := k.entries ++ [m.id.text] } (before ++ .pushed m due batch :: after)
      id := by
  by_cases hid : m.id = id
  · subst hid
    obtain ⟨hstored, hretry, hnone⟩ :=
      h.waiting _ (mem_split.mpr (.inl rfl)) m List.mem_cons_self rfl
    -- it had none, and gets one with the entry
    have hone : handles { k with entries := k.entries ++ [m.id.text] }
        (before ++ .pushed m due batch :: after) m.id = 1 := by
      rw [handles_split, handles] at hnone ⊢
      simp only [List.countP_append, List.countP_singleton, names_text, decide_true, if_true]
        at hnone ⊢
      have hholds : (Stage.pushed m due batch).holds m.id = 0 := rfl
      omega
    refine ⟨by omega, fun _ => ⟨m, hstored, .inr ⟨hretry, _, mem_split.mpr (.inl rfl), due, rfl,
      hdue⟩⟩, fun τ hτ n hn hnid => ?_⟩
    rcases mem_split.mp hτ with rfl | hτ
    · exact absurd (hnid ▸ List.mem_map_of_mem hn) hapart
    · exact (not_sweeping hlone hτ hn).elim
  · refine h.frame rfl ?_ ?_ ?_
    · simp only [List.countP_append, List.countP_singleton, names_text, hid, decide_false]
      exact Nat.le_refl _
    · exact (by rintro _ ⟨⟩)
    · exact fun n hn _ => List.mem_cons_of_mem _ hn

/-- A message that the sweep has marked is pending. -/
theorem Fair.requeued {stored : Message} {now : Instant}
    (h : Fair k (before ++ .pushed m due batch :: after) id)
    (hlone : ∀ τ ∈ before ++ after, τ.sweeps = false) (hapart : m.id ∉ batch.map (·.id))
    (hid : stored.id = m.id) :
    Fair (k.put (stored.requeued now)) (before ++ .sweeping batch :: after) id := by
  by_cases hm : m.id = id
  · subst hm
    have hget : (k.put (stored.requeued now)).get? m.id = some (stored.requeued now) := by
      rw [← hid]
      exact Ledger.get?_put_self k (stored.requeued now)
    -- marking changes no handle
    have hsame : handles (k.put (stored.requeued now)) (before ++ .sweeping batch :: after) m.id
        = handles k (before ++ .pushed m due batch :: after) m.id := by
      rw [handles_split, handles_split]
      rfl
    refine ⟨hsame ▸ h.single, fun _ => ⟨_, hget, .inl rfl⟩, fun τ hτ n hn hnid => ?_⟩
    rcases mem_split.mp hτ with rfl | hτ
    · exact absurd (hnid ▸ List.mem_map_of_mem hn) hapart
    · exact (not_sweeping hlone hτ hn).elim
  · refine h.frame ?_ (Nat.le_refl _) ?_ ?_
    · exact Ledger.get?_put_of_ne k fun heq => hm (hid.symm.trans heq)
    · intro due' hdue
      exact absurd (Prod.mk.inj (Option.some.inj hdue)).1 hm
    · exact fun n hn _ => hn

/-- A message that the sweep has found changed has no handle, or is pending. -/
theorem Fair.kept (h : Fair k (before ++ .pushed m due batch :: after) id)
    (hlone : ∀ τ ∈ before ++ after, τ.sweeps = false) (hapart : m.id ∉ batch.map (·.id))
    (hkeep : ∀ n, k.get? m.id = some n → n.status = .retry → n.nextRetryAt ≠ some due) :
    Fair k (before ++ .sweeping batch :: after) id := by
  by_cases hm : m.id = id
  · subst hm
    have hsame : handles k (before ++ .sweeping batch :: after) m.id
        = handles k (before ++ .pushed m due batch :: after) m.id := by
      rw [handles_split, handles_split]
      rfl
    refine ⟨hsame ▸ h.single, fun hpos => ?_, fun τ hτ n hn hnid => ?_⟩
    · obtain ⟨n, hn, hstatus⟩ := h.live (hsame ▸ hpos)
      refine ⟨n, hn, .inl ?_⟩
      -- a message that still waited would have been marked
      rcases hstatus with hpending | ⟨hretry, τ, hτ, due', hτdue, hdue⟩
      · exact hpending
      · rcases mem_split.mp hτ with rfl | hτ
        · obtain ⟨-, rfl⟩ := Prod.mk.inj (Option.some.inj hτdue)
          exact absurd hdue (hkeep n hn hretry)
        · have htrue := Stage.sweeps_of_pushed hτdue
          rw [hlone τ hτ] at htrue
          cases htrue
    · rcases mem_split.mp hτ with rfl | hτ
      · exact absurd (hnid ▸ List.mem_map_of_mem hn) hapart
      · exact (not_sweeping hlone hτ hn).elim
  · refine h.frame rfl (Nat.le_refl _) ?_ ?_
    · intro due' hdue
      exact absurd (Prod.mk.inj (Option.some.inj hdue)).1 hm
    · exact fun n hn _ => hn

end Sweep

/-- What a recovery pushes has no handle yet, if the recovery is alone. -/
theorem Fair.recovered {m : Message} {batch : List Message} (h : Fair k [.absent m batch] id)
    (hstored : k.get? m.id = some m) (hpending : m.status = .pending)
    (habsent : k.entries.countP (names m.id) = 0) :
    Fair { k with entries := k.entries ++ [m.id.text] } [.recovering batch] id := by
  have hhandles : ∀ id, handles { k with entries := k.entries ++ [m.id.text] }
      [.recovering batch] id = k.entries.countP (names id) + if m.id = id then 1 else 0 := by
    intro id
    simp [handles, Stage.hand, List.countP_append, List.countP_singleton]
  have hbatch : ∀ τ ∈ [Stage.recovering batch], ∀ n ∈ τ.batch, False := by
    intro τ hτ n hn
    obtain rfl := List.mem_singleton.mp hτ
    exact List.not_mem_nil hn
  by_cases hid : m.id = id
  · subst hid
    refine ⟨?_, fun _ => ⟨m, hstored, .inl hpending⟩, fun τ hτ n hn => (hbatch τ hτ n hn).elim⟩
    simp [hhandles, habsent]
  · have hsame : handles { k with entries := k.entries ++ [m.id.text] } [.recovering batch] id
        = handles k [.absent m batch] id := by
      rw [hhandles, if_neg hid]
      rfl
    refine ⟨hsame ▸ h.single, fun hpos => ?_, fun τ hτ n hn => (hbatch τ hτ n hn).elim⟩
    obtain ⟨n, hn, hstatus⟩ := h.live (hsame ▸ hpos)
    refine ⟨n, hn, .inl (hstatus.resolve_right ?_)⟩
    rintro ⟨-, τ, hτ, due, hdue, -⟩
    obtain rfl := List.mem_singleton.mp hτ
    cases hdue

-- ---------------------------------------------------------------------------
-- Every move
-- ---------------------------------------------------------------------------

/-- Whether the answer tells that the status write of a sweep has failed. -/
def Call.Spoils : (c : Call) → c.Answer → MessageId → Prop
  | .requeueMessage id _, .error _, id' => id = id'
  | _, _, _ => False

/-- A move is fair to every message of which it does not fail to write the status. -/
theorem Fair.step (hnext : Stage.Next role σ c answer σ') (heffect : Effect ids k c answer k')
    (hdistinct : (k.messages.map (·.id)).Nodup)
    (hnew : k.created < k'.created → k.get? (ids k.created) = none)
    (hsound : σ.Sound) (hrecovers : σ.Recovers k)
    (hcanonical : ∀ entry ∈ k.entries, ∃ id : MessageId, entry = id.text)
    (hlone : ∀ s, role = .sweeper s → ∀ τ ∈ before ++ after, τ.sweeps = false)
    (halone : ∀ s, role = .recovery s → before = [] ∧ after = [])
    (hspoils : ¬ c.Spoils answer id) (h : Fair k (before ++ σ :: after) id) :
    Fair k' (before ++ σ' :: after) id := by
  cases hnext with
  | note | secret | signingTime | draw | sweepTime | dueFailed =>
    cases heffect with
    | quiet => exact h
  | send | time | deferTime | refuse =>
    cases heffect with
    | quiet => exact h.let_go rfl rfl (.inr rfl) rfl rfl
  | popNothing | popFailed | pause | skipMissing | pendingFailed | createFailed =>
    cases heffect with
    | quiet => exact h.let_go rfl rfl (.inl rfl) rfl rfl
  | loadFailed | writeFailed | rejectFailed =>
    cases heffect with
    | quiet =>
      rw [Stage.afterFailure]
      split
      · exact h.let_go rfl rfl (.inr rfl) rfl rfl
      · exact h.let_go rfl rfl (.inl rfl) rfl rfl
  -- an attempt on record is no message, and no handle
  | record =>
    cases heffect with
    | quiet => exact h.let_go rfl rfl (.inr rfl) rfl rfl
    | record => exact h.let_go rfl rfl (.inr rfl) rfl rfl
  -- the handle goes from the queue into the hand
  | pop hid =>
    cases heffect with
    | quiet hquiet => exact absurd rfl (hquiet _)
    | pop hentries =>
      refine h.taken hentries (fun heq => hid.symm.trans heq) (fun hne heq => ?_) rfl
      exact hne (hid.trans heq)
  | popUnreadable hid =>
    cases heffect with
    | quiet hquiet => exact absurd rfl (hquiet _)
    | pop hentries =>
      exact h.taken hentries (fun heq => by cases hid.symm.trans heq) (by rintro _ ⟨⟩) rfl
  | load =>
    cases heffect with
    | quiet hquiet => obtain ⟨_, ⟨⟩⟩ := hquiet
    | find hget =>
      obtain rfl := Ledger.id_of_get? hget
      exact h.let_go rfl rfl (.inr rfl) rfl rfl
  | skipEnded =>
    cases heffect with
    | quiet hquiet => obtain ⟨_, ⟨⟩⟩ := hquiet
    | find => exact h.let_go rfl rfl (.inl rfl) rfl rfl
  | write hsettles =>
    cases heffect with
    | quiet hquiet => obtain ⟨_, ⟨⟩⟩ := hquiet
    | update hget =>
      refine h.written ?_ rfl rfl rfl
      show some _ = some _
      rw [Message.progressed, Ledger.id_of_get? hget, hsettles.id_eq]
  | reject =>
    cases heffect with
    | quiet hquiet => obtain ⟨_, ⟨⟩⟩ := hquiet
    | setStatus hget hset =>
      refine h.written ?_ rfl rfl rfl
      rw [Message.id_of_setStatus hset, Ledger.id_of_get? hget]
      rfl
  -- and back into the queue
  | pushBack =>
    obtain rfl := hsound.entry _ _ rfl rfl
    cases heffect with
    | quiet => exact h.let_go rfl rfl (.inl rfl) rfl rfl
    | push => exact h.put_back rfl rfl rfl rfl
  | due =>
    cases heffect with
    | quiet hquiet => obtain ⟨_, ⟨⟩⟩ := hquiet
    | due =>
      refine h.found (hlone _ rfl) fun m hm => ?_
      obtain ⟨hstored, hdue⟩ := Ledger.mem_dueRetries (List.mem_filter.mp hm).1
      refine ⟨Ledger.get?_of_mem hdistinct hstored, ?_⟩
      rw [Message.isRetryDue, Bool.and_eq_true] at hdue
      simpa using hdue.1
  | sweepPush hdue =>
    cases heffect with
    | quiet hquiet => obtain ⟨_, ⟨⟩⟩ := hquiet
    | push => exact h.swept (hlone _ rfl) hdue (List.nodup_cons.mp hsound.batch).1
  | sweepPushFailed =>
    cases heffect with
    | quiet =>
      exact h.frame rfl (Nat.le_refl _) (by rintro _ ⟨⟩)
        fun m hm _ => List.mem_cons_of_mem _ hm
  | requeue =>
    cases heffect with
    | quiet hquiet =>
      -- the status write has failed: the one case that is excluded
      obtain ⟨e, rfl⟩ := hquiet
      refine h.frame rfl (Nat.le_refl _) (fun due hdue => ?_) fun m hm _ => hm
      exact absurd (Prod.mk.inj (Option.some.inj hdue)).1 hspoils
    | requeue now hget =>
      exact h.requeued (hlone _ rfl) (hsound.pushed _ _ rfl) (Ledger.id_of_get? hget)
    | keep hkeep => exact h.kept (hlone _ rfl) (hsound.pushed _ _ rfl) hkeep
  | pending =>
    cases heffect with
    | quiet hquiet => obtain ⟨_, ⟨⟩⟩ := hquiet
    | pending => exact h.let_go rfl rfl (.inl rfl) rfl rfl
  | present | missing =>
    cases heffect with
    | quiet hquiet => exact hquiet.elim
    | contains => exact h.let_go rfl rfl (.inl rfl) rfl rfl
  | containsFailed =>
    cases heffect with
    | quiet hquiet => exact hquiet.elim
  -- a recovery is alone, so that what it did not find in the queue is in no hand
  | recoverPush =>
    cases heffect with
    | quiet => exact h.let_go rfl rfl (.inl rfl) rfl rfl
    | push =>
      obtain ⟨rfl, rfl⟩ := halone _ rfl
      obtain ⟨hpending, habsent⟩ := hrecovers
      obtain ⟨hstored, hpending⟩ := hpending _ List.mem_cons_self
      refine h.recovered hstored hpending (List.countP_eq_zero.mpr fun entry hentry hnames => ?_)
      obtain ⟨id', rfl⟩ := hcanonical entry hentry
      rw [names_text, decide_eq_true_eq] at hnames
      exact habsent (hnames ▸ hentry)
  | create =>
    cases heffect with
    | quiet hquiet => obtain ⟨_, ⟨⟩⟩ := hquiet
    | create d now => exact h.created (hnew (Nat.lt_succ_self _)) rfl (fun _ => rfl) rfl
  | queue =>
    cases heffect with
    | quiet hquiet => obtain ⟨_, ⟨⟩⟩ := hquiet
    | push => exact h.put_back rfl rfl rfl rfl
  | defer =>
    cases heffect with
    | quiet => exact h.let_go rfl rfl (.inl rfl) rfl rfl
    | update hget =>
      refine h.written ?_ rfl rfl rfl
      rw [Message.progressed, Ledger.id_of_get? hget]
      rfl

/-- Every move preserves the invariant, where a failed status write spoils its message. -/
theorem Owned.step {bound : Nat} {spoiled spoiled' : MessageId → Prop}
    (hids : ∀ a b, a < bound → b < bound → ids a = ids b → a = b) (hbound : k'.created ≤ bound)
    (hnext : Stage.Next role σ c answer σ') (heffect : Effect ids k c answer k')
    (hlone : ∀ s, role = .sweeper s → ∀ τ ∈ before ++ after, τ.sweeps = false)
    (halone : ∀ s, role = .recovery s → before = [] ∧ after = [])
    (hquiet : ∀ τ ∈ before ++ after, τ.recovers = false)
    (hspoiled : ∀ id, spoiled id ∨ c.Spoils answer id → spoiled' id)
    (h : Owned ids bound spoiled k (before ++ σ :: after)) :
    Owned ids bound spoiled' k' (before ++ σ' :: after) := by
  have hsound : σ.Sound := h.sound σ (mem_split.mpr (.inl rfl))
  have hrecovers : σ.Recovers k := h.recovery σ (mem_split.mpr (.inl rfl))
  refine ⟨heffect.distinct h.distinct, heffect.unissued hids hbound h.unissued,
    heffect.canonical hnext hsound h.canonical, fun τ hτ => ?_, fun τ hτ => ?_, fun id hid => ?_⟩
  · -- the round that moves is sound, and so are all others
    rcases mem_split.mp hτ with rfl | hτ
    · exact hnext.sound heffect h.distinct h.canonical hsound
    · exact h.sound τ (mem_split.mpr (.inr hτ))
  · rcases mem_split.mp hτ with rfl | hτ
    · exact hnext.recovery heffect h.distinct hrecovers
    · have hfalse := hquiet τ hτ
      cases τ <;> trivial
  · refine Fair.step hnext heffect h.distinct (fun hlt => ?_) hsound hrecovers h.canonical hlone
      halone (fun hspoils => hid (hspoiled id (.inr hspoils)))
      (h.fair id fun hs => hid (hspoiled id (.inl hs)))
    exact h.unissued _ (Nat.le_refl _) (Nat.lt_of_lt_of_le hlt hbound)

/-- The step for a pipeline in which one round comes after another. -/
theorem Owned.step_alone {bound : Nat} {spoiled spoiled' : MessageId → Prop}
    (hids : ∀ a b, a < bound → b < bound → ids a = ids b → a = b) (hbound : k'.created ≤ bound)
    (hnext : Stage.Next role σ c answer σ') (heffect : Effect ids k c answer k')
    (hspoiled : ∀ id, spoiled id ∨ c.Spoils answer id → spoiled' id)
    (h : Owned ids bound spoiled k [σ]) : Owned ids bound spoiled' k' [σ'] :=
  @Owned.step ids k k' role σ σ' c answer [] [] bound spoiled spoiled' hids hbound hnext heffect
    (fun _ _ _ hτ => absurd hτ List.not_mem_nil) (fun _ _ => ⟨rfl, rfl⟩)
    (fun _ hτ => absurd hτ List.not_mem_nil) hspoiled h

-- ---------------------------------------------------------------------------
-- Beginnings and ends
-- ---------------------------------------------------------------------------

variable {bound : Nat} {spoiled : MessageId → Prop}

/-- No sweep is cut short between push and mark, as neither of the two calls goes unanswered. -/
theorem Stage.Next.pushed_of_unanswered {w w' : World} (hnext : Next role σ c answer σ')
    (h : w.perform c = (none, w')) : σ.pushed? = none := by
  rcases World.cases_of_unanswered h with rfl | ⟨d, rfl⟩
  · cases hnext <;> rfl
  · cases hnext
    rfl

theorem Stage.AtRest.pushed (h : σ.AtRest) : σ.pushed? = none := by
  rcases h with rfl | rfl | rfl <;> rfl

theorem Stage.AtRest.hand (h : σ.AtRest) : σ.hand = none := by
  rcases h with rfl | rfl | rfl <;> rfl

/-- Who is stuck is a worker, and has nothing to mark either. -/
theorem Stage.Stuck.pushed (h : σ.Stuck role) : σ.pushed? = none := by
  obtain ⟨w, entry, m, report, now, draw, fault, -, rfl, -⟩ := h
  rfl

/-- A round may end, or break off, wherever no status write is due. -/
theorem Owned.drop (h : Owned ids bound spoiled k (before ++ σ :: after))
    (hpushed : σ.pushed? = none) : Owned ids bound spoiled k (before ++ .idle :: after) := by
  refine ⟨h.distinct, h.unissued, h.canonical, fun τ hτ => ?_, fun τ hτ => ?_, fun id hid => ?_⟩
  · rcases mem_split.mp hτ with rfl | hτ
    · exact .of_none rfl rfl rfl
    · exact h.sound τ (mem_split.mpr (.inr hτ))
  · rcases mem_split.mp hτ with rfl | hτ
    · trivial
    · exact h.recovery τ (mem_split.mpr (.inr hτ))
  · exact (h.fair id hid).let_go rfl rfl (.inl rfl) rfl hpushed

theorem Owned.drop_alone (h : Owned ids bound spoiled k [σ]) (hpushed : σ.pushed? = none) :
    Owned ids bound spoiled k [.idle] :=
  @Owned.drop ids k σ [] [] bound spoiled h hpushed

/-- A newcomer has no handle on anything. -/
theorem Owned.join {σs : List Stage} (h : Owned ids bound spoiled k σs) :
    Owned ids bound spoiled k (σs ++ [.idle]) := by
  -- an idle round holds nothing
  have hsame : ∀ id, handles k (σs ++ [.idle]) id = handles k σs id := by
    intro id
    rw [handles_split, List.append_nil]
    rfl
  have hmem : ∀ {τ : Stage}, τ ∈ σs ++ [.idle] → τ = .idle ∨ τ ∈ σs := by
    intro τ hτ
    rw [mem_split, List.append_nil] at hτ
    exact hτ
  refine ⟨h.distinct, h.unissued, h.canonical, fun τ hτ => ?_, fun τ hτ => ?_, fun id hid => ?_⟩
  · rcases hmem hτ with rfl | hτ
    · exact .of_none rfl rfl rfl
    · exact h.sound τ hτ
  · rcases hmem hτ with rfl | hτ
    · trivial
    · exact h.recovery τ hτ
  · have hfair := h.fair id hid
    refine ⟨hsame id ▸ hfair.single, fun hpos => ?_, fun τ hτ m hm hmid => ?_⟩
    · obtain ⟨m, hm, hstatus⟩ := hfair.live (hsame id ▸ hpos)
      refine ⟨m, hm, hstatus.imp_right ?_⟩
      rintro ⟨hretry, τ, hτ, hdue⟩
      exact ⟨hretry, τ, List.mem_append_left _ hτ, hdue⟩
    · rcases hmem hτ with rfl | hτ
      · exact absurd hm List.not_mem_nil
      · rw [hsame]
        exact hfair.waiting τ hτ m hm hmid

/-- Where nothing is stored and nothing queued, there is nothing to own. -/
theorem Owned.start (hmessages : k.messages = []) (hentries : k.entries = []) :
    Owned ids bound spoiled k [.idle] := by
  have hget : ∀ id, k.get? id = none := by simp [Ledger.get?, hmessages]
  have hnone : ∀ id, handles k [.idle] id = 0 := by simp [handles, hentries, Stage.hand]
  refine ⟨by simp [hmessages], fun n _ _ => hget _, by simp [hentries], fun τ hτ => ?_,
    fun τ hτ => ?_, fun id _ => ⟨by simp [hnone], by simp [hnone], fun τ hτ m hm => ?_⟩⟩
  all_goals obtain rfl := List.mem_singleton.mp hτ
  · exact .of_none rfl rfl rfl
  · trivial
  · exact absurd hm List.not_mem_nil

end Step

-- ---------------------------------------------------------------------------
-- A plain pipeline
-- ---------------------------------------------------------------------------

/-- A world in which nothing has happened, at the beginning of Unix time. -/
def World.fresh : World :=
  { clock := .start .zero (.ofInstant .epoch), supply := .counting }

/-- A webhook to the machine itself. -/
def Draft.toLoopback : Draft :=
  { org := default, method := "POST", url := "http://[::1]/", payload := [] }

/-- It is in normal form. -/
theorem Draft.normalize_toLoopback : Draft.toLoopback.normalize = .ok .toLoopback := by
  have hdraft : Draft.toLoopback.normalize.toOption = some .toLoopback := by decide +kernel
  cases h : Draft.toLoopback.normalize with
  | ok draft =>
    rw [h] at hdraft
    rw [Option.some.inj hdraft]
  | error reason =>
    rw [h] at hdraft
    cases hdraft

/-- A worker with the settings that hold where nothing else is set. -/
def Worker.plain : Worker :=
  { client := ⟨{}⟩, policy := {}, errorBackoff := .zero }

/-- A webhook was submitted. -/
def World.submitted : World :=
  ((Role.submission .toLoopback).round.run .fresh).2

/-- It was attempted once and waits for the second 1. -/
def World.parked : World :=
  ((Role.worker .plain).round.run .submitted).2

end WebhookDelivery
