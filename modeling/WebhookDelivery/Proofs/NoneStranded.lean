import WebhookDelivery.Proofs.Submission
import WebhookDelivery.Proofs.Tally

/-!
# No message is stranded

A message that was accepted is to be attempted some day: as long as it is pending a queue entry
names it, and as long as it waits for a retry it has a due time, at which a sweep finds it. Here
submissions, rounds of workers, sweeps and recoveries come one after another, in any order, while
failures come and go. A worker may be stopped at the end of a round, or where it would pause.

What keeps a message from being lost is that whoever takes its last entry has it in hand until it is
written, or puts the entry back. This fails only where an entry that goes back is rejected, or where
a submission could not queue its message and could not set it aside either.

* `Course` — the worlds that such work leads to.
* `Tended` — the invariant within a round.
* `Course.none_stranded` — what holds in every world of a course.
-/

namespace WebhookDelivery

-- ---------------------------------------------------------------------------
-- Courses
-- ---------------------------------------------------------------------------

/-- What comes of a task, and in which world, after some of its calls were made and answered. The
calls are kept, the latest first. -/
inductive Task.Leads {α : Type} : Task α → World → Task α → World → List Moment → Prop where
  | start (t : Task α) (w : World) : Leads t w t w []
  | call {c : Call} {next : c.Answer → Task α} {answer : c.Answer} {t : Task α} {w w' w'' : World}
    {h : List Moment} (answered : w.perform c = (some answer, w'))
    (leads : Leads (next answer) w' t w'' h) :
    Leads (.call c next) w t w'' (h ++ [⟨w, c, answer⟩])

/-- A task that is run to its end leads there. -/
theorem Task.leads_of_run {α : Type} {t : Task α} {w : World} {a : α}
    (hends : (t.run w).1 = some a) : t.Leads w (.done a) (t.run w).2 (t.moments w) := by
  induction t generalizing w with
  | done b =>
    obtain rfl := Option.some.inj hends
    exact .start _ _
  | breakdown => cases hends
  | call c next ih =>
    rw [run] at hends ⊢
    rw [moments]
    rcases hperform : w.perform c with ⟨_ | answer, w'⟩
    · rw [hperform] at hends
      cases hends
    · rw [hperform] at hends
      exact .call hperform (ih answer hends)

/-- Where a worker may stop: its round is over, or it is about to pause, which it does not if it was
told to stop. -/
def Task.Halts : Task Unit → Prop
  | .done () => True
  | .call (.sleep _) _ => True
  | _ => False

/-- Whether the queue has rejected an entry. -/
def Moment.rejects : Moment → Bool
  | ⟨_, .push _, .error _⟩ => true
  | _ => false

/-- Whether all failures of the store that are planned are failures of the database. -/
def World.FailsAsDatabase (w : World) : Prop :=
  ∀ p ∈ w.planned, ∃ message, p.2 = .database message

/-- The worlds that submissions, rounds of workers, sweeps and recoveries lead to, one after another,
where every submission accepts its message, no entry that a worker puts back is rejected, and
nothing breaks down. In between the outside may change anything but what is on record and the supply
of identifiers. -/
inductive Course (start : World) : World → Prop where
  | start : Course start start
  | submitted {w : World} (d : Draft) {m : Message}
    (accepted : ((submit d).run w).1 = some (.ok m)) :
    Course start w → Course start ((submit d).run w).2
  | worked {w w' : World} (worker : Worker) {t : Task Unit} {h : List Moment}
    (leads : worker.round.Leads w t w' h) (halts : t.Halts) (taken : ∀ x ∈ h, x.rejects = false) :
    Course start w → Course start w'
  | swept {w : World} (s : SweepSettings) {answer : Except PipelineError Nat}
    (ends : (s.sweep.run w).1 = some answer) : Course start w → Course start (s.sweep.run w).2
  | recovered {w : World} (s : SweepSettings) {answer : Except PipelineError Nat}
    (ends : (s.recover.run w).1 = some answer) : Course start w → Course start (s.recover.run w).2
  | outside {w w' : World} (change : w.SameRecord w') (failures : w'.FailsAsDatabase) :
    Course start w → Course start w'

-- ---------------------------------------------------------------------------
-- What failures tell
-- ---------------------------------------------------------------------------

/-- What a failure of the store tells where all failures that are planned are failures of the
database: the same may succeed later, and what is reported missing is. -/
def Call.Truthful (k : Ledger) : (c : Call) → c.Answer → Prop
  | .findMessage id, .error e =>
    e.toPipeline.isRetryable = true ∧ (e.isNotFound = true → k.get? id = none)
  | .updateMessageStatus _ _, .error e => e.toPipeline.isRetryable = true
  | .updateMessage _, .error e => e.toPipeline.isRetryable = true
  | _, _ => True

namespace World

/-- A failure that strikes was planned. -/
theorem mem_of_takePlanned {op : StoreOperation} {planned : List (StoreOperation × StoreError)}
    {e : StoreError} {rest : List (StoreOperation × StoreError)}
    (h : takePlanned op planned = some (e, rest)) : (op, e) ∈ planned := by
  induction planned generalizing e rest with
  | nil => cases h
  | cons p others ih =>
    obtain ⟨o, failure⟩ := p
    rw [takePlanned] at h
    split at h
    · rename_i ho
      obtain ⟨rfl, -⟩ := Prod.mk.inj (Option.some.inj h)
      rw [ho]
      exact List.mem_cons_self
    · obtain ⟨⟨e', rest'⟩, htake, heq⟩ := Option.map_eq_some_iff.mp h
      obtain ⟨rfl, -⟩ := Prod.mk.inj heq
      exact List.mem_cons_of_mem _ (ih htake)

theorem FailsAsDatabase.of_kept {w w' : World} (hkept : w.Kept w') (h : w.FailsAsDatabase) :
    w'.FailsAsDatabase :=
  fun p hp => h p (hkept.planned hp)

/-- A failure that a store operation meets is planned, or its own. -/
theorem FailsAsDatabase.of_storeCall {α : Type} {w : World} (h : w.FailsAsDatabase)
    {op : StoreOperation} {run : Unit → Except StoreError α × World} {e : StoreError}
    (hfails : (w.storeCall op run).1 = .error e) :
    (∃ message, e = .database message) ∨ (run ()).1 = .error e := by
  rcases w.storeCall_cases op run with ⟨e', planned, htake, heq⟩ | ⟨-, heq⟩
  · rw [heq] at hfails
    obtain rfl := Except.error.inj hfails
    exact .inl (h _ (mem_of_takePlanned htake))
  · rw [heq] at hfails
    exact .inr hfails

theorem error_of_write {α : Type} {w : World} {r : Except StoreError (α × Store)} {e : StoreError}
    (h : (w.write r).1 = .error e) : r = .error e := by
  cases r with
  | error e' => exact congrArg _ (Except.error.inj h)
  | ok result => cases h

/-- Whatever keeps a status from being set may pass. -/
theorem retryable_of_setStatus {s : Store} {id : MessageId} {status : Status} {now : Instant}
    {e : StoreError} (h : s.setStatus id status now = .error e) :
    e.toPipeline.isRetryable = true := by
  simp only [Store.setStatus, Message.setStatus] at h
  -- the failure that was asked for, a missing message, or a retry without a due time
  split at h
  · obtain rfl := Except.error.inj h
    rfl
  · split at h
    · obtain rfl := Except.error.inj h
      rfl
    · split at h
      · rename_i hfails
        split at hfails
        · obtain rfl := Except.error.inj h
          obtain rfl := Except.error.inj hfails
          rfl
        · cases hfails
      · cases h

/-- Whatever keeps a message from being updated may pass. -/
theorem retryable_of_update {s : Store} {m : Message} {e : StoreError}
    (h : ((s.update m).map fun store => ((), store)) = .error e) :
    e.toPipeline.isRetryable = true := by
  simp only [Store.update] at h
  split at h
  · obtain rfl := Except.error.inj h
    rfl
  · split at h
    · obtain rfl := Except.error.inj h
      rfl
    · split at h
      · obtain rfl := Except.error.inj h
        rfl
      · cases h

/-- A message is not found only if it is not there, which may pass. -/
theorem retryable_of_find {s : Store} {id : MessageId} {e : StoreError}
    (h : s.find id = .error e) : e.toPipeline.isRetryable = true ∧ s.get? id = none := by
  rw [Store.find] at h
  split at h
  · cases h
  · rename_i hget
    obtain rfl := Except.error.inj h
    exact ⟨rfl, hget⟩

/-- Where failures are those of the database, each tells the truth. -/
theorem FailsAsDatabase.truthful {w w' : World} {c : Call} {answer : c.Answer}
    (h : w.FailsAsDatabase) (hperform : w.perform c = (some answer, w')) :
    c.Truthful w.ledger answer := by
  have hanswer : (w.perform c).1 = some answer := congrArg Prod.fst hperform
  -- only the calls that a worker makes about its message are promised anything
  cases c with
  | findMessage id =>
    cases answer with
    | ok m => trivial
    | error e =>
      simp only [perform, Option.some.injEq] at hanswer
      rcases h.of_storeCall hanswer with ⟨message, rfl⟩ | hfind
      · exact ⟨rfl, by rintro ⟨⟩⟩
      · obtain ⟨hretryable, hmissing⟩ := retryable_of_find hfind
        exact ⟨hretryable, fun _ => hmissing⟩
  | updateMessageStatus id status =>
    cases answer with
    | ok m => trivial
    | error e =>
      simp only [perform, Option.some.injEq] at hanswer
      rcases h.of_storeCall hanswer with ⟨message, rfl⟩ | hset
      · exact rfl
      · exact retryable_of_setStatus (error_of_write hset)
  | updateMessage m =>
    cases answer with
    | ok u => trivial
    | error e =>
      simp only [perform, Option.some.injEq] at hanswer
      rcases h.of_storeCall hanswer with ⟨message, rfl⟩ | hset
      · exact rfl
      · exact retryable_of_update (error_of_write hset)
  | _ => trivial

end World

-- ---------------------------------------------------------------------------
-- The invariant
-- ---------------------------------------------------------------------------

/-- What holds within a round: a pending message has an entry, or the round has it in hand; a message
that waits for a retry has a due time; the entry in hand names the message in hand; and what a sweep
is about to mark pending has an entry. -/
structure Tended (k : Ledger) (σ : Stage) : Prop where
  distinct : (k.messages.map (·.id)).Nodup
  pending : ∀ id m, k.get? id = some m → m.status = .pending → k.Queues id ∨ σ.hand = some id
  retry : ∀ id m, k.get? id = some m → m.status = .retry → m.nextRetryAt.isSome = true
  entry : ∀ entry id, σ.entry? = some entry → σ.hand = some id → names id entry = true
  pushed : ∀ id due, σ.pushed? = some (id, due) → k.Queues id

section Step

attribute [local irreducible] MessageId.text

variable {ids : Nat → MessageId} {k k' : Ledger} {role : Role} {σ σ' : Stage} {c : Call}
  {answer : c.Answer}

/-- A move that changes no message and takes no entry away, after which the round has in hand what
it had. -/
theorem Tended.frame (h : Tended k σ) (hmessages : k'.messages = k.messages)
    (hentries : k.entries ⊆ k'.entries) (hhand : σ.hand = none ∨ σ'.hand = σ.hand)
    (hentry : ∀ entry id, σ'.entry? = some entry → σ'.hand = some id → names id entry = true)
    (hpushed : ∀ id due, σ'.pushed? = some (id, due) → k'.Queues id) : Tended k' σ' where
  distinct := by
    rw [hmessages]
    exact h.distinct
  pending id m hm hpending := by
    rw [Ledger.get?, hmessages] at hm
    rcases h.pending id m hm hpending with hqueues | hheld
    · exact .inl (hqueues.mono hentries)
    · -- the round had nothing in hand, or still has it
      rcases hhand with hnone | hsame
      · cases hnone.symm.trans hheld
      · exact .inr (hsame.trans hheld)
  retry id m hm := by
    rw [Ledger.get?, hmessages] at hm
    exact h.retry id m hm
  entry := hentry
  pushed := hpushed

/-- A round that had nothing in hand and comes to hold nothing. -/
theorem Tended.idle (h : Tended k σ) (hmessages : k'.messages = k.messages)
    (hentries : k.entries ⊆ k'.entries) (hempty : σ.hand = none) (hentry : σ'.entry? = none)
    (hpushed : ∀ id due, σ'.pushed? = some (id, due) → k'.Queues id) : Tended k' σ' :=
  h.frame hmessages hentries (.inl hempty) (fun _ _ he => by cases hentry.symm.trans he) hpushed

/-- A round that goes on with what it has in hand. -/
theorem Tended.goes_on (h : Tended k σ) (hmessages : k'.messages = k.messages)
    (hentries : k'.entries = k.entries) (hhand : σ'.hand = σ.hand)
    (hentry : σ'.entry? = σ.entry?) (hpushed : σ'.pushed? = none) : Tended k' σ' := by
  refine h.frame hmessages (by rw [hentries]; exact List.Subset.refl _) (.inr hhand) ?_ ?_
  · intro entry id he hid
    exact h.entry entry id (hentry.symm.trans he) (hhand.symm.trans hid)
  · intro id due hdue
    cases hpushed.symm.trans hdue

/-- An entry is taken off the queue: what it names is in hand. -/
theorem Tended.taken {entry : String} {rest : List String} (h : Tended k σ)
    (hentries : k.entries = entry :: rest) (hempty : σ.hand = none)
    (hhand : ∀ id, names id entry = true → σ'.hand = some id)
    (hentry : ∀ e id, σ'.entry? = some e → σ'.hand = some id → names id e = true)
    (hpushed : σ'.pushed? = none) : Tended { k with entries := rest } σ' where
  distinct := h.distinct
  pending id m hm hpending := by
    obtain ⟨e, he, hnames⟩ := (h.pending id m hm hpending).resolve_right fun hheld => by
      cases hempty.symm.trans hheld
    rw [hentries] at he
    rcases List.mem_cons.mp he with rfl | he
    · exact .inr (hhand id hnames)
    · exact .inl ⟨e, he, hnames⟩
  retry := h.retry
  entry := hentry
  pushed id due hdue := by cases hpushed.symm.trans hdue

/-- A round may let go of what is not pending, or has an entry. -/
theorem Tended.let_go {id : MessageId} (h : Tended k σ) (hmessages : k'.messages = k.messages)
    (hentries : k.entries ⊆ k'.entries) (hhand : σ.hand = some id)
    (hsafe : k'.Queues id ∨ ∀ m, k.get? id = some m → m.status ≠ .pending)
    (hentry : σ'.entry? = none) (hpushed : σ'.pushed? = none) : Tended k' σ' where
  distinct := by
    rw [hmessages]
    exact h.distinct
  pending id' m hm hpending := by
    rw [Ledger.get?, hmessages] at hm
    rcases h.pending id' m hm hpending with hqueues | hheld
    · exact .inl (hqueues.mono hentries)
    · obtain rfl := Option.some.inj (hhand.symm.trans hheld)
      -- the message that is let go of is not pending, or has its entry
      exact .inl (hsafe.resolve_right fun hnever => hnever m hm hpending)
  retry id' m hm := by
    rw [Ledger.get?, hmessages] at hm
    exact h.retry id' m hm
  entry _ _ he := by cases hentry.symm.trans he
  pushed _ _ hdue := by cases hpushed.symm.trans hdue

/-- A message is written: it is not pending afterwards or has an entry, and has a due time if it
waits for a retry. -/
theorem Tended.written {m : Message} (h : Tended k σ) (hhand : σ.hand = none ∨ σ.hand = some m.id)
    (hpending : m.status = .pending → k.Queues m.id)
    (hretry : m.status = .retry → m.nextRetryAt.isSome = true) (hentry : σ'.entry? = none)
    (hpushed : σ'.pushed? = none) : Tended (k.put m) σ' where
  distinct := Ledger.nodup_put h.distinct m
  pending id n hn hstatus := by
    rw [Ledger.get?_put] at hn
    split at hn
    · rename_i hid
      obtain rfl := Option.some.inj hn
      exact .inl (hid ▸ hpending hstatus)
    · rename_i hid
      -- another message cannot be the one in hand
      refine .inl ((h.pending id n hn hstatus).resolve_right fun hheld => ?_)
      rcases hhand with hnone | hsome
      · cases hnone.symm.trans hheld
      · exact hid (Option.some.inj (hsome.symm.trans hheld))
  retry id n hn hstatus := by
    rw [Ledger.get?_put] at hn
    split at hn
    · obtain rfl := Option.some.inj hn
      exact hretry hstatus
    · exact h.retry id n hn hstatus
  entry _ _ he := by cases hentry.symm.trans he
  pushed _ _ hdue := by cases hpushed.symm.trans hdue

/-- A worker never writes a message back as pending. -/
theorem Worker.Settles.not_pending {w : Worker} {m m' : Message} {now : Instant}
    {outcome : Outcome} (h : w.Settles m now outcome m') : m'.status ≠ .pending := by
  cases h with
  | delivered => exact Status.noConfusion
  | @failed _ _ decision => cases decision <;> exact Status.noConfusion

theorem Stage.afterFailure_of_retryable {e : StoreError} (h : e.toPipeline.isRetryable = true)
    (entry : String) (id : MessageId) : Stage.afterFailure e entry id = .troubled entry id := by
  rw [Stage.afterFailure, if_pos h]

/-- Every move of a worker, a sweep or a recovery preserves the invariant, unless a worker's entry
is rejected. -/
theorem Tended.step (hnext : Stage.Next role σ c answer σ') (heffect : Effect ids k c answer k')
    (hrole : ∀ d, role ≠ .submission d) (htruthful : c.Truthful k answer) {w : World}
    (htaken : ∀ worker, role = .worker worker → Moment.rejects ⟨w, c, answer⟩ = false)
    (h : Tended k σ) : Tended k' σ' := by
  cases hnext with
  | note =>
    cases heffect with
    | quiet => exact h
  | secret | signingTime | send | time | draw =>
    cases heffect with
    | quiet => exact h.goes_on rfl rfl rfl rfl rfl
  | record =>
    cases heffect with
    | quiet => exact h.goes_on rfl rfl rfl rfl rfl
    | record => exact h.goes_on rfl rfl rfl rfl rfl
  | popNothing | popFailed | pause | sweepTime | dueFailed | sweepPushFailed | pendingFailed =>
    cases heffect with
    | quiet => exact h.idle rfl (List.Subset.refl _) rfl rfl (by rintro _ _ ⟨⟩)
  | pop hid =>
    cases heffect with
    | quiet hquiet => exact absurd rfl (hquiet _)
    | pop hentries =>
      refine h.taken hentries rfl (fun id hnames => ?_) (fun e id he hhand => ?_) rfl
      · rw [names, decide_eq_true_eq, hid] at hnames
        exact hnames
      · obtain rfl := Option.some.inj he
        obtain rfl := Option.some.inj hhand
        exact decide_eq_true hid
  | popUnreadable hid =>
    cases heffect with
    | quiet hquiet => exact absurd rfl (hquiet _)
    | pop hentries =>
      refine h.taken hentries rfl (fun id hnames => ?_) (by rintro _ _ ⟨⟩) rfl
      rw [names, decide_eq_true_eq, hid] at hnames
      cases hnames
  | load =>
    cases heffect with
    | quiet hquiet => obtain ⟨_, ⟨⟩⟩ := hquiet
    | find hget =>
      obtain rfl := Ledger.id_of_get? hget
      exact h.goes_on rfl rfl rfl rfl rfl
  -- what has come to its end is not pending, so it needs no entry
  | skipEnded hended =>
    cases heffect with
    | quiet hquiet => obtain ⟨_, ⟨⟩⟩ := hquiet
    | find hget =>
      refine h.let_go rfl (List.Subset.refl _) rfl (.inr fun n hn hpending => ?_) rfl rfl
      obtain rfl := Option.some.inj (hget.symm.trans hn)
      rw [hpending] at hended
      cases hended
  -- the store has told the truth: there is no such message
  | skipMissing hmissing =>
    cases heffect with
    | quiet =>
      refine h.let_go rfl (List.Subset.refl _) rfl (.inr fun n hn => ?_) rfl rfl
      cases (htruthful.2 hmissing).symm.trans hn
  | loadFailed =>
    cases heffect with
    | quiet =>
      rw [Stage.afterFailure_of_retryable htruthful.1]
      exact h.goes_on rfl rfl rfl rfl rfl
  | writeFailed | rejectFailed =>
    cases heffect with
    | quiet =>
      rw [Stage.afterFailure_of_retryable htruthful]
      exact h.goes_on rfl rfl rfl rfl rfl
  | write hsettles =>
    cases heffect with
    | quiet hquiet => obtain ⟨_, ⟨⟩⟩ := hquiet
    | update hget =>
      refine h.written (.inr ?_) (fun hpending => absurd hpending hsettles.not_pending)
        (fun hretry => hsettles.isConsistent.mpr hretry) rfl rfl
      show some _ = some _
      rw [Message.progressed, Ledger.id_of_get? hget, hsettles.id_eq]
  | reject =>
    cases heffect with
    | quiet hquiet => obtain ⟨_, ⟨⟩⟩ := hquiet
    | setStatus hget hset =>
      obtain rfl := Message.eq_of_setStatus hset
      refine h.written (.inr ?_) (by rintro ⟨⟩) (by rintro ⟨⟩) rfl rfl
      exact congrArg some (Ledger.id_of_get? hget).symm
  -- the queue takes the entry back, as rejections are excluded
  | @pushBack worker entry id =>
    cases heffect with
    | quiet hquiet =>
      obtain ⟨e, rfl⟩ := hquiet
      cases htaken worker rfl
    | push =>
      refine h.let_go rfl (List.subset_append_left _ _) rfl (.inl ⟨entry, ?_, ?_⟩) rfl rfl
      · exact List.mem_append_right _ List.mem_cons_self
      · exact h.entry entry id rfl rfl
  | due =>
    cases heffect with
    | quiet hquiet => obtain ⟨_, ⟨⟩⟩ := hquiet
    | due => exact h.idle rfl (List.Subset.refl _) rfl rfl (by rintro _ _ ⟨⟩)
  -- the entry is there before the message is marked pending
  | @sweepPush _ m due batch =>
    cases heffect with
    | quiet hquiet => obtain ⟨_, ⟨⟩⟩ := hquiet
    | push =>
      refine h.idle rfl (List.subset_append_left _ _) rfl rfl fun id due hdue => ?_
      obtain ⟨rfl, -⟩ := Prod.mk.inj (Option.some.inj hdue)
      exact ⟨m.id.text, List.mem_append_right _ List.mem_cons_self, by simp⟩
  | requeue =>
    cases heffect with
    | quiet => exact h.idle rfl (List.Subset.refl _) rfl rfl (by rintro _ _ ⟨⟩)
    | keep => exact h.idle rfl (List.Subset.refl _) rfl rfl (by rintro _ _ ⟨⟩)
    | requeue now hget =>
      refine h.written (.inl rfl) (fun _ => ?_) (by rintro ⟨⟩) rfl rfl
      rw [Message.requeued, Ledger.id_of_get? hget]
      exact h.pushed _ _ rfl
  | pending =>
    cases heffect with
    | quiet hquiet => obtain ⟨_, ⟨⟩⟩ := hquiet
    | pending => exact h.idle rfl (List.Subset.refl _) rfl rfl (by rintro _ _ ⟨⟩)
  | present | missing =>
    cases heffect with
    | quiet hquiet => exact hquiet.elim
    | contains => exact h.idle rfl (List.Subset.refl _) rfl rfl (by rintro _ _ ⟨⟩)
  | containsFailed =>
    cases heffect with
    | quiet hquiet => exact hquiet.elim
  | recoverPush =>
    cases heffect with
    | quiet => exact h.idle rfl (List.Subset.refl _) rfl rfl (by rintro _ _ ⟨⟩)
    | push => exact h.idle rfl (List.subset_append_left _ _) rfl rfl (by rintro _ _ ⟨⟩)
  | create | createFailed | queue | refuse | deferTime | defer => exact absurd rfl (hrole _)

end Step

-- ---------------------------------------------------------------------------
-- Rounds
-- ---------------------------------------------------------------------------

/-- What every move preserves holds wherever a task leads that keeps to the moves. -/
theorem Role.Follows.leads {α : Type} {role : Role} {I : Stage → World → Prop}
    {post : α → Stage → Prop} {t t' : Task α} {w w' : World} {h : List Moment} {σ : Stage}
    (hfollows : role.Follows σ t post) (hleads : t.Leads w t' w' h)
    (hmove : ∀ σ w c answer σ' w', (⟨w, c, answer⟩ : Moment) ∈ h → I σ w →
      Stage.Move role σ w c answer σ' w' → I σ' w')
    (hI : I σ w) : ∃ σ', role.Follows σ' t' post ∧ I σ' w' := by
  induction hleads generalizing σ with
  | start => exact ⟨σ, hfollows, hI⟩
  | call answered _ ih =>
    obtain ⟨σ', hnext, hrest⟩ := hfollows _
    have hI' := hmove _ _ _ _ _ _ (List.mem_append_right _ List.mem_cons_self) hI
      ⟨hnext, answered⟩
    exact ih hrest (fun σ w c answer σ' w' hmem =>
      hmove σ w c answer σ' w' (List.mem_append_left _ hmem)) hI'

/-- A round that has nothing in hand may end. -/
theorem Tended.rest {k : Ledger} {σ : Stage} (h : Tended k σ) (hempty : σ.hand = none) :
    Tended k .idle :=
  h.idle rfl (List.Subset.refl _) hempty rfl (by rintro _ _ ⟨⟩)

/-- A worker pauses with nothing in hand. -/
theorem Stage.Next.hand_of_sleep {role : Role} {σ σ' : Stage} {d : Duration}
    (h : Next role σ (.sleep d) () σ') : σ.hand = none := by
  cases h
  rfl

/-- A world between rounds: the invariant holds, and planned failures are failures of the
database. -/
structure World.Settled (w : World) : Prop where
  tended : Tended w.ledger .idle
  failures : w.FailsAsDatabase

section Rounds

variable {α : Type} {role : Role} {w w' : World} {t t' : Task α} {h : List Moment}
  {post : α → Stage → Prop}

/-- A sweep or a worker that has begun in a settled world tends to every message. -/
theorem World.Settled.leads (hsettled : w.Settled) (hrole : ∀ d, role ≠ .submission d)
    (hfollows : role.Follows .idle t post) (hleads : t.Leads w t' w' h)
    (htaken : ∀ worker, role = .worker worker → ∀ x ∈ h, x.rejects = false) :
    ∃ σ, role.Follows σ t' post ∧ Tended w'.ledger σ ∧ w'.FailsAsDatabase := by
  refine hfollows.leads (I := fun σ w => Tended w.ledger σ ∧ w.FailsAsDatabase) hleads ?_
    ⟨hsettled.tended, hsettled.failures⟩
  rintro σ w c answer σ' w' hmem ⟨htended, hfails⟩ hmove
  exact ⟨htended.step hmove.next hmove.effect hrole (hfails.truthful hmove.performed)
    (fun worker hworker => htaken worker hworker _ hmem), hfails.of_kept hmove.kept⟩

/-- After a round that was run to its end. -/
theorem World.Settled.run {a : α} (hsettled : w.Settled) (hsubmits : ∀ d, role ≠ .submission d)
    (hworks : ∀ worker, role ≠ .worker worker)
    (hfollows : role.Follows .idle t fun _ σ => σ.AtRest) (hends : (t.run w).1 = some a) :
    (t.run w).2.Settled := by
  obtain ⟨σ, hrest, htended, hfails⟩ := hsettled.leads hsubmits hfollows (Task.leads_of_run hends)
    fun worker hworker => absurd hworker (hworks worker)
  exact ⟨htended.rest (Stage.AtRest.hand hrest), hfails⟩

end Rounds

/-- A worker that has come to its end leaves a settled world. -/
theorem World.Settled.work {w w' : World} {worker : Worker} {t : Task Unit} {h : List Moment}
    (hsettled : w.Settled) (hleads : worker.round.Leads w t w' h) (hhalts : t.Halts)
    (htaken : ∀ x ∈ h, x.rejects = false) : w'.Settled := by
  obtain ⟨σ, hrest, htended, hfails⟩ :=
    hsettled.leads (by rintro _ ⟨⟩) Role.follows_workerRound hleads fun _ _ => htaken
  refine ⟨htended.rest ?_, hfails⟩
  -- the worker is done, or about to pause; in neither case has it anything in hand
  cases t with
  | done u =>
    obtain rfl : σ = .idle := hrest
    rfl
  | breakdown => exact hhalts.elim
  | call c next =>
    cases c with
    | sleep d =>
      obtain ⟨σ', hnext, -⟩ := hrest ()
      exact hnext.hand_of_sleep
    | _ => exact hhalts.elim

/-- A submission that accepts its message has queued it, or set it aside with a due time. -/
theorem Submission.Ends.tended {w : World} {d : Draft} {m : Message} {k : Ledger}
    (hends : Ends w d (some (.ok m)) k) (h : Tended w.ledger .idle) : Tended k .idle := by
  cases hends with
  | @queued draft =>
    let m := w.newMessage draft
    have hqueued : Tended { w.ledger with entries := w.ledger.entries ++ [m.id.text] } .idle :=
      h.idle rfl (List.subset_append_left _ _) rfl rfl (by rintro _ _ ⟨⟩)
    have hput := hqueued.written (m := m) (.inl rfl)
      (fun _ => ⟨m.id.text, List.mem_append_right _ List.mem_cons_self, by simp⟩) (by rintro ⟨⟩)
      (rfl : Stage.idle.entry? = none) rfl
    exact hput.idle rfl (List.Subset.refl _) rfl rfl (by rintro _ _ ⟨⟩)
  | @setAside draft _ _ _ now =>
    have hput := h.written (m := (w.newMessage draft).defer now now) (.inl rfl) (by rintro ⟨⟩)
      (fun _ => rfl) (rfl : Stage.idle.entry? = none) rfl
    exact hput.idle rfl (List.Subset.refl _) rfl rfl (by rintro _ _ ⟨⟩)

/-- A submission leaves a settled world. -/
theorem World.Settled.submit {w : World} {d : Draft} {m : Message} (hsettled : w.Settled)
    (haccepted : ((submit d).run w).1 = some (.ok m)) :
    ((WebhookDelivery.submit d).run w).2.Settled := by
  have hends := Submission.ends w d
  rw [haccepted] at hends
  refine ⟨hends.tended hsettled.tended, ?_⟩
  obtain ⟨-, -, hfails⟩ := (Role.follows_submit d).leads (I := fun _ w => w.FailsAsDatabase)
    (Task.leads_of_run haccepted) (fun _ _ _ _ _ _ _ hfails hmove => hfails.of_kept hmove.kept)
    hsettled.failures
  exact hfails

theorem World.Settled.outside {w w' : World} (hsettled : w.Settled) (hsame : w.SameRecord w')
    (hfails : w'.FailsAsDatabase) : w'.Settled :=
  ⟨hsame.1 ▸ hsettled.tended, hfails⟩

/-- An empty world is settled. -/
theorem World.Settled.start {w : World} (hempty : w.Empty) (hfails : w.FailsAsDatabase) :
    w.Settled := by
  have hmessages : w.ledger.messages = [] := hempty.messages
  have hget : ∀ id, w.ledger.get? id = none := by simp [Ledger.get?, hmessages]
  refine ⟨⟨by simp [hmessages], fun id m hm => ?_, fun id m hm => ?_, by rintro _ _ ⟨⟩,
    by rintro _ _ ⟨⟩⟩, hfails⟩
  · cases (hget id).symm.trans hm
  · cases (hget id).symm.trans hm

/-- Every course from an empty world whose failures are those of the database leads to a settled
one. -/
theorem Course.settled {start w : World} (hempty : start.Empty) (hfails : start.FailsAsDatabase)
    (hcourse : Course start w) : w.Settled := by
  induction hcourse with
  | start => exact .start hempty hfails
  | submitted d accepted _ ih => exact ih.submit accepted
  | worked worker leads halts taken _ ih => exact ih.work leads halts taken
  | swept s ends _ ih =>
    exact ih.run (by rintro _ ⟨⟩) (by rintro _ ⟨⟩) (Role.follows_sweep s) ends
  | recovered s ends _ ih =>
    exact ih.run (by rintro _ ⟨⟩) (by rintro _ ⟨⟩) (Role.follows_recover s) ends
  | outside change failures _ ih => exact ih.outside change failures

-- ---------------------------------------------------------------------------
-- No message is stranded
-- ---------------------------------------------------------------------------

/-- A query that asks for enough messages finds all that are due. -/
theorem Ledger.mem_dueRetries_of_le {k : Ledger} {limit : Nat} {now : Instant} {m : Message}
    (hlimit : k.messages.length ≤ limit) (hm : m ∈ k.messages) (hdue : m.isRetryDue now = true) :
    m ∈ k.dueRetries limit now := by
  rw [dueRetries, Store.dueRetries, List.take_of_length_le, List.mem_mergeSort, List.mem_filter]
  · exact ⟨hm, hdue⟩
  · rw [List.length_mergeSort]
    exact Nat.le_trans (List.length_filter_le _ _) hlimit

/-- In every world of a course that starts from nothing, every pending message has an entry that
names it, and every message that waits for a retry has a due time, from which on every query that
asks for enough messages and does not fail returns it. -/
theorem Course.none_stranded {start w : World} (hempty : start.Empty)
    (hfails : start.FailsAsDatabase) (hcourse : Course start w) :
    (∀ m ∈ w.store.messages, m.status = .pending →
      ∃ entry ∈ w.queue.entries, MessageId.ofText? entry = some m.id)
    ∧ ∀ m ∈ w.store.messages, m.status = .retry → ∃ due, m.nextRetryAt = some due
      ∧ ∀ limit now, w.store.messages.length ≤ limit → due ≤ now →
        w.store.dueQueryFailure = none → World.takePlanned .findRetryReady w.planned = none →
        ∃ batch, (w.perform (.findRetryReady limit now)).1 = some (.ok batch) ∧ m ∈ batch := by
  obtain ⟨htended, -⟩ := hcourse.settled hempty hfails
  have hget : ∀ m ∈ w.store.messages, w.ledger.get? m.id = some m :=
    fun m hm => Ledger.get?_of_mem htended.distinct hm
  refine ⟨fun m hm hpending => ?_, fun m hm hretry => ?_⟩
  · have hqueues := (htended.pending m.id m (hget m hm) hpending).resolve_right (by rintro ⟨⟩)
    obtain ⟨entry, hentry, hnames⟩ := hqueues
    exact ⟨entry, hentry, of_decide_eq_true hnames⟩
  · obtain ⟨due, hdue⟩ := Option.isSome_iff_exists.mp (htended.retry m.id m (hget m hm) hretry)
    refine ⟨due, hdue, fun limit now hlimit hle hquery hplanned => ?_⟩
    refine ⟨w.ledger.dueRetries limit now, ?_, ?_⟩
    · rw [World.perform_findRetryReady hquery hplanned]
    · refine Ledger.mem_dueRetries_of_le hlimit hm ?_
      simp [Message.isRetryDue, hretry, hdue, hle]

-- A webhook was submitted, and a worker that takes its entry while no message can be changed has
-- put it back.

/-- A webhook was submitted, and then the store was made to refuse changes of messages. -/
def World.submittedRefusing : World :=
  { World.submitted with store := { World.submitted.store with failMessageUpdates := true } }

/-- A worker has made an attempt there and could not write its message. -/
def World.putBack : World :=
  (Worker.plain.round.run .submittedRefusing).2

theorem World.submitted_eq : World.submitted = ((submit .toLoopback).run .fresh).2 := by
  show (((submit .toLoopback).bind _).run .fresh).2 = _
  rw [Task.run_bind]
  rcases (submit .toLoopback).run .fresh with ⟨_ | _, w⟩ <;> rfl

/-- The course in which a worker pushes its message back. -/
theorem World.course_putBack : Course .fresh .putBack := by
  have hanswer : ((submit .toLoopback).run .fresh).1.any (·.toOption.isSome) = true := by
    decide +kernel
  obtain ⟨m, hm⟩ : ∃ m, ((submit .toLoopback).run .fresh).1 = some (.ok m) := by
    obtain ⟨answer, hsome, hok⟩ := (Option.any_eq_true _ _).mp hanswer
    cases answer with
    | error e => cases hok
    | ok m => exact ⟨m, hsome⟩
  have hsubmitted : Course .fresh .submitted := by
    rw [World.submitted_eq]
    exact .submitted .toLoopback hm .start
  have hrefusing : Course .fresh .submittedRefusing := by
    refine .outside (w := World.submitted) ⟨rfl, rfl⟩ (fun p hp => ?_) hsubmitted
    have hplanned : World.submittedRefusing.planned.isEmpty = true := by decide +kernel
    rw [List.isEmpty_iff.mp hplanned] at hp
    exact absurd hp List.not_mem_nil
  have hround : (Worker.plain.round.run .submittedRefusing).1 = some () := by decide +kernel
  -- no entry is rejected in the round, which is computed
  have htaken : (Worker.plain.round.moments .submittedRefusing).all (!·.rejects) = true := by
    decide +kernel
  refine hrefusing.worked .plain (Task.leads_of_run hround) trivial fun x hx => ?_
  simpa using List.all_eq_true.mp htaken x hx

/-- There the message is pending and has its entry again. -/
theorem Course.entry_putBack : ∃ m ∈ World.putBack.store.messages, m.status = .pending
    ∧ ∃ entry ∈ World.putBack.queue.entries, MessageId.ofText? entry = some m.id := by
  have hpending :
      (World.putBack.store.messages.any fun m => decide (m.status = .pending)) = true := by
    decide +kernel
  obtain ⟨m, hm, hstatus⟩ := List.any_eq_true.mp hpending
  have hstatus := of_decide_eq_true hstatus
  obtain ⟨hentry, -⟩ := none_stranded ⟨rfl, rfl, rfl⟩ (fun _ hp => absurd hp List.not_mem_nil)
    World.course_putBack
  exact ⟨m, hm, hstatus, hentry m hm hstatus⟩

end WebhookDelivery
