import WebhookDelivery.Proofs.DueTimes
import WebhookDelivery.Settings

/-!
# Comparing due times

A sweep reads which messages are due, pushes each, and then marks it pending if it still waits for
the due time that was read. Between the query and the mark workers may take the message, attempt it
and write it; the due time is to tell the sweep that they did.

It tells, as long as no due time comes back. A worker may park a message for the very time for which
it waited before: where its policy decides on no wait, where the clock was set back, or where its
attempt was under way when the sweep asked. Then the sweep marks a message that was written, and if
its entry was taken, nobody will come for it.

* `Comparing` — what the sweep still has to do, and how things stand with it.
* `Scene.compare_and_set` — what the answer of the comparison says.
* `Scene.compare_and_set_overwrites` — a due time may come back.
-/

namespace WebhookDelivery

-- ---------------------------------------------------------------------------
-- Reliable stores
-- ---------------------------------------------------------------------------

/-- No write is made to fail, and no message is made to be missed. -/
structure World.Reliable (w : World) : Prop extends w.Writable where
  found : ∀ p ∈ w.planned, p.1 ≠ .findMessage

instance (w : World) : Decidable w.Reliable :=
  decidable_of_iff (w.store.failMessageUpdates = false ∧ w.store.failAttemptWrites = false
      ∧ ∀ p ∈ w.planned, p.1.writes = false ∧ p.1 ≠ .findMessage)
    ⟨fun h => ⟨⟨h.1, h.2.1, fun p hp => (h.2.2 p hp).1⟩, fun p hp => (h.2.2 p hp).2⟩,
      fun h => ⟨h.updates, h.records, fun p hp => ⟨h.unplanned p hp, h.found p hp⟩⟩⟩

/-- What an answer is like where the store is reliable. -/
def Call.Served (k : Ledger) : (c : Call) → c.Answer → Prop
  | .findMessage id, answer => (∃ stored, k.get? id = some stored) → ∃ m, answer = .ok m
  | .updateMessage m, answer => m.IsConsistent → (∃ stored, k.get? m.id = some stored) →
    answer = .ok ()
  | .updateMessageStatus id status, answer => status ≠ .retry →
    (∃ stored, k.get? id = some stored) → ∃ m, answer = .ok m
  | _, _ => True

/-- A reliable world answers every call as the stores do. -/
theorem World.Reliable.served {w w' : World} {c : Call} {answer : c.Answer} (h : w.Reliable)
    (hperform : w.perform c = (some answer, w')) : c.Served w.ledger answer := by
  have hanswer : (w.perform c).1 = some answer := congrArg Prod.fst hperform
  -- only the calls that a worker makes about a message are promised anything
  cases c with
  | findMessage id =>
    rintro ⟨stored, hstored⟩
    simp only [World.perform, World.storeCall_of_unplanned h.found, Store.find] at hanswer
    have hget : w.store.get? id = some stored := hstored
    rw [hget] at hanswer
    exact ⟨stored, (Option.some.inj hanswer).symm⟩
  | updateMessage m => exact h.toWritable.carried hperform
  | updateMessageStatus id status =>
    rintro hstatus ⟨stored, hstored⟩
    obtain ⟨m, hok⟩ := h.toWritable.setStatus hstatus hstored
    exact ⟨m, Option.some.inj (hanswer.symm.trans hok)⟩
  | _ => trivial

-- ---------------------------------------------------------------------------
-- Who has a message
-- ---------------------------------------------------------------------------

section Step

attribute [local irreducible] MessageId.text

variable {ids : Nat → MessageId} {k k' : Ledger} {role : Role} {σ σ' : Stage} {c : Call}
  {answer : c.Answer} {id : MessageId} {due : Instant} {h : List (Nat × Moment)}

/-- Whether a round has a message in hand and is not about to give it back. -/
def Stage.Keeps (σ : Stage) (id : MessageId) : Prop :=
  σ.hand = some id ∧ ∀ entry, σ ≠ .troubled entry id

/-- A worker keeps a message that waits for a retry until it writes it. -/
theorem Stage.Next.keeps {worker : Worker} (hnext : Next (.worker worker) σ c answer σ')
    (heffect : Effect ids k c answer k') (hserved : c.Served k answer)
    (hwrites : ¬ c.Writes answer id) {n : Message} (hget : k.get? id = some n)
    (hlive : n.status.isTerminal = false) (hkeeps : σ.Keeps id) : σ'.Keeps id := by
  obtain ⟨hhand, htroubled⟩ := hkeeps
  cases hnext with
  | note => exact ⟨hhand, htroubled⟩
  | secret | signingTime | send | time | record | draw =>
    exact ⟨hhand, fun _ => Stage.noConfusion⟩
  | pop | popUnreadable | popNothing | popFailed | pause => cases hhand
  | load =>
    obtain rfl := Option.some.inj hhand
    cases heffect with
    | quiet hquiet => obtain ⟨_, ⟨⟩⟩ := hquiet
    | find hfound => exact ⟨congrArg some (Ledger.id_of_get? hfound), fun _ => Stage.noConfusion⟩
  -- the message waits for a retry, so it has not come to its end
  | skipEnded hended =>
    obtain rfl := Option.some.inj hhand
    cases heffect with
    | quiet hquiet => obtain ⟨_, ⟨⟩⟩ := hquiet
    | find hfound =>
      obtain rfl := Option.some.inj (hfound.symm.trans hget)
      cases hlive.symm.trans hended
  | skipMissing | loadFailed =>
    obtain rfl := Option.some.inj hhand
    obtain ⟨_, ⟨⟩⟩ := hserved ⟨n, hget⟩
  | write hsettles =>
    obtain rfl := Option.some.inj hhand
    exact absurd hsettles.id_eq hwrites
  -- no write-back of a consistent message fails where the store is reliable
  | writeFailed hsettles =>
    obtain rfl := Option.some.inj hhand
    cases hserved hsettles.isConsistent ⟨n, by rw [hsettles.id_eq]; exact hget⟩
  | reject => exact absurd (Option.some.inj hhand) hwrites
  | rejectFailed =>
    obtain rfl := Option.some.inj hhand
    obtain ⟨_, ⟨⟩⟩ := hserved (by decide) ⟨n, hget⟩
  | pushBack =>
    obtain rfl := Option.some.inj hhand
    exact absurd rfl (htroubled _)

/-- An entry that names a message stays in the queue or comes into the hand of the worker. -/
theorem Stage.Next.queues {worker : Worker} (hnext : Next (.worker worker) σ c answer σ')
    (heffect : Effect ids k c answer k') (hqueues : k.Queues id) : k'.Queues id ∨ σ'.Keeps id := by
  obtain ⟨entry, hentry, hnames⟩ := hqueues
  cases heffect with
  | push => exact .inl ⟨entry, List.mem_append_left _ hentry, hnames⟩
  | pop hentries =>
    rw [hentries] at hentry
    -- the entry itself was taken, or one before it
    rcases List.mem_cons.mp hentry with rfl | hentry
    · right
      cases hnext with
      | pop hid =>
        rw [names, decide_eq_true_eq, hid] at hnames
        exact ⟨hnames, fun _ => Stage.noConfusion⟩
      | popUnreadable hid =>
        rw [names, decide_eq_true_eq, hid] at hnames
        cases hnames
    · exact .inl ⟨entry, hentry, hnames⟩
  | create | setStatus | update | requeue | quiet | find | due | pending | keep | record
  | contains => exact .inl ⟨entry, hentry, hnames⟩

-- ---------------------------------------------------------------------------
-- What the sweep has yet to do
-- ---------------------------------------------------------------------------

/-- Whether a sweep has found a message due and has not compared its due time yet. -/
def Stage.Awaits (σ : Stage) (id : MessageId) (due : Instant) : Prop :=
  σ.pushed? = some (id, due) ∨ ∃ m ∈ σ.batch, m.id = id ∧ m.nextRetryAt = some due

/-- The messages that a sweep has found due and has not done with. -/
def Stage.swept (σ : Stage) : List MessageId :=
  (σ.pushed?.map Prod.fst).toList ++ σ.batch.map (·.id)

/-- What holds of a sweep that has come to a stage, where the others have come to these: how things
stand with every message that it has found due and has yet to compare, none of which it has twice;
and that the one that it has pushed is in the queue or in a hand, as long as nobody has written it
and the store has done what it was asked. -/
structure Comparing (k : Ledger) (h : List (Nat × Moment)) (σ : Stage) (others : List Stage) :
    Prop where
  due : ∀ id due, σ.Awaits id due → FoundDue id due h ∧ Stands k id due (sinceQuery h)
  kept : ∀ id due, σ.pushed? = some (id, due) → (∀ p ∈ sinceQuery h, p.2.world.Reliable) →
    Untouched id (sinceQuery h) → k.Queues id ∨ ∃ τ ∈ others, τ.Keeps id
  distinct : σ.swept.Nodup

namespace Comparing

variable {others others' before after : List Stage} {τ τ' : Stage} {w w' : World}

/-- A round with nothing found due and nothing pushed has nothing to account for. -/
theorem of_none (hbatch : σ.batch = []) (hpushed : σ.pushed? = none) : Comparing k h σ others where
  due id due hawaits := by
    rcases hawaits with hdue | ⟨m, hm, -⟩
    · cases hpushed.symm.trans hdue
    · rw [hbatch] at hm
      exact absurd hm List.not_mem_nil
  kept _ _ hdue := by cases hpushed.symm.trans hdue
  distinct := by simp [Stage.swept, hbatch, hpushed]

/-- Whatever the others do, if who keeps a message goes on keeping it. -/
theorem mono (hcomparing : Comparing k h σ others)
    (hkeeps : ∀ id, (∃ τ ∈ others, τ.Keeps id) → ∃ τ ∈ others', τ.Keeps id) :
    Comparing k h σ others' where
  due := hcomparing.due
  kept id due hdue hreliable huntouched :=
    (hcomparing.kept id due hdue hreliable huntouched).imp_right (hkeeps id)
  distinct := hcomparing.distinct

/-- How things stand with a message after a call that is no query and does not mark it. -/
theorem due_kept {i : Nat} (hcomparing : Comparing k h σ others)
    (hnext : Stage.Next role τ c answer τ') (heffect : Effect ids k c answer k')
    (hrole : ∀ d, role ≠ .submission d) (hquery : isQuery (i, ⟨w, c, answer⟩) = false)
    (hawaits : σ.Awaits id due) (hrequeues : ¬ c.Requeues answer id) :
    FoundDue id due ((i, ⟨w, c, answer⟩) :: h)
      ∧ Stands k' id due (sinceQuery ((i, ⟨w, c, answer⟩) :: h)) := by
  obtain ⟨hfound, hstands⟩ := hcomparing.due id due hawaits
  refine ⟨hfound.cons hquery, ?_⟩
  rw [sinceQuery_cons hquery]
  exact hstands.step hnext heffect hrole hrequeues

/-- Every move of the sweeper preserves what holds of its sweep. -/
theorem sweep {sw : SweepSettings} (hcomparing : Comparing k h σ others)
    (hnext : Stage.Next (.sweeper sw) σ c answer σ') (heffect : Effect ids k c answer k')
    (hdistinct : (k.messages.map (·.id)).Nodup) :
    Comparing k' ((0, ⟨w, c, answer⟩) :: h) σ' others := by
  have hrole : ∀ d, Role.sweeper sw ≠ .submission d := by rintro _ ⟨⟩
  -- what is awaited from before the move is awaited after it
  have hkept : isQuery (0, ⟨w, c, answer⟩) = false → ∀ id due, σ.Awaits id due →
      ¬ c.Requeues answer id → FoundDue id due ((0, ⟨w, c, answer⟩) :: h)
        ∧ Stands k' id due (sinceQuery ((0, ⟨w, c, answer⟩) :: h)) :=
    fun hquery _ _ => hcomparing.due_kept hnext heffect hrole hquery
  cases hnext with
  | sweepTime | dueFailed => exact .of_none rfl rfl
  | note =>
    refine ⟨fun id due hawaits => hkept rfl id due hawaits fun hfalse => hfalse, ?_,
      hcomparing.distinct⟩
    intro id due hdue hreliable huntouched
    rw [sinceQuery_cons rfl] at hreliable huntouched
    cases heffect with
    | quiet =>
      exact hcomparing.kept id due hdue (fun p hp => hreliable p (List.mem_cons_of_mem _ hp))
        (untouched_cons.mp huntouched).2
  | due limit now batch =>
    cases heffect with
    | quiet hquiet => obtain ⟨_, ⟨⟩⟩ := hquiet
    | due =>
      refine ⟨fun id due hawaits => ?_, (by rintro _ _ ⟨⟩), ?_⟩
      · -- the query has just been answered, and nobody has written since
        obtain ⟨m, hm, rfl, hdue⟩ := hawaits.resolve_left (by rintro ⟨⟩)
        have hmem := (List.mem_filter.mp hm).1
        obtain ⟨hstored, hisdue⟩ := Ledger.mem_dueRetries hmem
        rw [Message.isRetryDue, hdue, Bool.and_eq_true, decide_eq_true_eq] at hisdue
        obtain ⟨hretry, hle⟩ := hisdue
        refine ⟨⟨w, limit, now, _, h, untilQuery_query rfl, of_decide_eq_true hle, m, hmem, rfl,
          hretry, hdue⟩, m, Ledger.get?_of_mem hdistinct hstored, ?_⟩
        rw [sinceQuery_query rfl]
        exact ⟨fun _ => .inl fun p hp => absurd hp List.not_mem_nil, fun _ => ⟨hretry, hdue⟩⟩
      · exact (Ledger.nodup_dueRetries hdistinct limit now).sublist (List.filter_sublist.map _)
  | @sweepPush _ m due batch hdue =>
    refine ⟨fun id due' hawaits => hkept rfl id due' ?_ fun hfalse => hfalse, ?_,
      hcomparing.distinct⟩
    · rcases hawaits with hpushed | ⟨n, hn, hid⟩
      · obtain ⟨rfl, rfl⟩ := Prod.mk.inj (Option.some.inj hpushed)
        exact .inr ⟨m, List.mem_cons_self, rfl, hdue⟩
      · exact .inr ⟨n, List.mem_cons_of_mem _ hn, hid⟩
    · intro id due' hpushed _ _
      obtain ⟨rfl, -⟩ := Prod.mk.inj (Option.some.inj hpushed)
      cases heffect with
      | quiet hquiet => obtain ⟨_, ⟨⟩⟩ := hquiet
      | push =>
        exact .inl ⟨m.id.text, List.mem_append_right _ (List.mem_singleton.mpr rfl), by simp⟩
  | @sweepPushFailed _ m batch e =>
    refine ⟨fun id due hawaits => hkept rfl id due ?_ fun hfalse => hfalse, (by rintro _ _ ⟨⟩),
      (List.nodup_cons.mp hcomparing.distinct).2⟩
    obtain ⟨n, hn, hid⟩ := hawaits.resolve_left (by rintro ⟨⟩)
    exact .inr ⟨n, List.mem_cons_of_mem _ hn, hid⟩
  | @requeue _ m due batch answer =>
    -- the one that is marked is none of those yet to come
    obtain ⟨hapart, hbatch⟩ := List.nodup_cons.mp hcomparing.distinct
    refine ⟨fun id due' hawaits => ?_, (by rintro _ _ ⟨⟩), hbatch⟩
    obtain ⟨n, hn, rfl, hdue⟩ := hawaits.resolve_left (by rintro ⟨⟩)
    refine hkept rfl n.id due' (.inr ⟨n, hn, rfl, hdue⟩) fun hrequeues => hapart ?_
    have hid : m.id = n.id := by
      cases answer with
      | error e => exact hrequeues.elim
      | ok b =>
        cases b with
        | false => exact hrequeues.elim
        | true => exact hrequeues
    rw [hid]
    exact List.mem_map_of_mem hn

/-- Every move of a worker preserves what holds of the sweep. -/
theorem work {i : Nat} {worker : Worker}
    (hcomparing : Comparing w.ledger h σ (before ++ τ :: after))
    (hmove : Stage.Move (.worker worker) τ w c answer τ' w') (hi : i ≠ 0) :
    Comparing w'.ledger ((i, ⟨w, c, answer⟩) :: h) σ (before ++ τ' :: after) := by
  have hquery : isQuery (i, ⟨w, c, answer⟩) = false := isQuery_of_ne hi
  -- marking a message pending is the sweeper's alone
  have hrequeues : ∀ id, ¬ c.Requeues answer id := by
    intro id hrequeues
    have hnext := hmove.next
    cases c with
    | requeueMessage => cases hnext
    | _ => exact hrequeues
  refine ⟨fun id due hawaits => ?_, fun id due hdue hreliable huntouched => ?_, hcomparing.distinct⟩
  · exact hcomparing.due_kept hmove.next hmove.effect (by rintro _ ⟨⟩) hquery hawaits (hrequeues id)
  · rw [sinceQuery_cons hquery] at hreliable huntouched
    obtain ⟨hwrites, huntouched⟩ := untouched_cons.mp huntouched
    obtain ⟨-, n, hn, hiff⟩ := hcomparing.due id due (.inl hdue)
    -- untouched since the query, the message still waits for its retry
    have hlive : n.status.isTerminal = false := by
      rw [(hiff.mpr (.inl huntouched)).1]
      rfl
    have hserved := (hreliable _ List.mem_cons_self).served hmove.performed
    rcases hcomparing.kept id due hdue (fun p hp => hreliable p (List.mem_cons_of_mem _ hp))
      huntouched with hqueues | ⟨ρ, hρ, hkeeps⟩
    · refine (hmove.next.queues hmove.effect hqueues).imp_right fun hkeeps => ?_
      exact ⟨τ', mem_split.mpr (.inl rfl), hkeeps⟩
    · right
      rcases mem_split.mp hρ with rfl | hρ
      · exact ⟨τ', mem_split.mpr (.inl rfl),
          hmove.next.keeps hmove.effect hserved hwrites hn hlive hkeeps⟩
      · exact ⟨ρ, mem_split.mpr (.inr hρ), hkeeps⟩

end Comparing

end Step

-- ---------------------------------------------------------------------------
-- The invariant
-- ---------------------------------------------------------------------------

/-- Whether a role is a worker, with whatever policy. -/
def Role.IsWorker (role : Role) : Prop :=
  ∃ worker, role = .worker worker

/-- What holds of a scene in which the first actor sweeps and the others work. -/
structure CompareInvariant (s : Scene) (first : Actor × Stage) (others : List (Actor × Stage)) :
    Prop where
  sweeps : ∃ sw, first.1.role = .sweeper sw
  works : ∀ x ∈ others, x.1.role.IsWorker
  distinct : (s.world.ledger.messages.map (·.id)).Nodup
  hands : ∀ i, s.hand i = (first :: others)[i]?.bind fun x => x.1.role.hand x.2
  comparing : Comparing s.world.ledger s.history first.2 (others.map Prod.snd)
  dated : Dated s (first :: others)

namespace CompareInvariant

variable {s t : Scene} {first : Actor × Stage} {others before after : List (Actor × Stage)}
  {a b : Actor} {σ σ' : Stage} {w' : World}

/-- The others stay workers when one of them moves. -/
theorem works_replace (h : CompareInvariant s first (before ++ (a, σ) :: after))
    (hrole : b.role = a.role) :
    ∀ x ∈ before ++ (b, σ') :: after, x.1.role.IsWorker := by
  intro x hx
  rcases mem_split.mp hx with rfl | hx
  · rw [hrole]
    exact h.works (a, σ) (mem_split.mpr (.inl rfl))
  · exact h.works x (mem_split.mpr (.inr hx))

/-- The invariant holds of a scene with a sweeper alone. -/
theorem start {w : World} (hdistinct : (w.store.messages.map (·.id)).Nodup) (sw : SweepSettings) :
    CompareInvariant (.ofSweeper w sw) (.ofRole (.sweeper sw), .idle) [] where
  sweeps := ⟨sw, rfl⟩
  works _ hx := absurd hx List.not_mem_nil
  distinct := hdistinct
  hands i := by cases i <;> rfl
  comparing := .of_none rfl rfl
  dated := .start (by simp) rfl

/-- The invariant survives what the outside does. -/
theorem outside (h : CompareInvariant s first others) (hsame : s.world.SameRecord w') :
    CompareInvariant { s with world := w' } first others where
  sweeps := h.sweeps
  works := h.works
  distinct := hsame.1.symm ▸ h.distinct
  hands := h.hands
  comparing := hsame.1.symm ▸ h.comparing
  dated := h.dated.mono rfl (fun _ x _ hx hdated => ⟨x, hx, hdated, rfl⟩) (List.Subset.refl _)

/-- The invariant survives a worker that joins. -/
theorem join (h : CompareInvariant s first others) {role : Role} (hrole : role.IsWorker) :
    CompareInvariant (s.join role) first (others ++ [(.ofRole role, .idle)]) where
  sweeps := h.sweeps
  works x hx := by
    rcases List.mem_append.mp hx with hx | hx
    · exact h.works x hx
    · obtain rfl := List.mem_singleton.mp hx
      exact hrole
  distinct := h.distinct
  hands := Scene.hands_join role h.hands
  comparing := by
    refine h.comparing.mono ?_
    rintro id ⟨τ, hτ, hkeeps⟩
    rw [List.map_append]
    exact ⟨τ, List.mem_append_left _ hτ, hkeeps⟩
  dated := by
    refine h.dated.mono rfl (fun i x p hx hdated => ⟨x, ?_, hdated, rfl⟩) (by simp)
    rcases Nat.lt_or_ge i (first :: others).length with hi | hi
    · rw [← List.cons_append, List.getElem?_append_left hi] at hx
      exact hx
    · rw [← List.cons_append, List.getElem?_append_right hi] at hx
      obtain rfl := List.mem_singleton.mp (List.mem_of_getElem? hx)
      cases hdated

/-- What a worker does that keeps what it has, and calls nothing, leaves all that holds. -/
theorem keep (h : CompareInvariant s first (before ++ (a, σ) :: after)) (hrole : b.role = a.role)
    (hledger : t.world.ledger = s.world.ledger) (hhistory : t.history = s.history)
    (hhands : ∀ j, t.hand j
      = (first :: (before ++ (b, σ') :: after))[j]?.bind fun x => x.1.role.hand x.2)
    (hkeeps : ∀ id, σ.Keeps id → σ'.Keeps id)
    (hdated : ∀ p, σ'.dated? = some p → σ.dated? = some p) :
    CompareInvariant t first (before ++ (b, σ') :: after) where
  sweeps := h.sweeps
  works := h.works_replace hrole
  distinct := hledger.symm ▸ h.distinct
  hands := hhands
  comparing := by
    rw [hledger, hhistory]
    refine h.comparing.mono ?_
    rintro id ⟨τ, hτ, hid⟩
    rw [List.map_append, List.map_cons] at hτ ⊢
    rcases mem_split.mp hτ with rfl | hτ
    · exact ⟨σ', mem_split.mpr (.inl rfl), hkeeps id hid⟩
    · exact ⟨τ, mem_split.mpr (.inr hτ), hid⟩
  dated := h.dated.replace (first :: before) hhistory hrole hdated

/-- The invariant survives a turn of any actor. -/
theorem turn {staff staff' : List (Actor × Stage)} {i : Nat}
    (h : CompareInvariant s first others) (hstaff : staff = first :: others)
    (hturn : Scene.Turn s i staff t staff') :
    ∃ first' others', staff' = first' :: others' ∧ CompareInvariant t first' others' := by
  have hhands := hturn.hands (hstaff ▸ h.hands)
  -- the sweeper is the first of the staff, so each turn is its own or that of another
  cases hturn with
  | none => exact ⟨first, others, hstaff, h⟩
  | @restart before after a σ hi hrest =>
    cases before with
    | nil =>
      obtain ⟨rfl, rfl⟩ := List.cons.inj hstaff
      exact ⟨_, _, rfl, h.sweeps, h.works, h.distinct, hhands, .of_none rfl rfl,
        h.dated.replace [] rfl rfl (by rintro _ ⟨⟩)⟩
    | cons y before =>
      obtain ⟨rfl, rfl⟩ := List.cons.inj hstaff
      refine ⟨_, _, rfl, h.keep rfl rfl rfl hhands ?_ (by rintro _ ⟨⟩)⟩
      rintro id ⟨hhand, -⟩
      cases hrest.hand.symm.trans hhand
  | @move before after a σ σ' c answer w' next hi htask hmove =>
    cases before with
    | nil =>
      obtain ⟨rfl, rfl⟩ := List.cons.inj hstaff
      obtain ⟨sw, hsw⟩ := h.sweeps
      have hnext : Stage.Next (.sweeper sw) σ c answer σ' := hsw ▸ hmove.next
      subst hi
      refine ⟨_, _, rfl, h.sweeps, h.works, hmove.effect.distinct h.distinct, hhands,
        h.comparing.sweep hnext hmove.effect h.distinct,
        h.dated.move [] rfl ?_ hmove.next rfl hhands⟩
      intro d hd
      cases hsw.symm.trans hd
    | cons y before =>
      obtain ⟨rfl, rfl⟩ : y = first ∧ before ++ (a, σ) :: after = others := List.cons.inj hstaff
      obtain ⟨worker, hworker⟩ := h.works (a, σ) (mem_split.mpr (.inl rfl))
      have hworks : Stage.Move (.worker worker) σ s.world c answer σ' w' := hworker ▸ hmove
      have hne : i ≠ 0 := by
        rw [hi]
        exact Nat.succ_ne_zero _
      refine ⟨y, before ++ (_, σ') :: after, rfl, h.sweeps, h.works_replace rfl,
        hmove.effect.distinct h.distinct, hhands, ?_,
        h.dated.move (y :: before) rfl ?_ hmove.next (by rw [hi]) hhands⟩
      · show Comparing w'.ledger (_ :: s.history) y.2 ((before ++ (_, σ') :: after).map Prod.snd)
        have hcomparing := h.comparing
        rw [List.map_append, List.map_cons] at hcomparing ⊢
        exact hcomparing.work hworks hne
      · intro d hd
        cases hworker.symm.trans hd
  | @unanswered before after a σ c w' hi hperform =>
    have hledger : w'.ledger = s.world.ledger := World.ledger_of_unanswered hperform
    cases before with
    | nil =>
      obtain ⟨rfl, rfl⟩ := List.cons.inj hstaff
      exact ⟨_, _, rfl, h.sweeps, h.works, hledger.symm ▸ h.distinct, hhands,
        hledger.symm ▸ h.comparing, h.dated.replace [] rfl rfl fun _ hp => hp⟩
    | cons y before =>
      obtain ⟨rfl, rfl⟩ := List.cons.inj hstaff
      exact ⟨_, _, rfl, h.keep rfl hledger rfl hhands (fun _ hid => hid) fun _ hp => hp⟩

end CompareInvariant

/-- The invariant holds wherever a sweep and workers lead. -/
theorem Scene.Reachable.comparing {w : World} {sw : SweepSettings} {s : Scene}
    (hdistinct : (w.store.messages.map (·.id)).Nodup)
    (hreachable : Reachable Role.IsWorker World.SameRecord (.ofSweeper w sw) s) :
    ∃ first others, Staffed s (first :: others) ∧ CompareInvariant s first others := by
  have hinvariant : ∃ staff, Staffed s staff
      ∧ ∃ first others, staff = first :: others ∧ CompareInvariant s first others := by
    refine hreachable.staffed
      (I := fun s staff => ∃ first others, staff = first :: others
        ∧ CompareInvariant s first others) (.ofSweeper w sw)
      ⟨_, _, rfl, .start hdistinct sw⟩ ?_ ?_ ?_
    · rintro s i staff t staff' - ⟨first, others, hstaff, hinvariant⟩ hturn -
      exact hinvariant.turn hstaff hturn
    · rintro s role _ ⟨first, others, rfl, hinvariant⟩ hrole
      exact ⟨first, _, rfl, hinvariant.join hrole⟩
    · rintro s w' _ ⟨first, others, hstaff, hinvariant⟩ hsame
      exact ⟨first, others, hstaff, hinvariant.outside hsame⟩
  obtain ⟨staff, hstaffed, first, others, rfl, hinvariant⟩ := hinvariant
  exact ⟨first, others, hstaffed, hinvariant⟩

-- ---------------------------------------------------------------------------
-- What the comparison says
-- ---------------------------------------------------------------------------

section Comparison

variable {ids : Nat → MessageId} {k k' : Ledger} {role : Role} {σ σ' : Stage} {id : MessageId}
  {due : Instant} {h : List (Nat × Moment)} {s : Scene} {staff : List (Actor × Stage)}

theorem Stage.Next.pushed_of_requeue {answer : Except StoreError Bool}
    (hnext : Next role σ (.requeueMessage id due) answer σ') : σ.pushed? = some (id, due) := by
  cases hnext
  rfl

/-- A message is marked exactly if it waits for the due time that it is compared with. -/
theorem Effect.requeued_iff {b : Bool} (heffect : Effect ids k (.requeueMessage id due) (.ok b) k')
    (hstands : Stands k id due h) : b = true ↔ Untouched id h ∨ ParkedLast id due h := by
  obtain ⟨n, hn, hiff⟩ := hstands
  rw [← hiff]
  cases heffect with
  | quiet hquiet => obtain ⟨_, ⟨⟩⟩ := hquiet
  | requeue now hget hretry hdue =>
    obtain rfl := Option.some.inj (hget.symm.trans hn)
    exact ⟨fun _ => ⟨hretry, hdue⟩, fun _ => rfl⟩
  | keep hkeep => exact ⟨by rintro ⟨⟩, fun hwaits => absurd hwaits.2 (hkeep n hn hwaits.1)⟩

theorem Effect.entries_of_requeue {answer : Except StoreError Bool}
    (heffect : Effect ids k (.requeueMessage id due) answer k') : k'.entries = k.entries := by
  cases heffect <;> rfl

/-- Nobody comes to have another thing in hand by what others do. -/
theorem Scene.hand_act_of_ne {i j : Nat} (hne : i ≠ j) : (s.act i).hand j = s.hand j := by
  rw [act]
  cases s.actors[i]? with
  | none => rfl
  | some a =>
    show Scene.hand { world := _, actors := _, history := _ } j = _
    cases a.task.moment? s.world with
    | none => rfl
    | some x => exact (hand_cons s _ _ i j x).trans (if_neg hne)

end Comparison

/-- A sweep that compares has found the message due when it asked last. It finds it waiting for that
due time, and marks it, exactly if nobody has written it since, or who wrote it last has parked it
until the very same time. Where due times advance, that does not happen. And a message that nobody
has written since is in the queue or in a hand when it is marked, unless the store has failed. -/
theorem Scene.compare_and_set {w : World} {sw : SweepSettings} {s : Scene} {id : MessageId}
    {due : Instant} (hdistinct : (w.store.messages.map (·.id)).Nodup)
    (hreachable : Reachable Role.IsWorker World.SameRecord (.ofSweeper w sw) s)
    (hnext : s.next? 0 = some (.requeueMessage id due)) :
    FoundDue id due s.history
    ∧ (∀ b, (s.world.perform (.requeueMessage id due)).1 = some (.ok b) →
      (b = true ↔
        Untouched id (sinceQuery s.history) ∨ ParkedLast id due (sinceQuery s.history)))
    ∧ (s.Advances id → ¬ ParkedLast id due (sinceQuery s.history))
    ∧ ((∀ p ∈ sinceQuery s.history, p.2.world.Reliable) → Untouched id (sinceQuery s.history) →
      (s.act 0).world.ledger.Queues id ∨ ∃ i, (s.act 0).hand i = some id) := by
  obtain ⟨first, others, hstaffed, hinvariant⟩ := hreachable.comparing hdistinct
  obtain ⟨a, σ, σ', hactor, hmove⟩ := hstaffed.next hnext (.ok true)
  obtain rfl : first = (a, σ) := Option.some.inj hactor
  -- the call names the message that the sweep has pushed last
  have hpushed := hmove.pushed_of_requeue
  obtain ⟨hfound, hstands⟩ := hinvariant.comparing.due id due (.inl hpushed)
  refine ⟨hfound, fun b hanswer => ?_, fun hadvances => ?_, fun hreliable huntouched => ?_⟩
  · rcases hperform : s.world.perform (.requeueMessage id due) with ⟨answer, w'⟩
    rw [hperform] at hanswer
    obtain rfl : answer = some (.ok b) := hanswer
    exact (World.effect_of_perform hperform).requeued_iff hstands
  · exact hinvariant.dated.not_parkedLast hstaffed hadvances hfound
  · rcases hinvariant.comparing.kept id due hpushed hreliable huntouched with hqueues | hkept
    · left
      rw [world_act hnext]
      rcases hperform : s.world.perform (.requeueMessage id due) with ⟨_ | answer, w'⟩
      · rw [World.ledger_of_unanswered hperform]
        exact hqueues
      · refine hqueues.mono ?_
        rw [(World.effect_of_perform hperform).entries_of_requeue]
        exact List.Subset.refl _
    · right
      obtain ⟨τ, hτ, hhand, -⟩ := hkept
      obtain ⟨x, hx, rfl⟩ := List.mem_map.mp hτ
      obtain ⟨i, hi⟩ := List.mem_iff_getElem?.mp hx
      obtain ⟨worker, hworker⟩ := hinvariant.works x hx
      refine ⟨i + 1, ?_⟩
      rw [hand_act_of_ne (Nat.succ_ne_zero i).symm, hinvariant.hands, List.getElem?_cons_succ, hi,
        Option.bind_some, hworker]
      exact hhand

-- A message is overdue. The sweep has found and pushed it, and a worker has taken it.

/-- A thousand seconds after the beginning, a message waits for the second 1. -/
def World.overdue : World :=
  { World.parked with
    clock := .start .zero (.ofInstant ((Instant.of? 1000 0).getD .epoch)) }

/-- The sweep is about to compare, and a worker has loaded the message. -/
def Scene.taken : Scene :=
  ((Scene.ofSweeper .overdue {}).join (.worker .plain)).acts [0, 0, 0, 1, 1]

/-- What a call compares with what. -/
def Call.compares? : Call → Option (MessageId × Instant)
  | .requeueMessage id due => some (id, due)
  | _ => none

/-- The call that compares is `requeue_message`. -/
theorem Call.eq_of_compares {c : Call} {id : MessageId} {due : Instant}
    (h : c.compares? = some (id, due)) : c = .requeueMessage id due := by
  cases c with
  | requeueMessage id' due' =>
    obtain ⟨rfl, rfl⟩ := Prod.mk.inj (Option.some.inj h)
    rfl
  | _ => cases h

/-- An actor about to compare is about to call `requeue_message`. -/
theorem Scene.next_of_compares {s : Scene} {id : MessageId} {due : Instant}
    (h : (s.next? 0).bind Call.compares? = some (id, due)) :
    s.next? 0 = some (.requeueMessage id due) := by
  obtain ⟨c, hc, hcompares⟩ := Option.bind_eq_some_iff.mp h
  rw [hc, Call.eq_of_compares hcompares]

/-- Who has made no call has nothing in hand. -/
theorem Scene.hand_of_absent {s : Scene} {i : Nat} (h : ∀ p ∈ s.history, p.1 ≠ i) :
    s.hand i = none := by
  have hcalls : s.calls i = [] := by
    rw [calls, List.filterMap_eq_nil_iff]
    exact fun p hp => if_neg (h p hp)
  rw [hand, hcalls]
  rfl

/-- Actors keep their roles. -/
theorem Scene.roles_acts (s : Scene) (turns : List Nat) :
    (s.acts turns).actors.map (·.role) = s.actors.map (·.role) := by
  have hact : ∀ (s : Scene) (i : Nat), (s.act i).actors.map (·.role) = s.actors.map (·.role) := by
    intro s i
    rw [act]
    cases hactor : s.actors[i]? with
    | none => rfl
    | some a =>
      have hrole : (a.act s.world).1.role = a.role := by
        rw [Actor.act]
        split
        · split <;> rfl
        · rfl
      obtain ⟨hlt, hget⟩ := List.getElem?_eq_some_iff.mp hactor
      show (s.actors.set i (a.act s.world).1).map (·.role) = _
      rw [List.map_set, hrole, ← hget, ← List.map_set, List.set_getElem_self]
  -- on the turns, of which each keeps all roles
  induction turns generalizing s with
  | nil => rfl
  | cons i rest ih => exact (ih (s.act i)).trans (hact s i)

/-- The policy of a plain worker waits, nobody has the message in hand when the sweep asks, and no
time is read after that. -/
theorem Scene.advances_taken : Scene.taken.Advances Message.toLoopback.id where
  waits a ha worker hworker := by
    have hmem : a.role ∈ Scene.taken.actors.map (·.role) := List.mem_map_of_mem ha
    rw [taken, roles_acts, hworker] at hmem
    have hrole : Role.worker worker ∈ [.sweeper {}, .worker .plain] := hmem
    have hplain := (List.mem_cons.mp hrole).resolve_left (by rintro ⟨⟩)
    obtain rfl := Role.worker.inj (List.mem_singleton.mp hplain)
    exact Retry.Policy.waits_of_jitter_le (by decide +kernel) (by decide) (by decide)
  readings asked hasked p hp now hnow := by
    have hnone : (sinceQuery Scene.taken.history).all (·.2.reading? = none) = true := by
      decide +kernel
    have := of_decide_eq_true (List.all_eq_true.mp hnone p hp)
    cases this.symm.trans hnow
  free i := by
    have hfirst : Scene.taken.atQuery.history.all (·.1 = 0) = true := by decide +kernel
    rcases Nat.eq_zero_or_pos i with rfl | hpos
    · decide +kernel
    · rw [hand_of_absent]
      · rintro ⟨⟩
      · intro p hp
        have hp0 : p.1 = 0 := of_decide_eq_true (List.all_eq_true.mp hfirst p hp)
        omega

/-- The message can be taken and failed while the sweeper holds its entry. -/
theorem Scene.reachable_taken :
    Reachable Role.IsWorker World.SameRecord (.ofSweeper .overdue {}) .taken :=
  (Reachable.refl.step (.join (.ofSweeper .overdue {}) (.worker .plain) ⟨_, rfl⟩)).trans
    (reachable_acts _ _ _ _)

/-- There the sweep is to compare a due time that has not come back; it marks the message, and the
worker has it in hand. -/
theorem Scene.compare_and_set_taken : ∃ id due,
    Scene.taken.next? 0 = some (.requeueMessage id due)
    ∧ FoundDue id due Scene.taken.history
    ∧ (Scene.taken.world.perform (.requeueMessage id due)).1 = some (.ok true)
    ∧ ¬ ParkedLast id due (sinceQuery Scene.taken.history)
    ∧ ((Scene.taken.act 0).world.ledger.Queues id ∨ ∃ i, (Scene.taken.act 0).hand i = some id) := by
  let due : Instant := ⟨1, 0, by decide, by decide, by decide⟩
  have hnext : Scene.taken.next? 0 = some (.requeueMessage Message.toLoopback.id due) :=
    next_of_compares (by decide +kernel)
  obtain ⟨hfound, hiff, hback, hkept⟩ :=
    Scene.compare_and_set (by decide +kernel) reachable_taken hnext
  have huntouched : Untouched Message.toLoopback.id (sinceQuery Scene.taken.history) := by
    decide +kernel
  refine ⟨_, _, hnext, hfound, ?_, hback advances_taken, hkept (by decide +kernel) huntouched⟩
  have hreliable : Scene.taken.world.Reliable := by decide +kernel
  obtain ⟨b, hb⟩ := hreliable.requeue Message.toLoopback.id due
  rw [hb, (hiff b hb).mpr (.inl huntouched)]

-- ---------------------------------------------------------------------------
-- A due time that comes back
-- ---------------------------------------------------------------------------

-- Where no wait is set, an attempt is due again at the time at which it has failed. The sweep finds
-- the message and pushes it; a worker takes it, makes the next attempt and parks it for the same
-- time, as long as the clock still shows it; and the sweep finds nothing changed and marks it.

/-- Whether a role is a worker whose policy comes from settings that have no problem. -/
def Role.Configured (role : Role) : Prop :=
  ∃ (worker : Worker) (settings : Settings), role = .worker worker
    ∧ worker.policy = settings.retry ∧ settings.problem? = none

/-- Settings by which a failed attempt is to be made again at once. -/
def Settings.impatient : Settings :=
  { retryBaseDelayMs := 0 }

/-- A worker that waits as these settings say. -/
def Worker.impatient : Worker :=
  { Worker.plain with policy := Settings.impatient.retry }

/-- The worker has made one attempt, and the next is due. -/
def World.dueAtOnce : World :=
  ((Role.worker .impatient).round.run .submitted).2

/-- The sweep has pushed the message, and the worker has made the next attempt and parked it. -/
def Scene.overwriting : Scene :=
  ((Scene.ofSweeper .dueAtOnce {}).join (.worker .impatient)).acts
    [0, 0, 0, 1, 1, 1, 1, 1, 1, 1, 1, 1]

/-- The status can be about to be written over a message that has failed anew. -/
theorem Scene.reachable_overwriting :
    Reachable Role.Configured World.SameRecord (.ofSweeper .dueAtOnce {}) .overwriting := by
  have hproblem : Settings.impatient.problem? = none := by decide +kernel
  refine (Reachable.refl.step (.join (.ofSweeper .dueAtOnce {}) (.worker .impatient) ?_)).trans
    (reachable_acts _ _ _ _)
  exact ⟨.impatient, .impatient, rfl, rfl, hproblem⟩

/-- A sweep may mark a message although a worker has written it since, and so leave one pending that
is neither in the queue nor in a hand. -/
theorem Scene.compare_and_set_overwrites : ¬ ∀ (w : World) (sw : SweepSettings) (s : Scene)
    (id : MessageId) (due : Instant), (w.store.messages.map (·.id)).Nodup →
    Reachable Role.Configured World.SameRecord (.ofSweeper w sw) s →
    s.next? 0 = some (.requeueMessage id due) →
    (s.world.perform (.requeueMessage id due)).1 = some (.ok true) →
    Untouched id (sinceQuery s.history)
      ∨ (s.act 0).world.ledger.Queues id ∨ ∃ i, (s.act 0).hand i = some id := by
  intro hall
  -- the call succeeds though the message was written since the query
  have hanswer : ((Scene.overwriting.world.perform
      (.requeueMessage Message.toLoopback.id .epoch)).1.bind (·.toOption)) = some true := by
    decide +kernel
  obtain ⟨_ | b, hb, hb'⟩ := Option.bind_eq_some_iff.mp hanswer
  · cases hb'
  obtain rfl : b = true := Option.some.inj hb'
  rcases hall .dueAtOnce {} .overwriting Message.toLoopback.id .epoch (by decide +kernel)
    reachable_overwriting (next_of_compares (by decide +kernel)) hb
    with huntouched | hqueues | hhand
  · revert huntouched
    decide +kernel
  · -- the worker has taken the only entry
    obtain ⟨entry, hentry, -⟩ := hqueues
    have hempty : (Scene.overwriting.act 0).world.ledger.entries = [] := by decide +kernel
    rw [hempty] at hentry
    cases hentry
  · obtain ⟨i, hi⟩ := hhand
    have htwo : (Scene.overwriting.act 0).history.all (·.1 < 2) = true := by decide +kernel
    rcases Nat.lt_or_ge i 2 with hlt | hge
    · have hnone : ∀ i < 2, (Scene.overwriting.act 0).hand i = none := by decide +kernel
      cases (hnone i hlt).symm.trans hi
    · rw [hand_of_absent] at hi
      · cases hi
      · intro p hp
        have := of_decide_eq_true (List.all_eq_true.mp htwo p hp)
        omega

end WebhookDelivery
