import WebhookDelivery.Proofs.Lifecycle
import WebhookDelivery.Proofs.Tally

/-!
# The audit trail

An attempt is recorded before its message is written back, so that no crash between the two loses
the trace of a request. Whatever is counted is therefore on record at any time: not only when a
delivery is over, and not only if a message is in one hand alone. Overlapping workers may write
their copies back in any order, and the copy that is written last may count less than the stored
message did; but no copy ever counts more than is on record, and the record only grows.

So the invariant is about the stored messages and about the copies that rounds work on:
`Stage.claim?` is the count that a round may write back.

* `Scene.audit_trail` — in every reachable scene every attempt that is counted is on record, every
  record is well formed, and all records are there ever after.
-/

namespace WebhookDelivery

-- ---------------------------------------------------------------------------
-- What is on record
-- ---------------------------------------------------------------------------

/-- Whether a message has an attempt on record under every number up to this one. -/
def Ledger.Covers (k : Ledger) (id : MessageId) (n : Int) : Prop :=
  ∀ j, 1 ≤ j → j ≤ n → ∃ a ∈ k.attempts, a.messageId = id ∧ a.number.value = j

/-- Whether an attempt shows either a status code or a failure, and a body only with a code. -/
def Attempt.Proper (a : Attempt) : Prop :=
  a.isWellFormed = true ∧ (a.responseBody.isSome = true → a.statusCode.isSome = true)

/-- Every attempt is proper as it goes on record. -/
theorem NewAttempt.proper_record (a : NewAttempt) (id : Uuid) : (a.record id).Proper := by
  refine ⟨a.isWellFormed_record id, ?_⟩
  obtain ⟨_, _, result, _, _⟩ := a
  cases result with
  | response => exact fun _ => rfl
  | error => rintro ⟨⟩

/-- What is covered stays covered when attempts are added, and under a smaller count. -/
theorem Ledger.Covers.mono {k k' : Ledger} {id : MessageId} {n n' : Int} (h : k.Covers id n)
    (hattempts : k.attempts ⊆ k'.attempts) (hle : n' ≤ n) : k'.Covers id n' := by
  intro j hj hjn
  obtain ⟨a, ha, haid, hanumber⟩ := h j hj (Int.le_trans hjn hle)
  exact ⟨a, hattempts ha, haid, hanumber⟩

theorem Ledger.covers_zero (k : Ledger) (id : MessageId) : k.Covers id Count.zero.value := by
  intro j hj hle
  have : Count.zero.value = 0 := rfl
  omega

/-- An attempt on a copy is recorded under the number that the copy will count next. -/
theorem Ledger.Covers.next {k k' : Ledger} {m : Message} {report : Report} {now : Instant}
    {u : Uuid} (h : k.Covers m.id m.attemptCount.value)
    (hattempts : k'.attempts = k.attempts ++ [(m.attempt report now).record u]) :
    k'.Covers m.id m.attemptCount.next.value := by
  intro j hj hle
  by_cases hold : j ≤ m.attemptCount.value
  · exact h.mono (by rw [hattempts]; exact List.subset_append_left _ _) (Int.le_refl _) j hj hold
  · refine ⟨(m.attempt report now).record u, ?_, rfl, ?_⟩
    · rw [hattempts]
      exact List.mem_append_right _ List.mem_cons_self
    · show m.attemptCount.next.value = j
      rw [Count.value_next] at hle ⊢
      omega

-- ---------------------------------------------------------------------------
-- What a call does to the record
-- ---------------------------------------------------------------------------

section Step

attribute [local irreducible] MessageId.text

variable {ids : Nat → MessageId} {k k' : Ledger} {role : Role} {σ σ' : Stage} {c : Call}
  {answer : c.Answer}

/-- No call takes a recorded attempt away or changes one. -/
theorem Effect.attempts_extended (h : Effect ids k c answer k') : k.attempts <+: k'.attempts := by
  cases h with
  | record => exact List.prefix_append _ _
  | create | setStatus | update | requeue | quiet | find | due | pending | keep | push | pop
  | contains => exact List.prefix_refl _

/-- Every call leaves proper attempts only. -/
theorem Effect.proper (h : Effect ids k c answer k') (hproper : ∀ a ∈ k.attempts, a.Proper) :
    ∀ a ∈ k'.attempts, a.Proper := by
  cases h with
  | record n u =>
    intro a ha
    rcases List.mem_append.mp ha with ha | ha
    · exact hproper a ha
    · obtain rfl := List.mem_singleton.mp ha
      exact n.proper_record u
  | create | setStatus | update | requeue | quiet | find | due | pending | keep | push | pop
  | contains => exact hproper

/-- Whether something is stored under an identifier. -/
def Ledger.Stores (k : Ledger) (id : MessageId) : Prop :=
  ∃ m, k.get? id = some m

/-- A stored message stays stored when another is written. -/
theorem Ledger.Stores.put {id : MessageId} (h : k.Stores id) (m : Message) :
    (k.put m).Stores id := by
  rw [Stores, get?_put]
  split
  · exact ⟨m, rfl⟩
  · exact h

/-- What is stored under an identifier may be replaced, but is never removed. -/
theorem Effect.stores (h : Effect ids k c answer k') {id : MessageId} (hstores : k.Stores id) :
    k'.Stores id := by
  cases h with
  | create | setStatus | update | requeue => exact hstores.put _
  | quiet | find | due | pending | keep | record | push | pop | contains => exact hstores

-- ---------------------------------------------------------------------------
-- What a round may write back
-- ---------------------------------------------------------------------------

/-- The message that a round has a copy of, and the count that it may write back. -/
def Stage.claim? : Stage → Option (MessageId × Count)
  | .recorded _ m _ _ => some (m.id, m.attemptCount.next)
  | σ => σ.copy?.map fun m => (m.id, m.attemptCount)

/-- What holds of a round: the message that it works on is stored, what it may write back is on
record, and what its request came to can be recorded. -/
structure Stage.Traced (k : Ledger) (σ : Stage) : Prop where
  claim : ∀ id count, σ.claim? = some (id, count) → k.Stores id ∧ k.Covers id count.value
  report : ∀ report, σ.report? = some report → report.Genuine

/-- A round without a copy of a message has nothing to account for. -/
theorem Stage.Traced.of_none (h : σ.copy? = none) : σ.Traced k where
  claim id count hclaim := by
    cases σ with
    | idle | popped | troubled | pausing | sweeping | pushed | recovering | absent => cases hclaim
    | loaded | answered | timed | recorded | accepted | refused | deferring => cases h
  report report hreport := by
    rw [report_of_copy h] at hreport
    cases hreport

/-- A round stays traced as long as nothing is taken away. -/
theorem Stage.Traced.mono (h : σ.Traced k) (hstores : ∀ id, k.Stores id → k'.Stores id)
    (hattempts : k.attempts ⊆ k'.attempts) : σ.Traced k' where
  claim id count hclaim := by
    obtain ⟨hstored, hcovers⟩ := h.claim id count hclaim
    exact ⟨hstores id hstored, hcovers.mono hattempts (Int.le_refl _)⟩
  report := h.report

/-- A round that goes on with its copy, with nothing changed on record. -/
theorem Stage.Traced.goes_on (h : σ.Traced k) (hclaim : σ'.claim? = σ.claim?)
    (hreport : ∀ report, σ'.report? = some report → report.Genuine) : σ'.Traced k where
  claim id count hsome := h.claim id count (hclaim ▸ hsome)
  report := hreport

/-- A round is traced after each of its moves. -/
theorem Stage.Next.traced (hnext : Next role σ c answer σ') (heffect : Effect ids k c answer k')
    (hcall : c.LeavesTrace k answer)
    (hcovered : ∀ m ∈ k.messages, k.Covers m.id m.attemptCount.value)
    (htraced : σ.Traced k) : σ'.Traced k' := by
  -- only recording and loading change what a round may write back
  cases hnext with
  | note | secret | signingTime | draw | refuse | deferTime =>
    cases heffect with
    | quiet => exact htraced.goes_on rfl htraced.report
  | time =>
    cases heffect with
    | quiet => exact htraced.goes_on rfl htraced.report
  | send =>
    cases heffect with
    | quiet =>
      refine htraced.goes_on rfl fun report hreport => ?_
      obtain rfl := Option.some.inj hreport
      exact hcall
  | @record _ entry m report now =>
    obtain ⟨hstores, hcovers⟩ := htraced.claim m.id m.attemptCount rfl
    obtain ⟨r, rfl⟩ := hcall (htraced.report report rfl).body hstores
    cases heffect with
    | quiet hquiet => obtain ⟨_, ⟨⟩⟩ := hquiet
    | record =>
      refine ⟨fun id count hclaim => ?_, htraced.report⟩
      obtain ⟨rfl, rfl⟩ := Prod.mk.inj (Option.some.inj hclaim)
      exact ⟨hstores, hcovers.next rfl⟩
  | load =>
    cases heffect with
    | quiet hquiet => obtain ⟨_, ⟨⟩⟩ := hquiet
    | find hget =>
      refine ⟨fun id count hclaim => ?_, by rintro _ ⟨⟩⟩
      obtain ⟨rfl, rfl⟩ := Prod.mk.inj (Option.some.inj hclaim)
      exact ⟨⟨_, by rw [Ledger.id_of_get? hget]; exact hget⟩, hcovered _ (Ledger.mem_of_get? hget)⟩
  | create =>
    cases heffect with
    | quiet hquiet => obtain ⟨_, ⟨⟩⟩ := hquiet
    | create d now =>
      refine ⟨fun id count hclaim => ?_, by rintro _ ⟨⟩⟩
      obtain ⟨rfl, rfl⟩ := Prod.mk.inj (Option.some.inj hclaim)
      exact ⟨⟨_, Ledger.get?_put_self k _⟩, Ledger.covers_zero _ _⟩
  | loadFailed | writeFailed | rejectFailed => exact .of_none (Stage.copy_afterFailure _ _ _)
  | _ => exact .of_none rfl

/-- A worker writes back the count it has read, or the next one. -/
theorem Worker.Settles.count_le_next {w : Worker} {m m' : Message} {now : Instant}
    {outcome : Outcome} (h : w.Settles m now outcome m') :
    m'.attemptCount.value ≤ m.attemptCount.next.value := by
  cases h with
  | delivered => exact Int.le_refl _
  | @failed _ _ decision =>
    cases decision with
    | retry => exact Int.le_refl _
    | giveUp => exact m.attemptCount.le_next

/-- What a round writes back counts no more than it may. -/
theorem Stage.Next.claim_of_update {m : Message} {answer : Except StoreError Unit}
    (hnext : Next role σ (.updateMessage m) answer σ') :
    ∃ count, σ.claim? = some (m.id, count) ∧ m.attemptCount.value ≤ count.value := by
  cases hnext with
  | write hsettles => exact ⟨_, by rw [hsettles.id_eq]; rfl, hsettles.count_le_next⟩
  | writeFailed hsettles => exact ⟨_, by rw [hsettles.id_eq]; rfl, hsettles.count_le_next⟩
  | defer => exact ⟨_, rfl, Int.le_refl _⟩

/-- A move leaves every stored message covered. -/
theorem Stage.Next.covered (hnext : Next role σ c answer σ') (heffect : Effect ids k c answer k')
    (htraced : σ.Traced k) (hcovered : ∀ m ∈ k.messages, k.Covers m.id m.attemptCount.value) :
    ∀ m ∈ k'.messages, k'.Covers m.id m.attemptCount.value := by
  -- Whatever is written is covered: it counts what a stored message counts, or what is claimed.
  have hput : ∀ n : Message, k.Covers n.id n.attemptCount.value →
      ∀ m ∈ (k.put n).messages, k.Covers m.id m.attemptCount.value := by
    intro n hn m hm
    rcases Ledger.mem_put hm with rfl | hm
    · exact hn
    · exact hcovered m hm
  cases heffect with
  | create d now => exact hput _ (Ledger.covers_zero _ _)
  | @setStatus _ _ m _ _ hget hset =>
    obtain rfl := Message.eq_of_setStatus hset
    exact hput _ (hcovered m (Ledger.mem_of_get? hget))
  | @requeue _ _ m now hget => exact hput _ (hcovered m (Ledger.mem_of_get? hget))
  | @update stored m hget =>
    -- the count that is written back is at most the one that the round may claim
    obtain ⟨count, hclaim, hle⟩ := hnext.claim_of_update
    obtain ⟨-, hcovers⟩ := htraced.claim _ _ hclaim
    refine hput _ ?_
    show k.Covers stored.id m.attemptCount.value
    rw [Ledger.id_of_get? hget]
    exact hcovers.mono (List.Subset.refl _) hle
  | record =>
    exact fun m hm => (hcovered m hm).mono (List.subset_append_left _ _) (Int.le_refl _)
  | quiet | find | due | pending | keep | push | pop | contains => exact hcovered

end Step

-- ---------------------------------------------------------------------------
-- The invariant
-- ---------------------------------------------------------------------------

/-- The outside may change anything but the stored messages and the recorded attempts, and makes no
write of an attempt fail. -/
structure World.LeavesTrail (w w' : World) : Prop where
  messages : w'.ledger.messages = w.ledger.messages
  attempts : w'.ledger.attempts = w.ledger.attempts
  records : w'.RecordsAttempts

namespace World.LeavesTrail

variable {w w' : World}

theorem subset (h : w.LeavesTrail w') : w.ledger.attempts ⊆ w'.ledger.attempts := by
  rw [h.attempts]
  exact List.Subset.refl _

theorem stores (h : w.LeavesTrail w') {id : MessageId} (hstores : w.ledger.Stores id) :
    w'.ledger.Stores id := by
  rwa [Ledger.Stores, Ledger.get?, h.messages]

end World.LeavesTrail

/-- What holds of a scene and its staff. -/
structure AuditInvariant (s : Scene) (staff : List (Actor × Stage)) : Prop where
  records : s.world.RecordsAttempts
  proper : ∀ a ∈ s.world.ledger.attempts, a.Proper
  covered : ∀ m ∈ s.world.ledger.messages, s.world.ledger.Covers m.id m.attemptCount.value
  traced : ∀ x ∈ staff, x.2.Traced s.world.ledger

namespace AuditInvariant

variable {s t : Scene} {staff before after : List (Actor × Stage)} {x y : Actor × Stage}

/-- The invariant holds of an empty scene. -/
theorem start {w : World} (hempty : w.Empty) (hrecords : w.RecordsAttempts) :
    AuditInvariant { world := w } [] where
  records := hrecords
  proper a ha := by
    rw [show w.ledger.attempts = [] from hempty.attempts] at ha
    exact absurd ha List.not_mem_nil
  covered m hm := by
    rw [show w.ledger.messages = [] from hempty.messages] at hm
    exact absurd hm List.not_mem_nil
  traced _ hx := absurd hx List.not_mem_nil

/-- The invariant survives what the outside does. -/
theorem outside {w' : World} (h : AuditInvariant s staff) (hleaves : s.world.LeavesTrail w') :
    AuditInvariant { s with world := w' } staff where
  records := hleaves.records
  proper a ha := h.proper a (hleaves.attempts ▸ ha)
  covered m hm := (h.covered m (hleaves.messages ▸ hm)).mono hleaves.subset (Int.le_refl _)
  traced x hx := (h.traced x hx).mono (fun _ => hleaves.stores) hleaves.subset

/-- An actor whose round stays traced may be exchanged for another. -/
theorem replace (h : AuditInvariant s (before ++ x :: after)) (actors : List Actor)
    (hy : y.2.Traced s.world.ledger) : AuditInvariant { s with actors } (before ++ y :: after) where
  records := h.records
  proper := h.proper
  covered := h.covered
  traced z hz := by
    rcases mem_split.mp hz with rfl | hz
    · exact hy
    · exact h.traced z (mem_split.mpr (.inr hz))

/-- An actor that joins has nothing to account for. -/
theorem join (h : AuditInvariant s staff) (role : Role) :
    AuditInvariant (s.join role) (staff ++ [(.ofRole role, .idle)]) where
  records := h.records
  proper := h.proper
  covered := h.covered
  traced z hz := by
    rcases List.mem_append.mp hz with hz | hz
    · exact h.traced z hz
    · obtain rfl := List.mem_singleton.mp hz
      exact .of_none rfl

/-- The invariant survives a move of an actor. -/
theorem move {a b : Actor} {σ σ' : Stage} {c : Call} {answer : c.Answer} {w' : World}
    (h : AuditInvariant s (before ++ (a, σ) :: after))
    (hmove : Stage.Move a.role σ s.world c answer σ' w') (actors : List Actor)
    (history : List (Nat × Moment)) :
    AuditInvariant { world := w', actors, history } (before ++ (b, σ') :: after) := by
  have heffect := hmove.effect
  have htraced := h.traced (a, σ) (mem_split.mpr (.inl rfl))
  refine ⟨h.records.of_kept hmove.kept, heffect.proper h.proper,
    hmove.next.covered heffect htraced h.covered, fun z hz => ?_⟩
  rcases mem_split.mp hz with rfl | hz
  · exact hmove.next.traced heffect (h.records.leavesTrace hmove.performed) h.covered htraced
  · exact (h.traced z (mem_split.mpr (.inr hz))).mono (fun _ => heffect.stores)
      heffect.attempts_extended.subset

/-- The invariant survives a turn of any actor, be it a move, a new round or a panic. -/
theorem turn {i : Nat} {staff' : List (Actor × Stage)} (h : AuditInvariant s staff)
    (hturn : Scene.Turn s i staff t staff') : AuditInvariant t staff' := by
  cases hturn with
  | none => exact h
  | restart => exact h.replace _ (.of_none rfl)
  | move next hi htask hmove => exact h.move hmove _ _
  | @unanswered before after a σ c w' hi hperform =>
    have hledger := World.ledger_of_unanswered hperform
    have hkept := s.world.kept_perform c
    rw [hperform] at hkept
    have hsame := h.outside ⟨congrArg Ledger.messages hledger, congrArg Ledger.attempts hledger,
      h.records.of_kept hkept⟩
    exact hsame.replace _ (hsame.traced (a, σ) (mem_split.mpr (.inl rfl)))

end AuditInvariant

/-- Every scene that an empty one leads to satisfies the invariant. -/
theorem Scene.Reachable.audit {w : World} {s : Scene} (hempty : w.Empty)
    (hrecords : w.RecordsAttempts)
    (hreachable : Reachable (fun _ => True) World.LeavesTrail { world := w } s) :
    ∃ staff, Staffed s staff ∧ AuditInvariant s staff := by
  refine hreachable.staffed (I := AuditInvariant) (.nil w) (.start hempty hrecords) ?_ ?_ ?_
  · exact fun s i staff t staff' _ hinvariant hturn _ => hinvariant.turn hturn
  · exact fun s role staff hinvariant _ => hinvariant.join role
  · exact fun s w' staff hinvariant hleaves => hinvariant.outside hleaves

-- ---------------------------------------------------------------------------
-- The record ever after
-- ---------------------------------------------------------------------------

/-- No step takes an attempt away or changes one. -/
theorem Scene.Step.attempts_extended {roles : Role → Prop} {s t : Scene}
    (hstep : Step roles World.LeavesTrail s t) :
    s.world.ledger.attempts <+: t.world.ledger.attempts := by
  cases hstep with
  | act i =>
    rw [Scene.act]
    split
    · rename_i a _
      show s.world.ledger.attempts <+: (a.act s.world).2.ledger.attempts
      -- a turn without a call changes nothing; a call has an effect, or breaks down
      rcases act_cases a s.world with ⟨hact, -⟩ | ⟨-, hact, -⟩
        | ⟨_, _, _, _, -, hperform, hact, -⟩ | ⟨_, _, _, -, hperform, hact, -⟩
      · simp only [hact, List.prefix_rfl]
      · simp only [hact, List.prefix_rfl]
      · rw [hact]
        exact (World.effect_of_perform hperform).attempts_extended
      · rw [hact]
        show _ <+: Ledger.attempts (World.ledger _)
        simp only [World.ledger_of_unanswered hperform, List.prefix_rfl]
    · exact List.prefix_refl _
  | join => exact List.prefix_refl _
  | outside w hleaves =>
    show _ <+: w.ledger.attempts
    simp only [hleaves.attempts, List.prefix_rfl]

/-- The record of attempts only ever grows at its end. -/
theorem Scene.Reachable.attempts_extended {roles : Role → Prop} {s t : Scene}
    (hreachable : Reachable roles World.LeavesTrail s t) :
    s.world.ledger.attempts <+: t.world.ledger.attempts := by
  induction hreachable with
  | refl => exact List.prefix_refl _
  | step _ hstep ih => exact ih.trans hstep.attempts_extended

/-- Whatever roles are at work, and whatever fails except for writes of attempts: in every scene
that comes of an empty store, every attempt that a stored message counts is on record; every record
shows either a status code or a failure, and a body only with a code; and in every scene that comes
of this one all records are there, as they are and in the same order. -/
theorem Scene.audit_trail {w : World} {s : Scene} (hempty : w.Empty) (hrecords : w.RecordsAttempts)
    (hreachable : Reachable (fun _ => True) World.LeavesTrail { world := w } s) :
    (∀ m ∈ s.world.store.messages, ∀ j, 1 ≤ j → j ≤ m.attemptCount.value →
      ∃ a ∈ s.world.store.attempts, a.messageId = m.id ∧ a.number.value = j)
    ∧ (∀ a ∈ s.world.store.attempts, a.isWellFormed = true
      ∧ (a.responseBody.isSome = true → a.statusCode.isSome = true))
    ∧ ∀ t, Reachable (fun _ => True) World.LeavesTrail s t →
      s.world.store.attempts <+: t.world.store.attempts := by
  obtain ⟨staff, -, hinvariant⟩ := hreachable.audit hempty hrecords
  exact ⟨hinvariant.covered, hinvariant.proper, fun t ht => ht.attempts_extended⟩

/-- In a race of two workers, the attempt that the message counts is on record, and all records are
still there when the worker that was overtaken has taken the message back. -/
theorem Scene.audit_trail_racing : ∃ m ∈ Scene.racing.world.store.messages,
    m.attemptCount.value = 1
      ∧ (∃ a ∈ Scene.racing.world.store.attempts, a.messageId = m.id ∧ a.number.value = 1)
      ∧ Scene.racing.world.store.attempts <+: (Scene.racing.act 2).world.store.attempts := by
  have hcounted : (Scene.racing.world.store.messages.any
      fun m => decide (m.attemptCount.value = 1)) = true := by
    decide +kernel
  obtain ⟨m, hm, hone⟩ := List.any_eq_true.mp hcounted
  have hone := of_decide_eq_true hone
  have hrecords : World.accepting.RecordsAttempts := ⟨rfl, fun _ hp => absurd hp List.not_mem_nil⟩
  obtain ⟨hcovered, -, hafter⟩ := audit_trail ⟨rfl, rfl, rfl⟩ hrecords reachable_racing
  exact ⟨m, hm, hone, hcovered m hm 1 (Int.le_refl _) (by omega), hafter _ (.step .refl (.act _ 2))⟩

end WebhookDelivery
