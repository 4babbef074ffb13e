import WebhookDelivery.Proofs.Ownership

/-!
# The lifecycle of a stored message

A message that has come to its end is to stay as it is, and attempts that were counted are to stay
counted. The sweep keeps to this: it changes a message only if it finds it as it was read. A worker
does not: it loads a message, sends it, and then writes back its copy whatever has become of the
stored one. Where a message has two entries, two workers may have a copy of it, and who writes last
may undo what the other has done.

* `Scene.forward_or_late` — every step moves every stored message forward, except for a write that
  lags behind; and such a write is made only by an actor that was overtaken: another has written the
  message since the actor read it last.
-/

namespace WebhookDelivery

-- ---------------------------------------------------------------------------
-- The law
-- ---------------------------------------------------------------------------

/-- Whether a message may come after another: an end is an end, and no attempt is forgotten. -/
structure Message.Forward (m m' : Message) : Prop where
  status : m.status.isTerminal = true → m'.status = m.status
  count : m.attemptCount.value ≤ m'.attemptCount.value

/-- Whether every message that is on record is so later, and has moved forward. -/
def Ledger.Forward (k k' : Ledger) : Prop :=
  ∀ id m, k.get? id = some m → ∃ m', k'.get? id = some m' ∧ m.Forward m'

/-- Whether a copy lags behind the stored message: that has come to another end, or counts more
attempts. -/
def Message.Lags (m stored : Message) : Prop :=
  (stored.status.isTerminal = true ∧ m.status ≠ stored.status)
    ∨ m.attemptCount.value < stored.attemptCount.value

/-- Whether the call writes a copy that lags behind. -/
def Call.Late (k : Ledger) : (c : Call) → c.Answer → Prop
  | .updateMessage m, .ok _ => ∃ stored, k.get? m.id = some stored ∧ m.Lags stored
  | _, _ => False

/-- Whether the call reads a message. -/
def Call.Reads : (c : Call) → c.Answer → MessageId → Prop
  | .findMessage _, .ok m, id => m.id = id
  | .createMessage _, .ok m, id => m.id = id
  | _, _, _ => False

/-- Whether the call writes a message, other than putting it back for a retry. -/
def Call.Writes : (c : Call) → c.Answer → MessageId → Prop
  | .updateMessage m, .ok _, id => m.id = id
  | .updateMessageStatus id' _, .ok _, id => id' = id
  | _, _, _ => False

/-- Whether others have written a message since an actor read it last, by the calls made so far,
the latest first. -/
def Overtaken (i : Nat) (id : MessageId) : List (Nat × Moment) → Prop
  | [] => False
  | (j, x) :: earlier =>
    if j = i then ¬ x.call.Reads x.answer id ∧ Overtaken i id earlier
    else x.call.Writes x.answer id ∨ Overtaken i id earlier

/-- Whether the next call of an actor writes a copy that lags behind, and is carried out. -/
def Scene.WritesLate (s : Scene) (i : Nat) (m : Message) : Prop :=
  s.next? i = some (.updateMessage m) ∧ (s.world.perform (.updateMessage m)).1 = some (.ok ())
    ∧ ∃ stored, s.world.ledger.get? m.id = some stored ∧ m.Lags stored

-- ---------------------------------------------------------------------------
-- What a call makes of a message
-- ---------------------------------------------------------------------------

/-- What a call may make of a stored message, if it is not late. -/
structure Message.Becomes (late written : Prop) (m m' : Message) : Prop where
  method : m'.method = m.method
  url : m'.url = m.url
  success : m'.status = .success → m.status = .success ∨ ∃ r, DeliveryRequest.ofMessage m = .ok r
  unwritten : written ∨ m'.attemptCount = m.attemptCount
    ∧ (m.status.isTerminal = false → m'.status.isTerminal = false)
  forward : late ∨ m.Forward m'

theorem Message.Becomes.refl {late written : Prop} (m : Message) : m.Becomes late written m :=
  ⟨rfl, rfl, .inl, .inr ⟨rfl, fun h => h⟩, .inr ⟨fun _ => rfl, Int.le_refl _⟩⟩

/-- What holds of the copy that a round works on. The stored message has the method and URL of the
copy, and unless the round was overtaken it counts the same attempts and has not come to its end. It
was delivered only if there is a request for the copy, and after a request there is. -/
structure Stage.Rooted (k : Ledger) (overtaken : MessageId → Prop) (σ : Stage) : Prop where
  stored : ∀ c, σ.copy? = some c → ∃ m, k.get? c.id = some m ∧ m.method = c.method ∧ m.url = c.url
    ∧ (m.status = .success → ∃ r, DeliveryRequest.ofMessage c = .ok r)
    ∧ (overtaken c.id ∨ m.attemptCount = c.attemptCount ∧ m.status.isTerminal = false)
  sent : ∀ c report, σ.copy? = some c → σ.report? = some report →
    ∃ r, DeliveryRequest.ofMessage c = .ok r

/-- A round without a copy depends on nothing that is stored. -/
theorem Stage.Rooted.of_none {k : Ledger} {overtaken : MessageId → Prop} {σ : Stage}
    (h : σ.copy? = none) : σ.Rooted k overtaken where
  stored _ hc := by cases h.symm.trans hc
  sent _ _ hc := by cases h.symm.trans hc

/-- Messages with the same method and URL can both be sent, or neither. -/
theorem DeliveryRequest.sendable_of_eq {m n : Message} {r : DeliveryRequest}
    (hmethod : m.method = n.method) (hurl : m.url = n.url) (h : ofMessage n = .ok r) :
    ∃ r', ofMessage m = .ok r' := by
  cases hm : ofMessage m with
  | ok r' => exact ⟨r', rfl⟩
  | error reason =>
    rw [unsendable_of_eq hmethod.symm hurl.symm hm] at h
    cases h

/-- An attempt that is counted is counted once more than before. -/
theorem Count.le_next (c : Count) : c.value ≤ c.next.value := by
  have := c.value_le
  rw [value_next]
  omega

/-- A worker never lowers the count that it has read. -/
theorem Worker.Settles.count_le {w : Worker} {m m' : Message} {now : Instant} {outcome : Outcome}
    (h : w.Settles m now outcome m') : m.attemptCount.value ≤ m'.attemptCount.value := by
  cases h with
  | delivered => exact m.attemptCount.le_next
  | @failed _ _ decision =>
    cases decision with
    | retry => exact m.attemptCount.le_next
    | giveUp => exact Int.le_refl _

/-- A written copy lags behind, or the stored message moves forward. -/
theorem Message.lags_or_forward (m stored : Message) :
    m.Lags stored ∨ stored.Forward (stored.progressed m) := by
  by_cases hlags : m.Lags stored
  · exact .inl hlags
  · rw [Lags, not_or, not_and, Decidable.not_not, Int.not_lt] at hlags
    exact .inr ⟨hlags.1, hlags.2⟩

/-- A copy that lags behind takes the stored message back. -/
theorem Message.Lags.not_forward {m stored : Message} (h : m.Lags stored) :
    ¬ stored.Forward (stored.progressed m) := by
  intro hforward
  rcases h with ⟨hended, hne⟩ | hlt
  · exact hne (hforward.status hended)
  · exact absurd hforward.count (Int.not_le.mpr hlt)

section Step

attribute [local irreducible] MessageId.text

variable {ids : Nat → MessageId} {k k' : Ledger} {role : Role} {σ σ' : Stage} {c : Call}
  {answer : c.Answer} {overtaken overtaken' : MessageId → Prop}

/-- What a message becomes that is put in the place of another. -/
theorem Ledger.becomes_put {m n' : Message} (n : Message) {id : MessageId} {late written : Prop}
    (hget : k.get? id = some m) (hn : k.get? n.id = some n) (hid : n'.id = n.id)
    (h : n.id = id → n.Becomes late written n') :
    ∃ m', (k.put n').get? id = some m' ∧ m.Becomes late written m' := by
  by_cases heq : n.id = id
  · subst heq
    obtain rfl := Option.some.inj (hn.symm.trans hget)
    exact ⟨n', by rw [← hid]; exact get?_put_self k n', h rfl⟩
  · exact ⟨m, (get?_put_of_ne k fun h' => heq (hid.symm.trans h')).trans hget, .refl m⟩

/-- What a move makes of a stored message, whatever the move. -/
theorem Stage.Next.becomes (hnext : Next role σ c answer σ') (heffect : Effect ids k c answer k')
    (hrooted : σ.Rooted k overtaken)
    (hnew : k.created < k'.created → k.get? (ids k.created) = none) {id : MessageId} {m : Message}
    (hget : k.get? id = some m) :
    ∃ m', k'.get? id = some m' ∧ m.Becomes (c.Late k answer) (c.Writes answer id) m' := by
  -- four calls write a message; of these two depend on a copy that may be stale
  cases heffect with
  | quiet | find | due | pending | keep | record | push | pop | contains => exact ⟨m, hget, .refl m⟩
  | create d now =>
    exact ⟨m, Ledger.get?_put_of_missing (hnew (Nat.lt_succ_self _)) hget, .refl m⟩
  | @requeue _ _ n now hn hretry =>
    have hid := Ledger.id_of_get? hn
    refine Ledger.becomes_put n hget (by rw [hid]; exact hn) rfl fun _ => ?_
    refine ⟨rfl, rfl, by rintro ⟨⟩, .inr ⟨rfl, fun _ => rfl⟩, .inr ⟨fun hended => ?_, Int.le_refl _⟩⟩
    rw [hretry] at hended
    cases hended
  | @setStatus _ _ n n' now hn hset =>
    have hid := Ledger.id_of_get? hn
    refine Ledger.becomes_put n hget (by rw [hid]; exact hn) (Message.id_of_setStatus hset) ?_
    intro heq
    cases hnext with
    | @reject w entry c reason hreason =>
      obtain rfl := Message.eq_of_setStatus hset
      obtain ⟨stored, hstored, hmethod, hurl, hsuccess, -⟩ := hrooted.stored c rfl
      obtain rfl := Option.some.inj (hn.symm.trans hstored)
      refine ⟨rfl, rfl, by rintro ⟨⟩, .inl (hid.symm.trans heq),
        .inr ⟨fun hended => ?_, Int.le_refl _⟩⟩
      -- What cannot be sent was not delivered, so the end that it has come to is the same.
      cases hstatus : n.status with
      | failed => rfl
      | success =>
        obtain ⟨r, hr⟩ := hsuccess hstatus
        cases hreason.symm.trans hr
      | pending | retry =>
        rw [hstatus] at hended
        cases hended
  | @update n m₁ hn =>
    have hid := Ledger.id_of_get? hn
    refine Ledger.becomes_put n hget (by rw [hid]; exact hn) rfl fun heq => ?_
    -- a write-back sets status and count: it goes forward, or is late
    refine ⟨rfl, rfl, fun hsuccess => ?_, .inl (hid.symm.trans heq),
      (m₁.lags_or_forward n).imp (fun hlags => ⟨n, hn, hlags⟩) fun h => h⟩
    cases hnext with
    | @write w entry c _ report now hsettles =>
      rw [hsettles.id_eq] at hn
      obtain ⟨stored, hstored, hmethod, hurl, -⟩ := hrooted.stored c rfl
      obtain rfl := Option.some.inj (hn.symm.trans hstored)
      obtain ⟨r, hr⟩ := hrooted.sent c report rfl rfl
      exact .inr (DeliveryRequest.sendable_of_eq hmethod hurl hr)
    | defer => cases hsuccess

/-- The copy of a round stays rooted when another moves. -/
theorem Stage.Rooted.kept {written : MessageId → Prop} {late : Prop}
    (hrooted : σ.Rooted k overtaken) (hbecomes : ∀ id m, k.get? id = some m →
      ∃ m', k'.get? id = some m' ∧ m.Becomes late (written id) m')
    (hovertaken : ∀ id, overtaken id ∨ written id → overtaken' id) : σ.Rooted k' overtaken' where
  stored c hc := by
    obtain ⟨m, hm, hmethod, hurl, hsuccess, hfresh⟩ := hrooted.stored c hc
    obtain ⟨m', hm', hbecomes⟩ := hbecomes c.id m hm
    refine ⟨m', hm', hbecomes.method.trans hmethod, hbecomes.url.trans hurl, fun hdelivered => ?_, ?_⟩
    · rcases hbecomes.success hdelivered with hdelivered | ⟨r, hr⟩
      · exact hsuccess hdelivered
      · exact DeliveryRequest.sendable_of_eq hmethod.symm hurl.symm hr
    · rcases hfresh with hovertaken' | ⟨hcount, hlive⟩
      · exact .inl (hovertaken _ (.inl hovertaken'))
      · rcases hbecomes.unwritten with hwritten | ⟨hcount', hlive'⟩
        · exact .inl (hovertaken _ (.inr hwritten))
        · exact .inr ⟨hcount'.trans hcount, hlive' hlive⟩
  sent := hrooted.sent

/-- A round's own copy stays rooted as long as the round goes on with it. -/
theorem Stage.Rooted.goes_on (hrooted : σ.Rooted k overtaken) (hcopy : σ'.copy? = σ.copy?)
    (hget : ∀ id, k'.get? id = k.get? id)
    (hsent : ∀ c report, σ'.copy? = some c → σ'.report? = some report →
      ∃ r, DeliveryRequest.ofMessage c = .ok r)
    (hovertaken : ∀ id, overtaken id → overtaken' id) : σ'.Rooted k' overtaken' where
  stored c hc := by
    obtain ⟨m, hm, hmethod, hurl, hsuccess, hfresh⟩ := hrooted.stored c (hcopy ▸ hc)
    exact ⟨m, (hget _).trans hm, hmethod, hurl, hsuccess, hfresh.imp_left (hovertaken _)⟩
  sent := hsent

/-- A round with a copy of what is stored is rooted. -/
theorem Stage.Rooted.of_stored {m : Message} (hcopy : σ.copy? = some m) (hreport : σ.report? = none)
    (hstored : k.get? m.id = some m) (hlive : m.status.isTerminal = false) :
    σ.Rooted k overtaken where
  stored c hc := by
    obtain rfl := Option.some.inj (hcopy.symm.trans hc)
    refine ⟨m, hstored, rfl, rfl, fun hsuccess => ?_, .inr ⟨rfl, hlive⟩⟩
    rw [hsuccess] at hlive
    cases hlive
  sent _ _ _ hr := by cases hreport.symm.trans hr

theorem Stage.copy_afterFailure (e : StoreError) (entry : String) (id : MessageId) :
    (Stage.afterFailure e entry id).copy? = none := by
  rw [Stage.afterFailure]
  split <;> rfl

/-- A round's own copy is rooted after each of its moves. -/
theorem Stage.Next.rooted (hnext : Next role σ c answer σ') (heffect : Effect ids k c answer k')
    (hrooted : σ.Rooted k overtaken)
    (hovertaken : ∀ id, overtaken id → ¬ c.Reads answer id → overtaken' id) :
    σ'.Rooted k' overtaken' := by
  -- a copy is rooted when it is loaded or created, and again while it is kept
  cases hnext with
  | note | secret | signingTime | time | draw =>
    cases heffect with
    | quiet =>
      exact hrooted.goes_on rfl (fun _ => rfl) hrooted.sent fun id h => hovertaken id h fun h => h
  | record =>
    cases heffect with
    | quiet =>
      exact hrooted.goes_on rfl (fun _ => rfl) hrooted.sent fun id h => hovertaken id h fun h => h
    | record =>
      exact hrooted.goes_on rfl (fun _ => rfl) hrooted.sent fun id h => hovertaken id h fun h => h
  | @send w entry m r hr =>
    cases heffect with
    | quiet =>
      refine hrooted.goes_on rfl (fun _ => rfl) (fun c report hc _ => ?_)
        fun id h => hovertaken id h fun h => h
      obtain rfl := Option.some.inj hc
      exact ⟨r, hr⟩
  | refuse | deferTime =>
    cases heffect with
    | quiet =>
      exact hrooted.goes_on rfl (fun _ => rfl) (by rintro _ _ _ ⟨⟩)
        fun id h => hovertaken id h fun h => h
  | load hlive =>
    cases heffect with
    | quiet hquiet => obtain ⟨_, ⟨⟩⟩ := hquiet
    | find hget =>
      exact .of_stored rfl rfl (by rw [Ledger.id_of_get? hget]; exact hget) hlive
  | create hdraft =>
    cases heffect with
    | quiet hquiet => obtain ⟨_, ⟨⟩⟩ := hquiet
    | create d now => exact .of_stored rfl rfl (Ledger.get?_put_self k _) rfl
  | loadFailed | writeFailed | rejectFailed => exact .of_none (Stage.copy_afterFailure _ _ _)
  | _ => exact .of_none rfl

/-- Who writes a message has a copy of it, and counts no fewer attempts than that. -/
theorem Stage.Next.copy_of_update {m : Message} {answer : Except StoreError Unit}
    (hnext : Next role σ (.updateMessage m) answer σ') :
    ∃ c, σ.copy? = some c ∧ m.id = c.id ∧ c.attemptCount.value ≤ m.attemptCount.value := by
  cases hnext with
  | write hsettles => exact ⟨_, rfl, hsettles.id_eq, hsettles.count_le⟩
  | writeFailed hsettles => exact ⟨_, rfl, hsettles.id_eq, hsettles.count_le⟩
  | defer => exact ⟨_, rfl, rfl, Int.le_refl _⟩

/-- Who is about to write a copy that lags behind was overtaken. -/
theorem Stage.Rooted.overtaken_of_lags {m stored : Message} {answer : Except StoreError Unit}
    (hrooted : σ.Rooted k overtaken) (hnext : Next role σ (.updateMessage m) answer σ')
    (hstored : k.get? m.id = some stored) (hlags : m.Lags stored) : overtaken m.id := by
  obtain ⟨c, hc, hid, hcount⟩ := hnext.copy_of_update
  obtain ⟨n, hn, -, -, -, hfresh⟩ := hrooted.stored c hc
  rw [hid] at hstored ⊢
  obtain rfl := Option.some.inj (hn.symm.trans hstored)
  refine hfresh.resolve_right ?_
  rintro ⟨hsame, hlive⟩
  rcases hlags with ⟨hended, -⟩ | hlt
  · cases hlive.symm.trans hended
  · rw [hsame] at hlt
    omega

end Step

-- ---------------------------------------------------------------------------
-- The invariant
-- ---------------------------------------------------------------------------

theorem Ledger.Forward.refl (k : Ledger) : k.Forward k :=
  fun _ m hm => ⟨m, hm, fun _ => rfl, Int.le_refl _⟩

/-- The identifiers that are given out next, up to a bound, are all different, and nothing stored
has one of them. -/
structure World.Supplied (w : World) (bound : Nat) : Prop where
  distinct : w.supply.Distinct bound
  unused : ∀ n, w.created ≤ n → n < bound → w.ledger.get? (w.supply.messageIds n) = none

/-- What holds of a scene and its staff, where identifiers are as supplied at the start. -/
structure LifecycleInvariant (w₀ : World) (s : Scene) (staff : List (Actor × Stage)) : Prop where
  ids : s.world.supply.messageIds = w₀.supply.messageIds
  kept : ∀ bound, s.world.created ≤ bound → w₀.Supplied bound →
    (∀ n, s.world.created ≤ n → n < bound →
      s.world.ledger.get? (w₀.supply.messageIds n) = none)
    ∧ ∀ (i : Nat) (x : Actor × Stage), staff[i]? = some x →
      x.2.Rooted s.world.ledger fun id => Overtaken i id s.history

namespace LifecycleInvariant

variable {w₀ : World} {s : Scene} {staff before after : List (Actor × Stage)} {a b : Actor}
  {σ σ' : Stage} {w' : World}

theorem start (w : World) : LifecycleInvariant w { world := w } [] :=
  ⟨rfl, fun _ _ hsupplied => ⟨hsupplied.unused, (by rintro _ _ ⟨⟩)⟩⟩

/-- The invariant survives what the outside does. -/
theorem outside (h : LifecycleInvariant w₀ s staff) (hsame : s.world.SameRecord w') :
    LifecycleInvariant w₀ { s with world := w' } staff where
  ids := hsame.2.trans h.ids
  kept bound hbound hsupplied := by
    have hcreated : w'.created = s.world.created := congrArg Ledger.created hsame.1
    show (∀ n, w'.created ≤ n → n < bound → w'.ledger.get? (w₀.supply.messageIds n) = none) ∧ _
    rw [hcreated, show Scene.world { s with world := w' } = w' from rfl, hsame.1]
    exact h.kept bound (hcreated ▸ hbound) hsupplied

/-- An actor whose round stays rooted may be exchanged for another. -/
theorem replace (h : LifecycleInvariant w₀ s (before ++ (a, σ) :: after)) (actors : List Actor)
    (hrooted : ∀ k overtaken, σ.Rooted k overtaken → σ'.Rooted k overtaken) :
    LifecycleInvariant w₀ { s with actors } (before ++ (b, σ') :: after) where
  ids := h.ids
  kept bound hbound hsupplied := by
    obtain ⟨hunused, hkept⟩ := h.kept bound hbound hsupplied
    refine ⟨hunused, fun j x hx => ?_⟩
    rw [getElem?_replaced (a, σ)] at hx
    split at hx
    · rename_i hj
      obtain rfl := Option.some.inj hx
      exact hrooted _ _ (hkept j (a, σ) (by rw [hj]; simp))
    · exact hkept j x hx

/-- The invariant survives an actor that joins. -/
theorem join (h : LifecycleInvariant w₀ s staff) (role : Role) :
    LifecycleInvariant w₀ (s.join role) (staff ++ [(.ofRole role, .idle)]) where
  ids := h.ids
  kept bound hbound hsupplied := by
    obtain ⟨hunused, hkept⟩ := h.kept bound hbound hsupplied
    refine ⟨hunused, fun j x hx => ?_⟩
    rcases Nat.lt_or_ge j staff.length with hj | hj
    · rw [List.getElem?_append_left hj] at hx
      exact hkept j x hx
    · rw [List.getElem?_append_right hj] at hx
      obtain rfl := List.mem_singleton.mp (List.mem_of_getElem? hx)
      exact .of_none rfl

/-- The invariant survives a move of an actor. -/
theorem move (h : LifecycleInvariant w₀ s (before ++ (a, σ) :: after)) {i : Nat}
    (hi : i = before.length) {c : Call} {answer : c.Answer}
    (hmove : Stage.Move a.role σ s.world c answer σ' w') (actors : List Actor) :
    LifecycleInvariant w₀
      { world := w', actors, history := (i, ⟨s.world, c, answer⟩) :: s.history }
      (before ++ (b, σ') :: after) where
  ids := hmove.kept.supply ▸ h.ids
  kept bound hbound hsupplied := by
    have heffect := hmove.effect
    rw [h.ids] at heffect
    obtain ⟨hunused, hkept⟩ := h.kept bound (Nat.le_trans heffect.created_le hbound) hsupplied
    have hrooted := hkept i (a, σ) (by rw [hi]; simp)
    refine ⟨heffect.unissued hsupplied.distinct hbound hunused, fun j x hx => ?_⟩
    rw [getElem?_replaced (a, σ), ← hi] at hx
    -- the round that moves, or another that its write may overtake
    split at hx
    · rename_i hj
      obtain rfl := Option.some.inj hx
      subst hj
      refine hmove.next.rooted heffect hrooted fun id hovertaken hunread => ?_
      rw [Overtaken, if_pos rfl]
      exact ⟨hunread, hovertaken⟩
    · rename_i hj
      have hnew : s.world.created < w'.created →
          s.world.ledger.get? (w₀.supply.messageIds s.world.created) = none :=
        fun hlt => hunused _ (Nat.le_refl _) (Nat.lt_of_lt_of_le hlt hbound)
      refine (hkept j x hx).kept (fun id m hm => hmove.next.becomes heffect hrooted hnew hm)
        fun id hovertaken => ?_
      · rw [Overtaken, if_neg fun heq => hj heq.symm]
        exact hovertaken.symm

/-- The invariant survives a turn of any actor. -/
theorem turn {t : Scene} {staff' : List (Actor × Stage)} {i : Nat}
    (h : LifecycleInvariant w₀ s staff) (hturn : Scene.Turn s i staff t staff') :
    LifecycleInvariant w₀ t staff' := by
  cases hturn with
  | none => exact h
  | restart => exact h.replace _ fun _ _ _ => .of_none rfl
  | move next hi htask hmove => exact h.move hi hmove _
  | unanswered hi hperform =>
    exact (h.outside (World.sameRecord_of_unanswered hperform)).replace _ fun _ _ hrooted => hrooted

end LifecycleInvariant

/-- Every scene that is reached satisfies the invariant. -/
theorem Scene.Reachable.lifecycle {w : World} {s : Scene}
    (hreachable : Reachable (fun _ => True) World.SameRecord { world := w } s) :
    ∃ staff, Staffed s staff ∧ LifecycleInvariant w s staff := by
  refine hreachable.staffed (I := LifecycleInvariant w) (.nil w) (.start w) ?_ ?_ ?_
  · exact fun s i staff t staff' _ hinvariant hturn _ => hinvariant.turn hturn
  · exact fun s role staff hinvariant _ => hinvariant.join role
  · exact fun s w' staff hinvariant hsame => hinvariant.outside hsame

-- ---------------------------------------------------------------------------
-- Forward, or late
-- ---------------------------------------------------------------------------

/-- What an actor's turn does to the record: every message moves forward, or the actor writes a copy
that lags behind. -/
theorem LifecycleInvariant.forward_of_turn {w₀ : World} {s t : Scene}
    {staff staff' : List (Actor × Stage)} {i : Nat} (h : LifecycleInvariant w₀ s staff)
    (hstaffed : Scene.Staffed s staff) (hsupplied : w₀.Supplied (s.world.created + 1))
    (hturn : Scene.Turn s i staff t staff') :
    s.world.ledger.Forward t.world.ledger ∨ ∃ m, s.WritesLate i m := by
  cases hturn with
  | none => exact .inl (.refl _)
  | restart => exact .inl (.refl _)
  | unanswered hi hperform =>
    have hsame := (World.sameRecord_of_unanswered hperform).1
    exact .inl (by rw [hsame]; exact .refl _)
  | @move before after a σ σ' c answer w' next hi htask hmove =>
    have heffect := hmove.effect
    rw [h.ids] at heffect
    obtain ⟨hunused, hkept⟩ := h.kept _ (Nat.le_succ _) hsupplied
    have hrooted := hkept i (a, σ) (by rw [hi]; simp)
    -- a late call is a write-back that was carried out
    by_cases hlate : c.Late s.world.ledger answer
    · right
      cases c with
      | updateMessage m =>
        cases answer with
        | error e => exact hlate.elim
        | ok u =>
          refine ⟨m, ?_, congrArg Prod.fst hmove.performed, hlate⟩
          rw [Scene.next?, hstaffed.actors, hi]
          simp [htask, Task.call?]
      | _ => exact hlate.elim
    · left
      intro id m hm
      obtain ⟨m', hm', hbecomes⟩ := hmove.next.becomes heffect hrooted
        (fun _ => hunused _ (Nat.le_refl _) (Nat.lt_succ_self _)) hm
      exact ⟨m', hm', hbecomes.forward.resolve_left hlate⟩

/-- A copy that is written back is taken over by the stored message. -/
theorem Effect.get?_of_update {ids : Nat → MessageId} {k k' : Ledger} {m stored : Message}
    (h : Effect ids k (.updateMessage m) (.ok ()) k') (hstored : k.get? m.id = some stored) :
    k'.get? m.id = some (stored.progressed m) := by
  cases h with
  | quiet hquiet => obtain ⟨_, ⟨⟩⟩ := hquiet
  | @update n _ hn =>
    obtain rfl := Option.some.inj (hn.symm.trans hstored)
    rw [← Ledger.id_of_get? hn]
    exact Ledger.get?_put_self k (n.progressed m)

/-- A write that lags behind takes a message back. -/
theorem Scene.WritesLate.not_forward {s : Scene} {i : Nat} {m : Message} (h : s.WritesLate i m) :
    ¬ s.world.ledger.Forward (s.act i).world.ledger := by
  obtain ⟨hnext, hperform, stored, hstored, hlags⟩ := h
  rw [Scene.world_act hnext]
  rcases heq : s.world.perform (.updateMessage m) with ⟨answer, w'⟩
  rw [heq] at hperform
  obtain rfl : answer = some (.ok ()) := hperform
  intro hforward
  obtain ⟨n, hn, hmoved⟩ := hforward m.id stored hstored
  obtain rfl := Option.some.inj
    (hn.symm.trans ((World.effect_of_perform heq).get?_of_update hstored))
  exact hlags.not_forward hmoved

-- ---------------------------------------------------------------------------
-- A race
-- ---------------------------------------------------------------------------

-- A recovery sees a new message before its submission has queued it, so that it has two entries. Two
-- workers load it. One delivers it, and then the other, whose request is refused, writes it back as
-- one that waits for a retry.

/-- A receiver that accepts the first request, and then can be reached no more. -/
def Network.acceptingOnce : Network := fun sent _ =>
  if sent.isEmpty then .response { status := 200, headers := [], chunks := [], ending := .complete }
  else .refused

/-- A world in which nothing has happened, with this receiver. -/
def World.accepting : World :=
  { World.fresh with network := .acceptingOnce }

/-- A submission, a recovery and two workers, about to begin. -/
def Scene.staffed : Scene :=
  let s : Scene := { world := .accepting }
  (((s.join (.submission .toLoopback)).join (.recovery {})).join (.worker .plain)).join
    (.worker .plain)

/-- The second worker has delivered the message, and the first is about to write it back. -/
def Scene.racing : Scene :=
  Scene.staffed.acts [0, 1, 1, 1, 0, 2, 2, 3, 3, 3, 3, 3, 3, 3, 3, 3, 2, 2, 2, 2, 2, 2]

/-- The race of two workers is reached from a world that accepts webhooks. -/
theorem Scene.reachable_racing {outside : World → World → Prop} :
    Reachable (fun _ => True) outside { world := .accepting } .racing := by
  have hfirst : Reachable (fun _ => True) outside { world := .accepting } _ :=
    Reachable.refl.step (.join { world := .accepting } (.submission .toLoopback) trivial)
  have hsecond := hfirst.step (.join _ (.recovery {}) trivial)
  have hthird := hsecond.step (.join _ (.worker .plain) trivial)
  have hstaffed := hthird.step (.join _ (.worker .plain) trivial)
  exact hstaffed.trans (reachable_acts _ _ _ _)

/-- Whether the call writes a copy that waits for a retry over a message that was delivered. -/
def Call.undoes (w : World) : Call → Bool
  | .updateMessage m => m.status = .retry
    && ((w.perform (.updateMessage m)).1 matches some (.ok ()))
    && (w.ledger.get? m.id).any (·.status = .success)
  | _ => false

/-- The copy is one that waits for a retry, and the stored message was delivered. -/
theorem Scene.exists_writesLate_racing : ∃ m, Scene.racing.WritesLate 2 m := by
  -- what the worker is about to write is computed, and what is stored
  have hlate : (Scene.racing.next? 2).any (·.undoes Scene.racing.world) = true := by
    decide +kernel
  obtain ⟨c, hc, hlate⟩ := (Option.any_eq_true _ _).mp hlate
  cases c with
  | updateMessage m =>
    simp only [Call.undoes, Bool.and_eq_true, decide_eq_true_eq] at hlate
    obtain ⟨⟨hretry, hcarried⟩, hstored⟩ := hlate
    obtain ⟨stored, hstored, hsuccess⟩ := (Option.any_eq_true _ _).mp hstored
    refine ⟨m, hc, ?_, stored, hstored, .inl ?_⟩
    · revert hcarried
      rcases (Scene.racing.world.perform (.updateMessage m)).1 with _ | ⟨e | u⟩
      · rintro ⟨⟩
      · rintro ⟨⟩
      · exact fun _ => rfl
    · rw [of_decide_eq_true hsuccess, hretry]
      exact ⟨rfl, by decide⟩
  | _ => cases hlate

/-- The supply of identifiers lasts for the race. -/
theorem World.supplied_accepting : World.accepting.Supplied (Scene.racing.world.created + 1) := by
  have hcreated : Scene.racing.world.created = 1 := by decide +kernel
  rw [hcreated]
  exact ⟨Supply.distinct_counting (by decide), fun _ _ _ => rfl⟩

-- ---------------------------------------------------------------------------
-- Forward, or overtaken
-- ---------------------------------------------------------------------------

/-- Whatever roles are at work, and whatever fails: every step moves every stored message forward,
except for an actor's write of a copy that lags behind. Such a write takes a message back, and it is
made only by an actor that was overtaken: another has written the message since the actor read it
last. -/
theorem Scene.forward_or_late {w : World} {s : Scene}
    (hreachable : Reachable (fun _ => True) World.SameRecord { world := w } s)
    (hsupplied : w.Supplied (s.world.created + 1)) :
    (∀ t, Step (fun _ => True) World.SameRecord s t →
      s.world.ledger.Forward t.world.ledger ∨ ∃ i m, t = s.act i ∧ s.WritesLate i m)
    ∧ ∀ i m, s.WritesLate i m →
      Overtaken i m.id s.history ∧ ¬ s.world.ledger.Forward (s.act i).world.ledger := by
  obtain ⟨staff, hstaffed, hinvariant⟩ := hreachable.lifecycle
  refine ⟨fun t hstep => ?_, fun i m hlate => ⟨?_, hlate.not_forward⟩⟩
  · cases hstep with
    | act i =>
      obtain ⟨staff', hturn, -⟩ := hstaffed.act i
      refine (hinvariant.forward_of_turn hstaffed hsupplied hturn).imp_right ?_
      rintro ⟨m, hlate⟩
      exact ⟨i, m, rfl, hlate⟩
    | join => exact .inl (.refl _)
    | outside w' hsame => exact .inl (by rw [hsame.1]; exact .refl _)
  · obtain ⟨hnext, -, stored, hstored, hlags⟩ := hlate
    -- whoever lags behind the stored message was overtaken
    obtain ⟨a, σ, σ', hactor, hmove⟩ := hstaffed.next hnext (.ok ())
    obtain ⟨-, hkept⟩ := hinvariant.kept _ (Nat.le_succ _) hsupplied
    exact (hkept i (a, σ) hactor).overtaken_of_lags hmove hstored hlags

/-- In the race the first worker was overtaken, and takes the message back. -/
theorem Scene.overtaken_racing : ∃ m : Message, Overtaken 2 m.id Scene.racing.history
    ∧ ¬ Scene.racing.world.ledger.Forward (Scene.racing.act 2).world.ledger := by
  obtain ⟨m, hlate⟩ := exists_writesLate_racing
  exact ⟨m, (forward_or_late reachable_racing World.supplied_accepting).2 2 m hlate⟩

/-- Stored messages do not always move forward. -/
theorem Scene.lifecycle_goes_back : ¬ ∀ (w : World) (s t : Scene),
    Reachable (fun _ => True) World.SameRecord { world := w } s →
    w.Supplied (s.world.created + 1) → Step (fun _ => True) World.SameRecord s t →
    s.world.ledger.Forward t.world.ledger := by
  intro hall
  obtain ⟨m, hlate⟩ := exists_writesLate_racing
  exact hlate.not_forward (hall _ _ _ reachable_racing World.supplied_accepting (.act _ 2))

end WebhookDelivery
