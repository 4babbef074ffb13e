import WebhookDelivery.Proofs.Deeds
import WebhookDelivery.Proofs.Identifiers
import WebhookDelivery.Proofs.RetryMachine

/-!
# Deliveries in either order

Workers take entries off the queue in whatever order they stand there, and what comes of a delivery
must not depend on those of other messages before it. Two deliveries of different messages share the
store, its list of attempts, the counters and the network. As long as the receivers of one do not
answer by what the other has sent, each comes to the same first or second: it is the same deed, and
deeds for different messages can be exchanged.

* `followChain_heedless` — chains of exchanges, after requests that make no difference.
* `Worker.sameDeed_process` — an entry dealt with in worlds that are alike for its message.
* `World.agrees_of_done` — the deeds of two messages in either order.
* `Worker.interchange` — two entries dealt with in either order.
-/

namespace WebhookDelivery

-- ---------------------------------------------------------------------------
-- Receivers that take no heed
-- ---------------------------------------------------------------------------

/-- Whether the requests that went out from `before` to `after` would be answered alike if `before'`
had gone out in the place of `before`. -/
def Network.Heedless (network : Network) (before before' after : List WireRequest) : Prop :=
  ∀ (own : List WireRequest) (r : WireRequest), r :: (own ++ before) <:+ after →
    network (own ++ before') r = network (own ++ before) r

section Exchanges

variable {network : Network} {before before' : List WireRequest}

/-- The first request of a chain is answered alike. -/
theorem Network.Heedless.first {redirects : Nat} {shown : Url} {request : WireRequest}
    {own : List WireRequest}
    (h : network.Heedless before before'
      (followChain network redirects shown request (own ++ before)).2) :
    network (own ++ before') request = network (own ++ before) request := by
  obtain ⟨redirected, hsent⟩ :=
    first_of_followChain network redirects shown request (own ++ before)
  exact h own request ⟨redirected, hsent.symm⟩

/-- A chain goes the same way after requests that make no difference. -/
theorem followChain_heedless (redirects : Nat) (shown : Url) (request : WireRequest)
    (own : List WireRequest)
    (h : network.Heedless before before'
      (followChain network redirects shown request (own ++ before)).2) :
    (followChain network redirects shown request (own ++ before')).1
      = (followChain network redirects shown request (own ++ before)).1 := by
  -- on the redirects that are left; `own` are the requests of this chain so far
  induction redirects generalizing shown request own with
  | zero =>
    have hfirst := h.first
    rw [followChain.eq_def, followChain.eq_def network _ _ _ (own ++ before), hfirst]
    cases network (own ++ before) request with
    | refused | unusable | timedOut => rfl
    | response r => rcases hreading : r.target? shown with _ | ⟨target | scheme⟩ <;> simp [hreading]
  | succ left ih =>
    have hfirst := h.first
    cases hreply : network (own ++ before) request with
    | refused | unusable | timedOut =>
      rw [followChain.eq_def, followChain.eq_def network _ _ _ (own ++ before), hfirst, hreply]
    | response r =>
      cases hleads : r.target? shown with
      | none =>
        rw [followChain_of_answered (hfirst.trans hreply) hleads,
          followChain_of_answered hreply hleads]
      | some reading =>
        cases reading with
        | other scheme =>
          rw [followChain.eq_def, followChain.eq_def network _ _ _ (own ++ before), hfirst, hreply]
          simp only [hleads]
        | web target =>
          rw [followChain_of_redirected hreply hleads] at h
          rw [followChain_of_redirected (hfirst.trans hreply) hleads,
            followChain_of_redirected hreply hleads]
          exact ih target _ (request :: own) h

/-- A delivery goes the same way after requests that make no difference. -/
theorem Client.deliver_heedless (c : Client) (r : DeliveryRequest)
    (h : network.Heedless before before' (c.deliver network before r).2) :
    (c.deliver network before' r).1 = (c.deliver network before r).1 := by
  by_cases hsendable : r.url.isSendable = true
  · -- the chain starts with no request of its own
    have hchain := @followChain_heedless network before before' c.settings.maxRedirects.toNat r.url
      (r.wire c.settings.userAgent) []
    simp only [deliver, hsendable, if_true] at h ⊢
    rcases hx : followChain network c.settings.maxRedirects.toNat r.url
      (r.wire c.settings.userAgent) before with ⟨x, sent⟩
    rcases hy : followChain network c.settings.maxRedirects.toNat r.url
      (r.wire c.settings.userAgent) before' with ⟨y, sent'⟩
    simp only [List.nil_append, hx, hy] at hchain
    rw [hx] at h
    cases x with
    | error failure =>
      obtain rfl := hchain h
      rfl
    | ok answered =>
      obtain rfl := hchain h
      rfl
  · simp [deliver, hsendable]

end Exchanges

-- ---------------------------------------------------------------------------
-- Tasks whose requests are answered alike
-- ---------------------------------------------------------------------------

namespace Task

variable {α β : Type} {t : Task α} {f : α → Task β} {w v w' v' : World}

/-- Whether the requests of a task in one world would be answered alike in another. -/
def AnsweredAlike (t : Task α) (w v : World) : Prop :=
  w.network.Heedless w.sent v.sent (t.run w).2.sent

/-- A task that sends nothing adds nothing to what was sent. -/
theorem Silent.sent_run (ht : t.Silent) (w : World) : (t.run w).2.sent = w.sent := by
  induction t generalizing w with
  | done a => rfl
  | breakdown => rfl
  | call c next ih =>
    have hcall : (w.perform c).2.sent = w.sent := congrArg Prod.snd (w.wire_perform ht.1)
    rw [run]
    rcases hperform : w.perform c with ⟨_ | answer, w'⟩
    · rw [hperform] at hcall
      exact hcall
    · rw [hperform] at hcall
      exact (ih answer (ht.2 answer) w').trans hcall

/-- What follows a task that sends nothing has all the requests. -/
theorem AnsweredAlike.rest (h : (t >>= f).AnsweredAlike w v) (ht : t.Silent) {a a' : α}
    (hw : t.run w = (some a, w')) (hv : t.run v = (some a', v')) : (f a).AnsweredAlike w' v' := by
  have hsent := ht.sent_run w
  have hsent' := ht.sent_run v
  have hnetwork := t.network_run w
  rw [hw] at hsent hnetwork
  rw [hv] at hsent'
  rw [AnsweredAlike, run_bind_some hw] at h
  rw [AnsweredAlike, hnetwork, hsent, hsent']
  exact h

/-- What is followed by tasks that send nothing has all the requests. -/
theorem AnsweredAlike.start (h : (t >>= f).AnsweredAlike w v) (hf : ∀ a, (f a).Silent) :
    t.AnsweredAlike w v := by
  rw [AnsweredAlike] at h ⊢
  rcases hrun : t.run w with ⟨_ | a, w'⟩
  · rw [run_bind_none hrun] at h
    exact h
  · rw [run_bind_some hrun, (hf a).sent_run] at h
    exact h

end Task

-- ---------------------------------------------------------------------------
-- Deliveries
-- ---------------------------------------------------------------------------

theorem Transition.tallies_event (t : Transition) : t.event.tallies = true := by
  cases t <;> rfl

namespace Worker

variable {worker : Worker} {id : MessageId} {m : Message} {w v : World}

/-- A signed attempt is the exchange of its request and what follows it. -/
theorem attemptSigned_eq (worker : Worker) (m : Message) (r : DeliveryRequest)
    (signature : Option Signature) :
    worker.attemptSigned m r signature
      = worker.exchange (r.sign signature) >>= worker.afterExchange m :=
  rfl

/-- How long the request took does not matter. -/
theorem sameDeed_afterExchange (h : w.Alike id v) (hm : m.id = id) {report report' : Report}
    (hsame : report'.outcome = report.outcome) :
    SameDeed id w v ((worker.afterExchange m report).run w)
      ((worker.afterExchange m report').run v) := by
  have hreads : (Task.perform .now).Makes (Call.Concerns id) fun _ => True :=
    Task.makes_perform trivial
  refine .bind h (hreads.sameDeed h) fun now w₁ v₁ _ _ h₁ => ?_
  -- the attempts differ in the measured time only
  have huntimed : (m.attempt report' now).untimed = (m.attempt report now).untimed := by
    rw [Message.attempt_untimed, Message.attempt_untimed, hsame]
  obtain ⟨answer, w₂, answer', v₂, hrecord, hrecord', d, hd, hd'⟩ :=
    h₁.recordAttempt (a := m.attempt report now) hm huntimed
  rw [← Task.run_perform] at hrecord hrecord'
  rw [Task.run_bind_some hrecord, Task.run_bind_some hrecord', hsame]
  have hsettle :=
    makes_settle (P := Call.Concerns id) (fun _ => trivial) worker m report.outcome now
  -- what is left concerns no other message
  have hrest := hsettle.bind fun result hresult =>
    makes_conclude (hresult.id_eq.trans hm) result.2.tallies_event
  exact .after hd hd' (hrest.sameDeed (h₁.of_done hd hd'))

/-- A signed attempt does the same deed in worlds that are alike for its message. -/
theorem sameDeed_attemptSigned (h : w.Alike id v) (hm : m.id = id) {r : DeliveryRequest}
    {signature : Option Signature}
    (halike : (worker.attemptSigned m r signature).AnsweredAlike w v) :
    SameDeed id w v ((worker.attemptSigned m r signature).run w)
      ((worker.attemptSigned m r signature).run v) := by
  rw [attemptSigned_eq] at halike ⊢
  have hheedless := halike.start silent_after_exchange
  have hdeliver := worker.client.deliver_heedless (r.sign signature) hheedless
  have hexchange := worker.exchange_run (r.sign signature) w
  have hexchange' := worker.exchange_run (r.sign signature) v
  rw [Task.run_bind_some hexchange, Task.run_bind_some hexchange']
  obtain ⟨-, d, hd, hd'⟩ := h.sameDeed_leaving (some ())
    (worker.client.deliver w.network w.sent (r.sign signature)).2
    (worker.client.deliver v.network v.sent (r.sign signature)).2 (w.asked + 1) (v.asked + 1)
  refine .after hd hd' (sameDeed_afterExchange (h.of_done hd hd') hm ?_)
  show (worker.client.deliver v.network v.sent _).1 = _
  rw [h.network_eq]
  exact hdeliver

/-- An attempt does the same deed in worlds that are alike for its message. -/
theorem sameDeed_attempt (h : w.Alike id v) (hm : m.id = id) {r : DeliveryRequest}
    (halike : (worker.attempt m r).AnsweredAlike w v) :
    SameDeed id w v ((worker.attempt m r).run w) ((worker.attempt m r).run v) := by
  rw [attempt_eq] at halike ⊢
  have hsigning := makes_signatureFor (P := Call.Concerns id) (m := m) trivial trivial
  refine .bind h (hsigning.sameDeed h) fun signature w₁ v₁ hw hv h₁ => ?_
  exact sameDeed_attemptSigned h₁ hm (halike.rest (silent_signatureFor m) hw hv)

/-- A delivery does the same deed in worlds that are alike for its message. -/
theorem sameDeed_deliver (h : w.Alike id v) (hm : m.id = id)
    (halike : (worker.deliver m).AnsweredAlike w v) :
    SameDeed id w v ((worker.deliver m).run w) ((worker.deliver m).run v) := by
  rw [deliver] at halike ⊢
  cases hrequest : DeliveryRequest.ofMessage m with
  | ok r =>
    rw [hrequest] at halike
    exact sameDeed_attempt h hm halike
  | error reason => exact (makes_reject (P := Call.Concerns id) hm rfl reason).sameDeed h

/-- Nothing is sent once the delivery is over. -/
theorem silent_afterDelivery (result : Except PipelineError Transition) :
    (match result with
      | .error e => return .error e
      | .ok t => do
        Task.perform (.note .processed)
        return .ok (some t) : Task (Except PipelineError (Option Transition))).Silent := by
  cases result with
  | error e => trivial
  | ok t => exact ⟨rfl, fun _ => trivial⟩

/-- Processing does the same deed in worlds that are alike for its message. -/
theorem sameDeed_processMessage (h : w.Alike id v) (hm : m.id = id)
    (halike : (worker.processMessage m).AnsweredAlike w v) :
    SameDeed id w v ((worker.processMessage m).run w) ((worker.processMessage m).run v) := by
  rw [processMessage] at halike ⊢
  by_cases hterminal : m.status.isTerminal = true
  · rw [if_pos hterminal]
    exact h.sameDeed_leaving _ w.sent v.sent w.asked v.asked
  · rw [if_neg hterminal] at halike ⊢
    refine .bind h (sameDeed_deliver h hm (halike.start silent_afterDelivery)) ?_
    intro result w₁ v₁ _ _ h₁
    cases result with
    | error e => exact h₁.sameDeed_leaving _ w₁.sent v₁.sent w₁.asked v₁.asked
    | ok t =>
      have hlast : (do
          Task.perform (.note .processed)
          return .ok (some t) : Task (Except PipelineError (Option Transition))).Makes
            (Call.Concerns id) fun _ => True := ⟨rfl, fun _ => trivial⟩
      exact hlast.sameDeed h₁

/-- The message that is loaded is the one of the identifier. -/
theorem id_of_findMessage (h : w.Alike id v) {w' : World}
    (hload : (Task.perform (.findMessage id)).run w = (some (.ok m), w')) : m.id = id := by
  rw [Task.run_perform] at hload
  simp only [World.perform, h.storeCall_eq] at hload
  have hfind : w.store.find id = .ok m := Option.some.inj (Prod.mk.inj hload).1
  rw [Store.find] at hfind
  cases hget : w.store.get? id with
  | none =>
    rw [hget] at hfind
    cases hfind
  | some stored =>
    rw [hget] at hfind
    obtain rfl := Except.ok.inj hfind
    exact Ledger.id_of_get? (k := w.ledger) hget

/-- An entry is dealt with alike in worlds that are alike for its message. -/
theorem sameDeed_process (h : w.Alike id v) {entry : String}
    (hentry : MessageId.ofText? entry = some id)
    (halike : (worker.process entry).AnsweredAlike w v) :
    SameDeed id w v ((worker.process entry).run w) ((worker.process entry).run v) := by
  rw [process, hentry] at halike ⊢
  have hload : (Task.perform (.findMessage id)).Makes (Call.Concerns id) fun _ => True :=
    Task.makes_perform rfl
  refine .bind h (hload.sameDeed h) fun found w₁ v₁ hw hv h₁ => ?_
  -- loading has sent nothing, so the receivers still answer alike
  have hrest := halike.rest (Task.silent_perform rfl) hw hv
  cases found with
  | ok m =>
    exact sameDeed_processMessage h₁ (id_of_findMessage h hw) hrest
  | error e =>
    have hended : (if e.isNotFound then pure (.ok none) else pure (.error e.toPipeline) :
        Task (Except PipelineError (Option Transition))).Makes (Call.Concerns id)
          fun _ => True := by
      split <;> trivial
    exact hended.sameDeed h₁

end Worker

-- ---------------------------------------------------------------------------
-- Two deeds in either order
-- ---------------------------------------------------------------------------

namespace World

/-- The world in which the outside supplies this. -/
def supplied (w : World) (supply : Supply) : World :=
  { w with supply }

/-- Whether two worlds agree on the messages and their order, on the counters, and for each message
on its attempts, except for their identifiers and the time that they took. -/
structure Agrees (w v : World) : Prop where
  messages : ∀ id, v.store.get? id = w.store.get? id
  ids : v.store.messages.map (·.id) = w.store.messages.map (·.id)
  attempts : ∀ id, (v.store.attempts.filter (·.messageId = id)).map (·.bare)
    = (w.store.attempts.filter (·.messageId = id)).map (·.bare)
  stats : v.stats = w.stats
  metrics : v.metrics = w.metrics

end World

/-- Counters come to the same whichever deed is counted first. -/
theorem Deed.foldl_comm {σ : Type} {count : σ → Event → σ}
    (hcount : ∀ (s : σ) {e e' : Event}, e.tallies = true → e'.tallies = true →
      count (count s e) e' = count (count s e') e)
    {a b : MessageId} (d : Deed a) (e : Deed b) (s : σ) :
    d.events.foldl count (e.events.foldl count s)
      = e.events.foldl count (d.events.foldl count s) := by
  have htallied : ∀ event ∈ e.events ++ d.events, event.tallies = true :=
    List.forall_mem_append.mpr ⟨e.tallied, d.tallied⟩
  rw [← List.foldl_append, ← List.foldl_append]
  exact List.perm_append_comm.foldl_eq'
    (fun p hp q hq s => hcount s (htallied p hp) (htallied q hq)) s

/-- A deed records no attempt for another message. -/
theorem Deed.filter_attempts {a id : MessageId} (d : Deed a) (hne : id ≠ a) :
    d.attempts.filter (·.messageId = id) = [] := by
  rw [List.filter_eq_nil_iff]
  intro x hx
  rw [decide_eq_true_eq, d.own x hx]
  exact Ne.symm hne

/-- The deeds of two messages, in either order. -/
theorem World.agrees_of_done {a b : MessageId} (hne : a ≠ b) {d : Deed a} {e : Deed b}
    {w u x v y : World} {s s' : Supply} (hd : d.Done (w.supplied s) u)
    (he : e.Done (u.supplied s') x) (he' : e.Done (w.supplied s') v)
    (hd' : d.Done (v.supplied s) y) : x.Agrees y := by
  refine ⟨fun id => ?_, ?_, fun id => ?_, ?_, ?_⟩
  · -- the first message, the second one, or neither
    by_cases ha : id = a
    · subst ha
      rw [hd'.message, he.others id hne]
      exact hd.message.symm
    · by_cases hb : id = b
      · subst hb
        rw [he.message, hd'.others id ha]
        exact he'.message
      · rw [hd'.others id ha, he.others id hb]
        exact (he'.others id hb).trans (hd.others id ha).symm
  · rw [hd'.ids, he.ids]
    exact he'.ids.trans hd.ids.symm
  · -- one message at a time the order of the two deeds does not show
    have hfilter : ∀ l : List Attempt, (l.filter (·.messageId = id)).map (·.bare)
        = (l.map (·.bare)).filter (·.messageId = id) := by
      intro l
      rw [List.filter_map]
      rfl
    have hattempts : v.store.attempts.map (·.bare) ++ d.attempts
        = w.store.attempts.map (·.bare) ++ e.attempts ++ d.attempts :=
      congrArg (· ++ d.attempts) he'.attempts
    have hattempts' : u.store.attempts.map (·.bare) ++ e.attempts
        = w.store.attempts.map (·.bare) ++ d.attempts ++ e.attempts :=
      congrArg (· ++ e.attempts) hd.attempts
    rw [hfilter, hfilter, hd'.attempts.trans hattempts, he.attempts.trans hattempts']
    simp only [List.filter_append]
    by_cases ha : id = a
    · rw [e.filter_attempts fun hb => hne (ha.symm.trans hb), List.append_nil, List.append_nil]
    · rw [d.filter_attempts ha, List.append_nil, List.append_nil]
  · rw [hd'.stats, he.stats]
    show d.events.foldl _ v.stats = e.events.foldl _ u.stats
    rw [hd.stats, he'.stats]
    exact d.foldl_comm Stats.count_comm e w.stats
  · rw [hd'.metrics, he.metrics]
    show d.events.foldl _ v.metrics = e.events.foldl _ u.metrics
    rw [hd.metrics, he'.metrics]
    exact d.foldl_comm Metrics.count_comm e w.metrics

/-- Receivers see nothing of what the outside supplies. -/
theorem Task.AnsweredAlike.supplied {α : Type} {t : Task α} {w v : World}
    (h : t.AnsweredAlike w v) (s : Supply) : t.AnsweredAlike w (v.supplied s) :=
  h

/-- A deed for one message leaves a world alike for the others, whatever the outside has supplied
for it. -/
theorem World.alike_of_done {a b : MessageId} (hne : a ≠ b) {e : Deed b} {w v : World}
    {s s' : Supply} (he : e.Done (w.supplied s') v) (hplanned : w.planned = []) (hs : s.Steady) :
    (w.supplied s).Alike a (v.supplied s) where
  setting := congrArg (·.supplied s) he.setting
  message := he.others a hne
  unplanned := hplanned
  steady := hs

namespace Worker

/-- An entry that is dealt with is a deed for its message. -/
theorem exists_done_process (worker : Worker) {entry : String} {id : MessageId}
    (hentry : MessageId.ofText? entry = some id) {w : World} (hplanned : w.planned = [])
    (hsteady : w.supply.Steady) : ∃ d : Deed id, d.Done w ((worker.process entry).run w).2 := by
  have halike : w.Alike id w := ⟨rfl, rfl, hplanned, hsteady⟩
  obtain ⟨-, d, hd, -⟩ : SameDeed id w w ((worker.process entry).run w) _ :=
    sameDeed_process halike hentry fun _ _ _ => rfl
  exact ⟨d, hd⟩

/-- Two entries of different messages can be dealt with in either order, with the same two results
and the same on record, if the outside supplies each alike first and second, and if the receivers of
each answer alike. -/
theorem interchange (x y : Worker) {entry entry' : String} {a b : MessageId}
    (hentry : MessageId.ofText? entry = some a) (hentry' : MessageId.ofText? entry' = some b)
    (hne : a ≠ b) (w : World) (hplanned : w.planned = []) {s s' : Supply} (hs : s.Steady)
    (hs' : s'.Steady)
    (halike : (x.process entry).AnsweredAlike (w.supplied s)
      ((y.process entry').run (w.supplied s')).2)
    (halike' : (y.process entry').AnsweredAlike (w.supplied s')
      ((x.process entry).run (w.supplied s)).2) :
    let first := (x.process entry).run (w.supplied s)
    let second := (y.process entry').run (first.2.supplied s')
    let first' := (y.process entry').run (w.supplied s')
    let second' := (x.process entry).run (first'.2.supplied s)
    second'.1 = first.1 ∧ second.1 = first'.1 ∧ second.2.Agrees second'.2 := by
  intro first second first' second'
  obtain ⟨_, halone⟩ := x.exists_done_process hentry (w := w.supplied s) hplanned hs
  obtain ⟨_, halone'⟩ := y.exists_done_process hentry' (w := w.supplied s') hplanned hs'
  -- after the other entry the world is alike for this message
  have hfirst : (w.supplied s).Alike a (first'.2.supplied s) :=
    World.alike_of_done hne halone' hplanned hs
  have hfirst' : (w.supplied s').Alike b (first.2.supplied s') :=
    World.alike_of_done hne.symm halone hplanned hs'
  obtain ⟨hresult, d, hd, hd'⟩ := sameDeed_process hfirst hentry (halike.supplied s)
  obtain ⟨hresult', e, he', he⟩ := sameDeed_process hfirst' hentry' (halike'.supplied s')
  exact ⟨hresult, hresult', World.agrees_of_done hne hd he he' hd'⟩

end Worker

/-- A message that no request can be made of. -/
def Message.toNowhere : Message :=
  { Message.toLoopback with id := Supply.counting.messageIds 1, url := "mailto:someone" }

/-- Two messages, on a network where every request is accepted. -/
def World.holdingTwo : World :=
  { World.fresh with
    store := { messages := [.toLoopback, .toNowhere] }
    network := fun _ _ =>
      .response { status := 200, headers := [], chunks := [], ending := .complete } }

/-- One is delivered and the other is refused, whichever comes first. -/
theorem Worker.interchange_holdingTwo :
    let w := World.holdingTwo
    let s := Supply.counting
    let first := (plain.process Message.toLoopback.id.text).run (w.supplied s)
    let second := (plain.process Message.toNowhere.id.text).run (first.2.supplied s)
    let first' := (plain.process Message.toNowhere.id.text).run (w.supplied s)
    let second' := (plain.process Message.toLoopback.id.text).run (first'.2.supplied s)
    second'.1 = first.1 ∧ second.1 = first'.1 ∧ second.2.Agrees second'.2
      ∧ second.2.store.messages.map (·.status) = [.success, .failed]
      ∧ second.2.store.attempts.map (·.statusCode) = [some 200]
      ∧ second.2.stats = { processed := 2, successful := 1, rejected := 1 } := by
  intro w s first second first' second'
  have hsteady : s.Steady := ⟨fun _ => rfl, fun _ _ => rfl⟩
  obtain ⟨hresult, hresult', hagrees⟩ := interchange plain plain
    (MessageId.ofText?_text Message.toLoopback.id) (MessageId.ofText?_text Message.toNowhere.id)
    (by decide) w rfl hsteady hsteady (fun _ _ _ => rfl) (fun _ _ _ => rfl)
  exact ⟨hresult, hresult', hagrees, by decide +kernel, by decide +kernel, by decide +kernel⟩

end WebhookDelivery
