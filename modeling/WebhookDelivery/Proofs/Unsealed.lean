import WebhookDelivery.Proofs.WireSignature

/-!
# Worlds without secrets

Whether an organisation has a secret decides about three headers of its requests. What is left of a
world without secrets, without those headers and without the time that attempts take is
`World.unsealed`. Calls and tasks that have to do with none of these are carried out alike in both
worlds, and a run with a secret is to be mirrored by one without.

* `followChain_stripped` — chains of exchanges, without the headers of a signature.
* `World.perform_unsealed`, `Task.Indifferent.run_unsealed` — what has nothing to do with secrets.
* `Mirrors` — what a run comes to with secrets and without.
-/

namespace WebhookDelivery

-- ---------------------------------------------------------------------------
-- Requests without the headers of a signature
-- ---------------------------------------------------------------------------

/-- Whether a header is one of those that a signature adds. -/
def isSignatureHeader (name : String) : Bool :=
  ["x-webhook-id", "x-webhook-timestamp", "x-webhook-signature"].contains name.toLower

/-- A request without the headers of a signature. -/
def WireRequest.stripped (r : WireRequest) : WireRequest :=
  { r with headers := r.headers.filter fun (name, _) => !isSignatureHeader name }

/-- Whether the headers of signatures make no difference to what a network answers, be it those of
the request or those of earlier ones. -/
def Network.Blind (network : Network) : Prop :=
  ∀ (sent sent' : List WireRequest) (r r' : WireRequest),
    sent.map (·.stripped) = sent'.map (·.stripped) → r.stripped = r'.stripped →
      network sent r = network sent' r'

namespace WireRequest

theorem stripped_stripped (r : WireRequest) : r.stripped.stripped = r.stripped := by
  simp [stripped, List.filter_filter]

theorem map_stripped_stripped (sent : List WireRequest) :
    (sent.map (·.stripped)).map (·.stripped) = sent.map (·.stripped) := by
  simp [stripped_stripped]

/-- A redirect takes the headers along, so they can be taken off before or after it. -/
theorem redirected_stripped (r : WireRequest) (status : UInt16) (target : Url) :
    r.stripped.redirected status target = (r.redirected status target).stripped := by
  simp only [redirected, stripped, List.filter_filter, Bool.and_comm]
  rfl

end WireRequest

/-- A blind network answers a stripped request as the request itself. -/
theorem Network.Blind.stripped {network : Network} (hblind : network.Blind)
    (sent : List WireRequest) (r : WireRequest) :
    network (sent.map (·.stripped)) r.stripped = network sent r :=
  hblind _ _ _ _ (WireRequest.map_stripped_stripped sent) r.stripped_stripped

/-- Without the headers of a signature a chain goes the same way. -/
theorem followChain_stripped {network : Network} (hblind : network.Blind) (redirects : Nat)
    (shown : Url) (request : WireRequest) (sent : List WireRequest) :
    followChain network redirects shown request.stripped (sent.map (·.stripped))
      = ((followChain network redirects shown request sent).1.map fun (last, answer) =>
            (last.stripped, answer),
          (followChain network redirects shown request sent).2.map (·.stripped)) := by
  -- on the redirects that are left
  induction redirects generalizing shown request sent with
  | zero =>
    rw [followChain.eq_def, followChain.eq_def, hblind.stripped]
    cases network sent request with
    | refused | unusable | timedOut => rfl
    | response r =>
      rcases hreading : r.target? shown with _ | ⟨target | scheme⟩ <;> simp [hreading, Except.map]
  | succ left ih =>
    rw [followChain.eq_def, followChain.eq_def network _ _ request, hblind.stripped]
    cases network sent request with
    | refused | unusable | timedOut => rfl
    | response r =>
      rcases hreading : r.target? shown with _ | ⟨target | scheme⟩
      · simp [hreading, Except.map]
      · simp only [hreading, WireRequest.redirected_stripped]
        exact ih target _ (request :: sent)
      · simp [hreading, Except.map]

namespace DeliveryRequest

/-- Without the headers of its signature a request is the unsigned one. -/
theorem stripped_wire (r : DeliveryRequest) (signature : Option Signature) (userAgent : String) :
    ((r.sign signature).wire userAgent).stripped = (r.sign none).wire userAgent := by
  obtain ⟨hnames, -, hid, htime, htoken⟩ := toLower_names
  simp only [List.forall_mem_cons] at hnames
  obtain ⟨htype, hagent, hauth, hid', htime', htoken', -⟩ := hnames
  -- the credentials are no header of a signature
  have hcredentials : (credentialHeaders r.url).filter (fun (name, _) => !isSignatureHeader name)
      = credentialHeaders r.url := by
    rw [credentialHeaders]
    cases r.url.credentials? with
    | none => rfl
    | some pair => simp [isSignatureHeader, hauth]
  -- of the signature nothing is left
  have hsignature : (signature.elim [] fun s =>
        s.headers.map fun (name, v) => (name.toLower, v)).filter
          (fun (name, _) => !isSignatureHeader name) = [] := by
    cases signature with
    | none => rfl
    | some s =>
      simp [Signature.headers, isSignatureHeader, hid, htime, htoken, hid', htime', htoken']
  simp only [wire, sign, WireRequest.stripped, List.filter_append, hcredentials, hsignature]
  simp [isSignatureHeader, htype, hagent]

end DeliveryRequest

/-- A delivery goes the same way whether or not it is signed. -/
theorem Client.deliver_stripped {network : Network} (hblind : network.Blind) (c : Client)
    (sent : List WireRequest) (r : DeliveryRequest) (signature : Option Signature) :
    c.deliver network (sent.map (·.stripped)) (r.sign none)
      = ((c.deliver network sent (r.sign signature)).1,
          (c.deliver network sent (r.sign signature)).2.map (·.stripped)) := by
  have hchain := followChain_stripped hblind c.settings.maxRedirects.toNat r.url
    ((r.sign signature).wire c.settings.userAgent) sent
  rw [DeliveryRequest.stripped_wire] at hchain
  by_cases hsendable : r.url.isSendable = true
  · simp only [deliver, DeliveryRequest.sign, hsendable, if_true] at hchain ⊢
    rw [hchain]
    rcases followChain network c.settings.maxRedirects.toNat r.url _ sent
      with ⟨failure | ⟨last, answer⟩, sent'⟩ <;> rfl
  · simp [deliver, DeliveryRequest.sign, hsendable]

-- ---------------------------------------------------------------------------
-- Worlds without secrets
-- ---------------------------------------------------------------------------

/-- An attempt without the time that it took. -/
def Attempt.untimed (a : Attempt) : Attempt :=
  { a with durationMs := a.durationMs.map fun _ => 0 }

/-- An attempt that is about to be recorded, without the time that it took. -/
def NewAttempt.untimed (a : NewAttempt) : NewAttempt :=
  { a with durationMs := a.durationMs.map fun _ => 0 }

theorem Attempt.untimed_untimed (a : Attempt) : a.untimed.untimed = a.untimed := by
  cases hduration : a.durationMs <;> simp [untimed, hduration]

/-- What the lives of messages have come to. -/
structure Standing where
  messages : List Message
  attempts : List Attempt
  queue : Queue
  stats : Stats
  metrics : Metrics
  deriving DecidableEq

/-- A store without secrets and the time that attempts take. -/
def Store.unsealed (s : Store) : Store :=
  { s with secrets := [], attempts := s.attempts.map (·.untimed) }

namespace World

/-- What the lives of messages have come to in a world, except how long attempts took. -/
def standing (w : World) : Standing :=
  { messages := w.store.messages, attempts := w.store.attempts.map (·.untimed), queue := w.queue
    stats := w.stats, metrics := w.metrics }

/-- The world as it would be without secrets, signatures and the time that attempts take. -/
def unsealed (w : World) : World :=
  { w with
    store := w.store.unsealed
    sent := w.sent.map (·.stripped)
    supply := { w.supply with durations := fun _ => .zero } }

theorem standing_unsealed (w : World) : w.unsealed.standing = w.standing := by
  simp [standing, unsealed, Store.unsealed, Attempt.untimed_untimed]

end World

namespace Store

variable (s : Store) (id : MessageId)

/-- A status is set alike with and without secrets. -/
theorem setStatus_unsealed (status : Status) (now : Instant) :
    s.unsealed.setStatus id status now
      = (s.setStatus id status now).map fun (m, s') => (m, s'.unsealed) := by
  rw [setStatus, setStatus, show s.unsealed.get? id = s.get? id from rfl]
  rw [show s.unsealed.failMessageUpdates = s.failMessageUpdates from rfl]
  split
  · rfl
  · cases s.get? id with
    | none => rfl
    | some m =>
      simp only
      cases m.setStatus status now <;> rfl

/-- A message is updated alike with and without secrets. -/
theorem update_unsealed (m : Message) :
    s.unsealed.update m = (s.update m).map (·.unsealed) := by
  rw [update, update, show s.unsealed.get? m.id = s.get? m.id from rfl,
    show s.unsealed.failMessageUpdates = s.failMessageUpdates from rfl]
  split
  · rfl
  · split
    · rfl
    · cases s.get? m.id <;> rfl

/-- A message is requeued alike with and without secrets. -/
theorem requeue_unsealed (due now : Instant) :
    s.unsealed.requeue id due now
      = (s.requeue id due now).map fun (done, s') => (done, s'.unsealed) := by
  rw [requeue, requeue, show s.unsealed.get? id = s.get? id from rfl,
    show s.unsealed.failMessageUpdates = s.failMessageUpdates from rfl]
  split
  · rfl
  · cases s.get? id with
    | none => rfl
    | some m =>
      simp only
      split
      · rfl
      · cases m.setStatus .pending now <;> rfl

/-- Due messages are found alike with and without secrets. -/
theorem findDue_unsealed (limit : Nat) (now : Instant) :
    s.unsealed.findDue limit now
      = ((s.findDue limit now).1, (s.findDue limit now).2.unsealed) := by
  rw [findDue, findDue, show s.unsealed.dueQueryFailure = s.dueQueryFailure from rfl]
  cases s.dueQueryFailure <;> rfl

/-- An attempt is recorded alike with and without secrets, its time aside. -/
theorem record_unsealed (uuid : Uuid) (a : NewAttempt) :
    s.unsealed.record uuid a.untimed
      = (s.record uuid a).map fun (r, s') => (r.untimed, s'.unsealed) := by
  rw [record, record, show s.unsealed.failAttemptWrites = s.failAttemptWrites from rfl,
    show a.untimed.result = a.result from rfl,
    show s.unsealed.contains a.untimed.messageId = s.contains a.messageId from rfl]
  split
  · rfl
  · split
    · rfl
    · split
      · rfl
      · simp [Except.map, unsealed, NewAttempt.record, NewAttempt.untimed, Attempt.untimed]

end Store

/-- Whether a call has nothing to do with secrets, receivers and the record of attempts. -/
def Call.Indifferent : Call → Prop
  | .findSigningSecret _ | .send _ _ | .recordAttempt _ | .findAttempts _ => False
  | _ => True

namespace World

/-- A store call is answered alike, if its operation is. -/
theorem storeCall_unsealed {α : Type} (w : World) (op : StoreOperation)
    {run run' : Unit → Except StoreError α × World}
    (h : run' () = ((run ()).1, (run ()).2.unsealed)) :
    w.unsealed.storeCall op run'
      = ((w.storeCall op run).1, (w.storeCall op run).2.unsealed) := by
  rw [storeCall, storeCall, show w.unsealed.planned = w.planned from rfl]
  cases takePlanned op w.planned with
  | none => exact h
  | some taken => rfl

/-- A write is answered alike, if it is of the same. -/
theorem write_unsealed {α : Type} (w : World) {r r' : Except StoreError (α × Store)}
    (h : r' = r.map fun (a, s) => (a, s.unsealed)) :
    w.unsealed.write r' = ((w.write r).1, (w.write r).2.unsealed) := by
  subst h
  cases r <;> rfl

/-- Such a call is answered alike without secrets. -/
theorem perform_unsealed (w : World) {c : Call} (hc : c.Indifferent) :
    w.unsealed.perform c = ((w.perform c).1, (w.perform c).2.unsealed) := by
  -- the store answers alike; queue and clock have no secrets
  cases c with
  | findSigningSecret | send | recordAttempt | findAttempts => cases hc
  | createMessage | findMessage | findPending =>
    simp only [perform]
    rw [storeCall_unsealed w]
    rfl
  | findRetryReady limit now =>
    simp only [perform]
    rw [storeCall_unsealed w]
    have hdue := w.store.findDue_unsealed limit now
    rw [show w.unsealed.store = w.store.unsealed from rfl, hdue]
    rfl
  | updateMessageStatus id status =>
    simp only [perform]
    rw [storeCall_unsealed w]
    exact w.storeTime.2.write_unsealed (w.store.setStatus_unsealed id status _)
  | updateMessage m =>
    simp only [perform]
    rw [storeCall_unsealed w]
    refine w.write_unsealed ?_
    rw [show w.unsealed.store = w.store.unsealed from rfl, Store.update_unsealed]
    cases w.store.update m <;> rfl
  | requeueMessage id due =>
    simp only [perform]
    rw [storeCall_unsealed w]
    exact w.storeTime.2.write_unsealed (w.store.requeue_unsealed id due _)
  | push entry =>
    simp only [perform, show w.unsealed.queue = w.queue from rfl]
    cases w.queue.push entry <;> rfl
  | pop =>
    simp only [perform, show w.unsealed.popPlan = w.popPlan from rfl]
    cases w.popPlan with
    | none => rfl
    | some plan =>
      rcases plan with ⟨_ | failing, _ | handouts⟩
      · rfl
      · simp only [plannedPop, show w.unsealed.queue = w.queue from rfl]
        rcases w.queue.pop with ⟨_ | entry, queue⟩ <;> rfl
      · rfl
      · rfl
  | sleep d =>
    simp only [perform, show w.unsealed.clock = w.clock from rfl]
    cases w.clock.advance d <;> rfl
  | queueLength | queueContains | now | drawOffset | note => rfl

/-- The network and all that was sent on it. -/
def wire (w : World) : Network × List WireRequest :=
  (w.network, w.sent)

/-- A store call sends nothing, if its operation does not. -/
theorem wire_storeCall {α : Type} (w : World) (op : StoreOperation)
    {run : Unit → Except StoreError α × World} (h : (run ()).2.wire = w.wire) :
    (w.storeCall op run).2.wire = w.wire := by
  rcases w.storeCall_cases op run with ⟨e, planned, -, heq⟩ | ⟨-, heq⟩
  · rw [heq]
    rfl
  · rw [heq, h]

theorem wire_write {α : Type} (w : World) (r : Except StoreError (α × Store)) :
    (w.write r).2.wire = w.wire := by
  cases r <;> rfl

/-- Only a call to a receiver sends anything. -/
theorem wire_perform (w : World) {c : Call} (hc : c.sends = false) :
    (w.perform c).2.wire = w.wire := by
  cases c with
  | send => cases hc
  | createMessage | findMessage | findRetryReady | findPending | findAttempts
  | findSigningSecret =>
    simp only [perform]
    exact wire_storeCall w _ rfl
  | updateMessageStatus | updateMessage | requeueMessage | recordAttempt =>
    simp only [perform]
    exact wire_storeCall w _ (wire_write _ _)
  | push entry =>
    simp only [perform]
    cases w.queue.push entry <;> rfl
  | pop =>
    simp only [perform]
    cases w.popPlan with
    | none => rfl
    | some plan =>
      rcases plan with ⟨_ | failing, _ | handouts⟩
      · rfl
      · simp only [plannedPop]
        rcases w.queue.pop with ⟨_ | entry, queue⟩ <;> rfl
      · rfl
      · rfl
  | sleep d =>
    simp only [perform]
    cases w.clock.advance d <;> rfl
  | queueLength | queueContains | now | drawOffset | note => rfl

/-- No call changes the network. -/
theorem network_perform (w : World) (c : Call) : (w.perform c).2.network = w.network := by
  cases hsends : c.sends with
  | false => exact congrArg Prod.fst (w.wire_perform hsends)
  | true =>
    cases c with
    | send => rfl
    | _ => cases hsends

end World

-- ---------------------------------------------------------------------------
-- Tasks without secrets
-- ---------------------------------------------------------------------------

namespace Task

/-- Whether all calls of a task have nothing to do with secrets, receivers and the record of
attempts. -/
def Indifferent {α : Type} : Task α → Prop
  | done _ => True
  | breakdown => True
  | call c next => c.Indifferent ∧ ∀ answer, (next answer).Indifferent

variable {α β : Type} {t u : Task α} {f g : α → Task β}

theorem indifferent_perform {c : Call} (hc : c.Indifferent) : (perform c).Indifferent :=
  ⟨hc, fun _ => trivial⟩

/-- Indifferent tasks, one after another, are indifferent. -/
theorem Indifferent.bind (ht : t.Indifferent) (hf : ∀ a, (f a).Indifferent) :
    (t >>= f).Indifferent := by
  induction t with
  | done a => exact hf a
  | breakdown => trivial
  | call c next ih => exact ⟨ht.1, fun answer => ih answer (ht.2 answer)⟩

/-- A task whose calls are indifferent is indifferent. -/
theorem Makes.indifferent {Q : α → Prop} (ht : t.Makes Call.Indifferent Q) : t.Indifferent := by
  induction t with
  | done a => trivial
  | breakdown => trivial
  | call c next ih => exact ⟨ht.1, fun answer => ih answer (ht.2 answer)⟩

/-- Such a task goes the same way without secrets. -/
theorem Indifferent.run_unsealed (ht : t.Indifferent) (w : World) :
    t.run w.unsealed = ((t.run w).1, (t.run w).2.unsealed) := by
  induction t generalizing w with
  | done a => rfl
  | breakdown => rfl
  | call c next ih =>
    rw [run, run, World.perform_unsealed w ht.1]
    rcases w.perform c with ⟨_ | answer, w'⟩
    · rfl
    · exact ih answer (ht.2 answer) w'

theorem run_call {c : Call} {next : c.Answer → Task α} {w w' : World} {answer : c.Answer}
    (h : w.perform c = (some answer, w')) : (call c next).run w = (next answer).run w' := by
  rw [run, h]

theorem run_call_none {c : Call} {next : c.Answer → Task α} {w w' : World}
    (h : w.perform c = (none, w')) : (call c next).run w = (none, w') := by
  rw [run, h]

theorem run_bind_some {w w' : World} {a : α} (h : t.run w = (some a, w')) :
    (t >>= f).run w = (f a).run w' := by
  have hbind : (t >>= f).run w = _ := t.run_bind f w
  rw [hbind, h]

/-- A task after another that ends goes on where that one has ended. -/
theorem exists_of_run_bind {w w' : World} {b : β} (h : (t >>= f).run w = (some b, w')) :
    ∃ a v, t.run w = (some a, v) ∧ (f a).run v = (some b, w') := by
  have hbind : (t >>= f).run w = _ := t.run_bind f w
  rw [hbind] at h
  rcases hrun : t.run w with ⟨_ | a, v⟩
  · rw [hrun] at h
    cases (Prod.mk.inj h).1
  · rw [hrun] at h
    exact ⟨a, v, rfl, h⟩

theorem run_bind_none {w w' : World} (h : t.run w = (none, w')) :
    (t >>= f).run w = (none, w') := by
  have hbind : (t >>= f).run w = _ := t.run_bind f w
  rw [hbind, h]

/-- No task changes the network. -/
theorem network_run (t : Task α) (w : World) : (t.run w).2.network = w.network := by
  induction t generalizing w with
  | done a => rfl
  | breakdown => rfl
  | call c next ih =>
    rw [run]
    have hcall := w.network_perform c
    rcases hperform : w.perform c with ⟨_ | answer, w'⟩
    · rw [hperform] at hcall
      exact hcall
    · rw [hperform] at hcall
      exact (ih answer w').trans hcall

end Task

/-- A network stays blind after a call. -/
theorem Network.Blind.of_perform {c : Call} {w w' : World} {answer? : Option c.Answer}
    (hblind : w.network.Blind) (hperform : w.perform c = (answer?, w')) : w'.network.Blind := by
  have hnetwork := w.network_perform c
  rw [hperform] at hnetwork
  exact hnetwork ▸ hblind

/-- A network stays blind after a task. -/
theorem Network.Blind.of_run {α : Type} {t : Task α} {w w' : World} {a? : Option α}
    (hblind : w.network.Blind) (hrun : t.run w = (a?, w')) : w'.network.Blind := by
  have hnetwork := t.network_run w
  rw [hrun] at hnetwork
  exact hnetwork ▸ hblind

/-- Whether what a run comes to is mirrored without secrets: the same result, the same lives of
messages, and all else the same too if there is a result. If there is none, all else is the same
as long as the run was steady. -/
structure Mirrors {α : Type} (steady : Prop) (x y : Option α × World) : Prop where
  result : y.1 = x.1
  standing : y.2.standing = x.2.standing
  world : x.1.isSome = true ∨ steady → y.2 = x.2.unsealed

namespace Mirrors

variable {α β : Type} {P Q : Prop} {t u : Task α} {f g : α → Task β} {w w' : World}

theorem of_eq {x y : Option α × World} (h : y = (x.1, x.2.unsealed)) : Mirrors P x y := by
  subst h
  exact ⟨rfl, x.2.standing_unsealed, fun _ => rfl⟩

/-- What has nothing to do with secrets is mirrored however it ends. -/
theorem of_indifferent (ht : t.Indifferent) (w : World) :
    Mirrors P (t.run w) (t.run w.unsealed) :=
  .of_eq (ht.run_unsealed w)

theorem done (a : α) (w : World) :
    Mirrors P ((Task.done a).run w) ((Task.done a).run w.unsealed) :=
  .of_eq rfl

theorem map {x y : Option α × World} (h : Mirrors P x y) (f : α → β) :
    Mirrors P (x.1.map f, x.2) (y.1.map f, y.2) := by
  obtain ⟨hresult, hstanding, hworld⟩ := h
  exact ⟨congrArg (·.map f) hresult, hstanding, fun hsome => hworld (by simpa using hsome)⟩

/-- Whether a run was steady matters only if it breaks down. -/
theorem of_imp {x y : Option α × World} (h : Mirrors P x y) (himp : x.1 = none → Q → P) :
    Mirrors Q x y := by
  refine ⟨h.result, h.standing, fun hends => h.world ?_⟩
  rcases hx : x.1 with _ | a
  · rw [hx] at hends
    exact .inr (himp hx (hends.resolve_left Bool.false_ne_true))
  · exact .inl rfl

/-- A call that has nothing to do with secrets is mirrored, and what follows it decides. -/
theorem call {c : Call} {next : c.Answer → Task α} (hc : c.Indifferent)
    (hnext : ∀ answer w₁, w.perform c = (some answer, w₁) →
      Mirrors P ((next answer).run w₁) ((next answer).run w₁.unsealed)) :
    Mirrors P ((Task.call c next).run w) ((Task.call c next).run w.unsealed) := by
  rw [Task.run, Task.run, World.perform_unsealed w hc]
  rcases hperform : w.perform c with ⟨_ | answer, w₁⟩
  · exact .of_eq rfl
  · exact hnext answer w₁ hperform

/-- What is mirrored step by step is mirrored as a whole. -/
theorem bind (h : Mirrors P (t.run w) (u.run w'))
    (hnext : ∀ a w₁, t.run w = (some a, w₁) → Mirrors P ((f a).run w₁) ((g a).run w₁.unsealed)) :
    Mirrors P ((t >>= f).run w) ((u >>= g).run w') := by
  have hleft : (t >>= f).run w = _ := t.run_bind f w
  have hright : (u >>= g).run w' = _ := u.run_bind g w'
  rw [hleft, hright]
  obtain ⟨hresult, hstanding, hworld⟩ := h
  -- if one task breaks down so does the other, and nothing follows
  rcases hx : t.run w with ⟨_ | a, w₁⟩
  · rcases hy : u.run w' with ⟨_ | b, w₂⟩
    · rw [hx, hy] at hstanding hworld
      exact ⟨rfl, hstanding, fun hends =>
        hworld (hends.imp_left fun hsome => absurd hsome Bool.false_ne_true)⟩
    · rw [hx, hy] at hresult
      cases hresult
  · rcases hy : u.run w' with ⟨_ | b, w₂⟩
    · rw [hx, hy] at hresult
      cases hresult
    · rw [hx, hy] at hresult hworld
      obtain rfl := Option.some.inj hresult
      obtain rfl : w₂ = w₁.unsealed := hworld (.inl rfl)
      exact hnext b w₁ hx

end Mirrors

end WebhookDelivery
