import WebhookDelivery.Proofs.Digits
import WebhookDelivery.Proofs.Redirects
import WebhookDelivery.Proofs.Verification

/-!
# What goes on the wire is signed for what is sent

A receiver has nothing but the request that arrives: it reads identifier, timestamp and signature
from the headers and checks them against the body. So the signature must be over the very texts and
octets that are sent. It is, for every request that a delivery puts on the wire, whether or not the
delivery comes to an end after it: `Task.Reaches` is about all the ways in which a task can have got
somewhere, with anything happening between its calls.

Whether a request is signed is decided by the one lookup of a secret before it. A store that has a
secret answers with it, unless a failure was planned for the lookup; then the request goes out
unsigned, as if there were none.

* `Signature.verify_token` — a receiver accepts what signing makes.
* `World.ok_findSigningSecret_iff` — what a lookup is answered with.
* `Task.Reaches.split` — what is reached past a call: the way to the call, and the way from its
  answer.
* `Worker.afterExchange_of_reaches` — before its one request, an attempt looks the secret up and
  signs.
* `Worker.wire_signed` — what the first request of a delivery carries.
-/

namespace WebhookDelivery

-- ---------------------------------------------------------------------------
-- What a receiver sees
-- ---------------------------------------------------------------------------

/-- All values that headers give to a name. Case is of no account in names. -/
def headerValues (headers : List (String × String)) (name : String) : List String :=
  (headers.filter (·.1.toLower = name.toLower)).map (·.2)

namespace WireRequest

/-- All values of a header of a request. -/
def values (r : WireRequest) (name : String) : List String :=
  headerValues r.headers name

/-- Whether a receiver that knows the secret accepts a request for this identifier and second: each
of the three headers is there once, the timestamp is the second in decimal and reads back as it, and
the signature verifies over the body that was sent. -/
structure SignedFor (r : WireRequest) (webhookId : String) (seconds : Int) (secret : String) :
    Prop where
  id : r.values "X-Webhook-ID" = [webhookId]
  timestamp : ∃ text, r.values "X-Webhook-Timestamp" = [text]
    ∧ Decimal.readInt? text.toList = some seconds
  signature : ∃ token, r.values "X-Webhook-Signature" = [token]
    ∧ Signature.verify webhookId seconds r.body secret token = true

/-- Whether a request has none of the headers that a signature adds. -/
def Unsigned (r : WireRequest) : Prop :=
  r.values "X-Webhook-ID" = [] ∧ r.values "X-Webhook-Timestamp" = []
    ∧ r.values "X-Webhook-Signature" = []

end WireRequest

namespace Base64

theorem isBlank_digit {n : Nat} (h : n < 64) : isBlank (digit n) = false := by
  have hall : ∀ k : Fin 64, isBlank (digit k.val) = false := by decide
  exact hall ⟨n, h⟩

/-- The writing of octets is one word. -/
theorem isBlank_of_mem_encode {bytes : Octets} {c : Char} (h : c ∈ encode bytes) :
    isBlank c = false := by
  have hpad : isBlank '=' = false := by decide
  -- on the octets, three at a time; the last one or two are padded
  induction bytes using encode.induct with
  | case1 => cases h
  | case2 a =>
    have ha := a.toNat_lt
    simp only [encode, List.mem_cons, List.not_mem_nil, or_false] at h
    rcases h with rfl | rfl | rfl | rfl
    · exact isBlank_digit (by omega)
    · exact isBlank_digit (by omega)
    · exact hpad
    · exact hpad
  | case3 a b =>
    have ha := a.toNat_lt
    have hb := b.toNat_lt
    simp only [encode, List.mem_cons, List.not_mem_nil, or_false] at h
    rcases h with rfl | rfl | rfl | rfl
    · exact isBlank_digit (by omega)
    · exact isBlank_digit (by omega)
    · exact isBlank_digit (by omega)
    · exact hpad
  | case4 a b d rest ih =>
    have ha := a.toNat_lt
    have hb := b.toNat_lt
    have hd := d.toNat_lt
    simp only [encode, List.mem_cons] at h
    rcases h with rfl | rfl | rfl | rfl | h
    · exact isBlank_digit (by omega)
    · exact isBlank_digit (by omega)
    · exact isBlank_digit (by omega)
    · exact isBlank_digit (by omega)
    · exact ih h

end Base64

namespace Signature

/-- No character of a token is blank. -/
theorem isBlank_of_mem_token {webhookId secret : String} {payload : Octets} {timestamp : Int}
    {c : Char} (h : c ∈ (sign webhookId secret payload timestamp).token.toList) :
    isBlank c = false := by
  rw [toList_token_sign, List.mem_append, List.mem_cons] at h
  rcases h with hversion | rfl | hcode
  · have hall : signatureVersion.toList.all (!isBlank ·) = true := by decide
    simpa using List.all_eq_true.mp hall c hversion
  · decide
  · exact Base64.isBlank_of_mem_encode hcode

/-- A receiver accepts what was signed, under whatever name, if the codes are the same. -/
theorem verify_token_iff {a b secret : String} {p q : Octets} {s t : Int} :
    verify a s p secret (sign b secret q t).token = true ↔ code a secret p s = code b secret q t := by
  -- the token is one word, so the receiver sees it as it was written
  have hsolid : ∀ c ∈ (sign b secret q t).token.toList, isBlank c = false :=
    fun _ => isBlank_of_mem_token
  have htoken := toList_token_sign b secret q t
  have hne : (sign b secret q t).token.toList ≠ [] := by
    rw [htoken]
    exact List.append_ne_nil_of_right_ne_nil _ (List.cons_ne_nil _ _)
  rw [verify, List.any_eq_true]
  constructor
  · rintro ⟨token, hword, hfits⟩
    obtain ⟨-, rfl⟩ := (IsWord.iff_of_solid hsolid).mp (mem_wordsOf_iff.mp hword)
    rw [tokenFits_iff, htoken, List.append_cancel_left_eq, List.cons.injEq] at hfits
    have hread := Base64.decode?_eq_some_iff.mpr hfits.2
    rw [Base64.decode?_eq_some_iff.mpr rfl] at hread
    exact Option.some.inj hread
  · intro hcode
    refine ⟨_, mem_wordsOf_iff.mpr ((IsWord.iff_of_solid hsolid).mpr ⟨hne, rfl⟩), ?_⟩
    rw [tokenFits_iff, htoken, hcode]

/-- A receiver accepts what signing makes. -/
theorem verify_token (webhookId secret : String) (payload : Octets) (timestamp : Int) :
    verify webhookId timestamp payload secret (sign webhookId secret payload timestamp).token
      = true :=
  verify_token_iff.mpr rfl

end Signature

-- ---------------------------------------------------------------------------
-- The headers of a request
-- ---------------------------------------------------------------------------

theorem headerValues_nil (name : String) : headerValues [] name = [] :=
  rfl

theorem headerValues_append (hs hs' : List (String × String)) (name : String) :
    headerValues (hs ++ hs') name = headerValues hs name ++ headerValues hs' name := by
  simp [headerValues]

/-- A header adds its value under its own name, in whatever case. -/
theorem headerValues_cons (n v : String) (hs : List (String × String)) (name : String) :
    headerValues ((n, v) :: hs) name
      = (if n.toLower = name.toLower then [v] else []) ++ headerValues hs name := by
  rw [headerValues, List.filter_cons]
  by_cases h : n.toLower = name.toLower
  · simp [h, headerValues]
  · simp [h, headerValues]

/-- The names that stand in a request are in lower case, and these are the ones that a receiver asks
for. -/
theorem toLower_names :
    (∀ name ∈ ["content-type", "user-agent", "authorization", "x-webhook-id", "x-webhook-timestamp",
      "x-webhook-signature"], name.toLower = name)
    ∧ "Content-Type".toLower = "content-type" ∧ "X-Webhook-ID".toLower = "x-webhook-id"
    ∧ "X-Webhook-Timestamp".toLower = "x-webhook-timestamp"
    ∧ "X-Webhook-Signature".toLower = "x-webhook-signature" := by
  decide +kernel

namespace DeliveryRequest

variable {r : DeliveryRequest} {userAgent : String}

/-- What the headers of a request say, whether or not it is signed. -/
theorem values_wire (name : String) :
    (r.wire userAgent).values name
      = (if "content-type" = name.toLower then ["application/json"] else [])
        ++ (if "user-agent" = name.toLower then [userAgent] else [])
        ++ (if "authorization" = name.toLower then (credentialHeaders r.url).map (·.2) else [])
        ++ r.signature.elim [] fun s =>
          (if "x-webhook-id" = name.toLower then [s.webhookId] else [])
            ++ (if "x-webhook-timestamp" = name.toLower then [toString s.timestamp] else [])
            ++ if "x-webhook-signature" = name.toLower then [s.token] else [] := by
  obtain ⟨hnames, -, hid, htime, htoken⟩ := toLower_names
  simp only [List.forall_mem_cons] at hnames
  obtain ⟨htype, hagent, hauth, hid', htime', htoken', -⟩ := hnames
  have hcredentials : headerValues (credentialHeaders r.url) name
      = if "authorization" = name.toLower then (credentialHeaders r.url).map (·.2) else [] := by
    rw [credentialHeaders]
    cases r.url.credentials? with
    | none => simp [headerValues_nil]
    | some pair => simp [headerValues_cons, headerValues_nil, hauth]
  -- each name that a signature uses is told from all other names
  have hsignature : headerValues (r.signature.elim [] fun s =>
        s.headers.map fun header => (header.1.toLower, header.2)) name
      = r.signature.elim [] fun s =>
          (if "x-webhook-id" = name.toLower then [s.webhookId] else [])
            ++ (if "x-webhook-timestamp" = name.toLower then [toString s.timestamp] else [])
            ++ if "x-webhook-signature" = name.toLower then [s.token] else [] := by
    cases r.signature with
    | none => rfl
    | some s =>
      simp [Signature.headers, headerValues_cons, headerValues_nil, hid, htime, htoken, hid',
        htime', htoken']
  rw [WireRequest.values, wire, headerValues_append, headerValues_append, hcredentials, hsignature,
    headerValues_cons, headerValues_cons, headerValues_nil, List.append_nil, htype, hagent]

/-- Every request says that its body is JSON. -/
theorem contentType_wire : (r.wire userAgent).values "Content-Type" = ["application/json"] := by
  rw [values_wire, toLower_names.2.1]
  cases r.signature <;> simp

/-- A request without a signature has none of its headers. -/
theorem unsigned_wire (h : r.signature = none) : (r.wire userAgent).Unsigned := by
  obtain ⟨-, -, hid, htime, htoken⟩ := toLower_names
  simp [WireRequest.Unsigned, values_wire, h, hid, htime, htoken]

/-- A request that was signed over its own body is accepted by a receiver that knows the secret. -/
theorem signedFor_wire {webhookId secret : String} {seconds : Int}
    (h : r.signature = some (.sign webhookId secret r.body seconds)) :
    (r.wire userAgent).SignedFor webhookId seconds secret := by
  obtain ⟨-, -, hid, htime, htoken⟩ := toLower_names
  refine ⟨?_, ⟨toString seconds, ?_, Decimal.readInt?_toString seconds⟩,
    ⟨_, ?_, Signature.verify_token webhookId secret r.body seconds⟩⟩
  · simp [values_wire, h, hid, Signature.sign]
  · simp [values_wire, h, htime, Signature.sign]
  · simp [values_wire, h, htoken, Signature.sign]

end DeliveryRequest

/-- A chain sends its first request before all others. -/
theorem first_of_followChain (network : Network) (redirects : Nat) (shown : Url)
    (request : WireRequest) (sent : List WireRequest) :
    ∃ redirected, (followChain network redirects shown request sent).2
      = redirected ++ request :: sent := by
  -- on the redirects that are left
  induction redirects generalizing shown request sent with
  | zero =>
    rw [followChain.eq_def]
    split
    · exact ⟨[], rfl⟩
    · exact ⟨[], rfl⟩
    · exact ⟨[], rfl⟩
    · split <;> exact ⟨[], rfl⟩
  | succ left ih =>
    rw [followChain.eq_def]
    split
    · exact ⟨[], rfl⟩
    · exact ⟨[], rfl⟩
    · exact ⟨[], rfl⟩
    · rename_i answer _
      split
      · exact ⟨[], rfl⟩
      · exact ⟨[], rfl⟩
      · rename_i target _
        let next := request.redirected answer.status target
        obtain ⟨redirected, hrest⟩ := ih target next (request :: sent)
        exact ⟨redirected ++ [next], by simpa using hrest⟩

/-- What a call to a receiver adds to all that was sent: nothing if the URL cannot be requested, and
otherwise the request as it was made, before those that redirects lead to. -/
theorem World.sent_of_send {w w' : World} {client : Client} {r : DeliveryRequest} {report : Report}
    (h : w.perform (.send client r) = (some report, w')) :
    if r.url.isSendable
    then ∃ redirected, w'.sent = redirected ++ r.wire client.settings.userAgent :: w.sent
    else w'.sent = w.sent := by
  have hsent : w'.sent = (client.deliver w.network w.sent r).2 := by
    rw [← (Prod.mk.inj h).2]
    rfl
  rw [hsent, Client.deliver]
  split
  · have hfirst := first_of_followChain w.network client.settings.maxRedirects.toNat r.url
      (r.wire client.settings.userAgent) w.sent
    rcases hchain : followChain w.network client.settings.maxRedirects.toNat r.url
      (r.wire client.settings.userAgent) w.sent with ⟨failure | ⟨last, response⟩, sent⟩
    all_goals
      rw [hchain] at hfirst
      exact hfirst
  · rfl

-- ---------------------------------------------------------------------------
-- How far tasks can get
-- ---------------------------------------------------------------------------

namespace Task

/-- How far a task can have got if anything may happen between its calls: the calls that it has
made, each in some world, the latest first, and what is left of it. -/
inductive Reaches {α : Type} : Task α → List Moment → Task α → Prop where
  | here (t : Task α) : Reaches t [] t
  | call {c : Call} {next : c.Answer → Task α} {w w' : World} {answer : c.Answer}
    {h : List Moment} {t : Task α} (answered : w.perform c = (some answer, w'))
    (rest : Reaches (next answer) h t) : Reaches (.call c next) (h ++ [⟨w, c, answer⟩]) t

variable {α β : Type} {t : Task α} {f : α → Task β} {h : List Moment} {u : Task β}

/-- A task that has ended has got to its end. -/
theorem Ends.reaches {a : α} (hends : t.Ends h a) : t.Reaches h (.done a) := by
  induction hends with
  | done => exact .here _
  | call answered _ ih => exact .call answered ih

/-- A task that has got to an end has ended with it. -/
theorem Reaches.ends {a : α} (hreaches : t.Reaches h (.done a)) : t.Ends h a := by
  generalize hdone : Task.done a = t' at hreaches
  induction hreaches with
  | here =>
    subst hdone
    exact .done a
  | call answered _ ih => exact .call answered (ih hdone)

/-- Every call on the way was answered as it was made. -/
theorem Reaches.answered {t' : Task α} (hreaches : t.Reaches h t') :
    ∀ x ∈ h, ∃ w', x.world.perform x.call = (some x.answer, w') := by
  induction hreaches with
  | here => exact fun x hx => absurd hx List.not_mem_nil
  | call answered _ ih =>
    intro x hx
    rcases List.mem_append.mp hx with hx | hx
    · exact ih x hx
    · obtain rfl := List.mem_singleton.mp hx
      exact ⟨_, answered⟩

/-- What is so of all calls of a task is so of those that it has made. -/
theorem Reaches.calls_of_makes {t' : Task α} {P : Call → Prop} {Q : α → Prop}
    (hreaches : t.Reaches h t') (ht : t.Makes P Q) : ∀ x ∈ h, P x.call := by
  induction hreaches with
  | here => exact fun x hx => absurd hx List.not_mem_nil
  | call answered _ ih =>
    intro x hx
    rcases List.mem_append.mp hx with hx | hx
    · exact ih (ht.2 _) x hx
    · obtain rfl := List.mem_singleton.mp hx
      exact ht.1

/-- A task after another is still in that one, or goes on where it has ended. -/
theorem Reaches.of_bind (hreaches : (t >>= f).Reaches h u) :
    (∃ t', t.Reaches h t' ∧ u = t' >>= f)
      ∨ ∃ a h₁ h₂, t.Ends h₁ a ∧ (f a).Reaches h₂ u ∧ h = h₂ ++ h₁ := by
  induction t generalizing h with
  | done a => exact .inr ⟨a, [], h, .done a, hreaches, (List.append_nil h).symm⟩
  | breakdown =>
    cases hreaches
    exact .inl ⟨.breakdown, .here _, rfl⟩
  | call c next ih =>
    cases hreaches with
    | here => exact .inl ⟨.call c next, .here _, rfl⟩
    | @call _ _ w w' answer h _ answered rest =>
      rcases ih answer rest with ⟨t', hfirst, rfl⟩ | ⟨a, h₁, h₂, hfirst, hsecond, rfl⟩
      · exact .inl ⟨t', .call answered hfirst, rfl⟩
      · exact .inr ⟨a, h₁ ++ [⟨w, c, answer⟩], h₂, .call answered hfirst, hsecond,
          List.append_assoc _ _ _⟩

/-- On the way a silent task sends no request. -/
theorem Reaches.requests_of_silent {t' : Task α} (hreaches : t.Reaches h t') (hsilent : t.Silent) :
    requests h = [] := by
  induction hreaches with
  | here => rfl
  | call answered rest ih =>
    rw [requests_append, ih (hsilent.2 _)]
    simp [requests, hsilent.1]

/-- Before a call a task has got to where it makes it, and after it goes on from the answer. -/
theorem Reaches.split {t' : Task α} {later earlier : List Moment} {moment : Moment}
    (hreaches : t.Reaches (later ++ moment :: earlier) t') :
    ∃ next w', t.Reaches earlier (.call moment.call next)
      ∧ moment.world.perform moment.call = (some moment.answer, w')
      ∧ (next moment.answer).Reaches later t' := by
  generalize hmoments : later ++ moment :: earlier = moments at hreaches
  induction hreaches generalizing earlier with
  | here => cases later <;> cases hmoments
  | @call c next w w' answer h t' answered rest ih =>
    -- the first call is the moment itself, or comes before it
    rcases List.eq_nil_or_concat earlier with rfl | ⟨earlier, first, rfl⟩
    · obtain ⟨rfl, hlast⟩ := List.append_inj' hmoments rfl
      obtain rfl := List.singleton_inj.mp hlast
      exact ⟨next, w', .here _, answered, rest⟩
    · rw [List.concat_eq_append] at hmoments ⊢
      rw [← List.cons_append, ← List.append_assoc] at hmoments
      obtain ⟨hrest, hlast⟩ := List.append_inj' hmoments rfl
      obtain rfl := List.singleton_inj.mp hlast
      obtain ⟨next', w'', hbefore, hperform, hafter⟩ := ih hrest
      exact ⟨next', w'', .call answered hbefore, hperform, hafter⟩

/-- What is left of a silent task is silent. -/
theorem Silent.of_reaches {t' : Task α} (hsilent : t.Silent) (hreaches : t.Reaches h t') :
    t'.Silent := by
  induction hreaches with
  | here => exact hsilent
  | call answered rest ih => exact ih (hsilent.2 _)

/-- What sends nothing comes before a request as a whole. -/
theorem Reaches.of_silent_bind {later earlier : List Moment} {moment : Moment}
    (hsilent : t.Silent) (hsends : moment.call.sends = true)
    (hreaches : (t >>= f).Reaches (later ++ moment :: earlier) u) :
    ∃ a h₁ h₂, t.Ends h₁ a ∧ (f a).Reaches (later ++ moment :: h₂) u ∧ earlier = h₂ ++ h₁ := by
  -- a request is not among the calls of a silent task
  have hnone : ∀ {h}, requests h = [] → moment ∉ h := by
    intro h hnil hmem
    have hrequest : moment ∈ requests h := List.mem_filter.mpr ⟨hmem, hsends⟩
    rw [hnil] at hrequest
    cases hrequest
  rcases hreaches.of_bind with ⟨t', hfirst, -⟩ | ⟨a, h₁, h₂, hfirst, hsecond, hsplit⟩
  · exact absurd (by simp) (hnone (hfirst.requests_of_silent hsilent))
  · have hout := hnone (hfirst.reaches.requests_of_silent hsilent)
    rcases List.append_eq_append_iff.mp hsplit with ⟨x, hx, hrest⟩ | ⟨x, hx, hrest⟩
    · rcases x with _ | ⟨y, x⟩
      · exact absurd ((show moment :: earlier = h₁ from hrest) ▸ List.mem_cons_self) hout
      · obtain ⟨rfl, rfl⟩ := List.cons.inj hrest
        exact ⟨a, h₁, x, hfirst, hx ▸ hsecond, rfl⟩
    · exact absurd (hrest ▸ List.mem_append_right x List.mem_cons_self) hout

end Task

-- ---------------------------------------------------------------------------
-- Deliveries
-- ---------------------------------------------------------------------------

/-- The secret that a lookup finds in a store: one that is there, and not empty. -/
def Store.HasSecret (s : Store) (org : OrgId) (secret : String) : Prop :=
  s.secrets.lookup org = some secret ∧ secret ≠ ""

/-- A lookup is answered with the secret, unless there is none or a failure is planned for it. -/
theorem World.ok_findSigningSecret_iff {w w' : World} {org : OrgId}
    {answer : Except StoreError String} {secret : String}
    (h : w.perform (.findSigningSecret org) = (some answer, w')) :
    answer = .ok secret
      ↔ w.store.HasSecret org secret ∧ takePlanned .findSigningSecret w.planned = none := by
  have hanswer : (w.storeCall .findSigningSecret fun _ => (w.store.secretOf org, w)).1 = answer :=
    Option.some.inj (Prod.mk.inj h).1
  rw [← hanswer, storeCall, Store.HasSecret]
  cases takePlanned .findSigningSecret w.planned with
  | some planned => simp
  | none =>
    rw [Store.secretOf]
    cases w.store.secrets.lookup org with
    | none => simp
    | some found =>
      -- an empty secret counts as none
      by_cases hempty : found = ""
      · subst hempty
        simp
      · simpa [hempty] using fun heq : found = secret => heq ▸ hempty

namespace Worker

variable {w : Worker} {m : Message} {h later earlier : List Moment} {moment : Moment}
  {t : Task (Except PipelineError Transition)}

/-- Signing looks the secret up, and with it reads the clock. -/
theorem ends_signatureFor {signature : Option Signature}
    (hends : (signatureFor m).Ends h signature) :
    ∃ v v' answer, v.perform (.findSigningSecret m.org) = (some answer, v')
      ∧ ⟨v, .findSigningSecret m.org, answer⟩ ∈ h
      ∧ match answer with
        | .error _ => signature = none
        | .ok secret => ∃ (u : World) (now : Instant), ⟨u, .now, now⟩ ∈ h ∧ u.clock.utc? = some now
          ∧ signature = some (.sign m.webhookId secret m.payload now.seconds) := by
  obtain ⟨answer, h₁, h₂, hlookup, hrest, rfl⟩ := hends.of_bind
  obtain ⟨v, v', hperform, rfl⟩ := hlookup.of_perform
  refine ⟨v, v', answer, hperform, by simp, ?_⟩
  cases answer with
  | error e => exact hrest.of_done.1.symm
  | ok secret =>
    obtain ⟨now, h₃, h₄, hclock, hdone, rfl⟩ := hrest.of_bind
    obtain ⟨u, u', hnow, rfl⟩ := hclock.of_perform
    exact ⟨u, now, by simp, (Prod.mk.inj hnow).1, hdone.of_done.1.symm⟩

/-- An exchange sends its request, and goes on with what follows it if that is silent. -/
theorem reaches_exchange {α : Type} {r : DeliveryRequest} {f : Report → Task α} {u : Task α}
    (hsilent : ∀ report, (f report).Silent) (hsends : moment.call.sends = true)
    (hreaches : (w.exchange r >>= f).Reaches (later ++ moment :: earlier) u) :
    ∃ world world' report, moment = ⟨world, .send w.client r, report⟩
      ∧ world.perform (.send w.client r) = (some report, world')
      ∧ (Task.perform (.note .sent) >>= fun _ => f report).Reaches later u
      ∧ requests earlier = [] := by
  obtain ⟨_, h₁, h₂, hsending, hrest, rfl⟩ :=
    Task.Reaches.of_silent_bind (Task.silent_perform rfl) hsends hreaches
  have hquiet := hsending.requests_of_silent (Task.silent_perform rfl)
  obtain ⟨next, world', hbefore, hperform, hafter⟩ := hrest.split
  obtain ⟨world, c, report⟩ := moment
  cases hbefore with
  | here => exact ⟨world, world', report, rfl, hperform, hafter, hquiet⟩
  | @call _ _ _ _ report' _ _ answered rest =>
    -- The request would be among what follows, and that sends nothing.
    have hsilent' : (Task.perform (.note .sent) >>= fun _ => f report').Silent :=
      (Task.silent_perform rfl).bind fun _ => hsilent report'
    exact absurd ((hsilent'.of_reaches rest).1.symm.trans hsends) Bool.false_ne_true

theorem silent_reject (m : Message) (reason : Unsendable) : (reject m reason).Silent :=
  (makes_reject (P := fun c => c.sends = false) rfl rfl reason).silent

theorem silent_after_exchange (report : Report) : (w.afterExchange m report).Silent :=
  (makes_afterExchange (P := fun c => c.sends = false) rfl (fun _ => rfl) (fun _ => rfl)
    (fun _ _ _ => rfl) (fun _ => rfl)).silent

/-- Before its one request, an attempt looks the secret up and signs; after it, the report is dealt
with. -/
theorem afterExchange_of_reaches {r : DeliveryRequest} (hsends : moment.call.sends = true)
    (hreaches : (w.attempt m r).Reaches (later ++ moment :: earlier) t) :
    ∃ signature h₁ world world' report, (signatureFor m).Ends h₁ signature
      ∧ h₁ <:+ earlier ∧ moment = ⟨world, .send w.client (r.sign signature), report⟩
      ∧ world.perform (.send w.client (r.sign signature)) = (some report, world')
      ∧ (Task.perform (.note .sent) >>= fun _ => w.afterExchange m report).Reaches later t
      ∧ requests earlier = [] := by
  obtain ⟨signature, h₁, h₂, hsigning, hrest, rfl⟩ :=
    Task.Reaches.of_silent_bind (silent_signatureFor m) hsends hreaches
  obtain ⟨world, world', report, hmoment, hperform, hafter, hearlier⟩ :=
    reaches_exchange silent_after_exchange hsends hrest
  refine ⟨signature, h₁, world, world', report, hsigning, List.suffix_append _ _, hmoment, hperform,
    hafter, ?_⟩
  rw [requests_append, hearlier, hsigning.requests_of_silent (silent_signatureFor m)]
  rfl

/-- The request of an attempt is the only one. -/
theorem reaches_attempt {r : DeliveryRequest} (hsends : moment.call.sends = true)
    (hreaches : (w.attempt m r).Reaches (later ++ moment :: earlier) t) :
    ∃ signature h₁ world world' report, (signatureFor m).Ends h₁ signature
      ∧ h₁ <:+ earlier ∧ moment = ⟨world, .send w.client (r.sign signature), report⟩
      ∧ world.perform (.send w.client (r.sign signature)) = (some report, world')
      ∧ requests later = [] ∧ requests earlier = [] := by
  obtain ⟨signature, h₁, world, world', report, hsigning, hsuffix, hmoment, hperform, hafter,
    hearlier⟩ := afterExchange_of_reaches hsends hreaches
  have hsilent := (Task.silent_perform (c := .note .sent) rfl).bind fun _ =>
    silent_after_exchange (w := w) (m := m) report
  exact ⟨signature, h₁, world, world', report, hsigning, hsuffix, hmoment, hperform,
    hafter.requests_of_silent hsilent, hearlier⟩

end Worker

/-- The request has the method and URL that the message is parsed into. -/
theorem DeliveryRequest.parsed_of_ofMessage {m : Message} {r : DeliveryRequest}
    (h : ofMessage m = .ok r) :
    Method.parse m.method = .ok r.method ∧ Url.parse m.url = .ok r.url := by
  obtain ⟨_, _, hmethod, hurl, rfl⟩ := ofMessage_eq_ok.mp h
  exact ⟨hmethod, hurl⟩

/-- Whether a request carries a message: its method, its URL without what concerns only the sender,
and its payload as it is, named as JSON. -/
structure WireRequest.Carries (r : WireRequest) (m : Message) : Prop where
  method : Method.parse m.method = .ok r.method
  url : ∃ url, Url.parse m.url = .ok url
    ∧ r.url = { url with user := [], password := [], fragment := none }
  contentType : r.values "Content-Type" = ["application/json"]
  body : r.body = m.payload

/-- Whether a request is signed as it should be, given the calls before it. The secret that counts
is the one that was in store when it was looked up, unless the lookup failed, and the second is one
that the clock has shown since. -/
structure WireRequest.SignedAfter (r : WireRequest) (m : Message) (earlier : List Moment)
    (v : World) : Prop where
  lookup : ∃ answer, ⟨v, .findSigningSecret m.org, answer⟩ ∈ earlier
  signed : ∀ secret, v.store.HasSecret m.org secret →
    World.takePlanned .findSigningSecret v.planned = none →
    ∃ (u : World) (now : Instant), ⟨u, .now, now⟩ ∈ earlier ∧ u.clock.utc? = some now
      ∧ r.SignedFor ("msg_" ++ m.id.text) now.seconds secret
  unsigned : (¬ ∃ secret, v.store.HasSecret m.org secret)
      ∨ (World.takePlanned .findSigningSecret v.planned).isSome = true → r.Unsigned

namespace Worker

variable {w : Worker} {m : Message} {later earlier : List Moment} {world : World} {client : Client}
  {r : DeliveryRequest} {report : Report} {t : Task (Except PipelineError Transition)}

/-- The request of an attempt is signed as its lookup has it. -/
theorem signedAfter_of_ends (userAgent : String) {h₁ : List Moment} {signature : Option Signature}
    (hbody : r.body = m.payload) (hsigning : (signatureFor m).Ends h₁ signature)
    (hsuffix : h₁ <:+ earlier) :
    ∃ v, ((r.sign signature).wire userAgent).SignedAfter m earlier v := by
  obtain ⟨v, v', answer, hperform, hlookup, hanswer⟩ := ends_signatureFor hsigning
  refine ⟨v, ⟨answer, hsuffix.subset hlookup⟩, fun secret hsecret hplanned => ?_, fun hnone => ?_⟩
  · have hok := (World.ok_findSigningSecret_iff hperform).mpr ⟨hsecret, hplanned⟩
    rw [hok] at hanswer
    obtain ⟨u, now, hnow, hclock, rfl⟩ := hanswer
    refine ⟨u, now, hsuffix.subset hnow, hclock, DeliveryRequest.signedFor_wire ?_⟩
    rw [DeliveryRequest.sign, hbody]
    rfl
  · -- a lookup that fails leaves the request unsigned
    cases answer with
    | error e => exact DeliveryRequest.unsigned_wire hanswer
    | ok secret =>
      obtain ⟨hsecret, hplanned⟩ := (World.ok_findSigningSecret_iff hperform).mp rfl
      rcases hnone with hnone | hfails
      · exact absurd ⟨secret, hsecret⟩ hnone
      · rw [hplanned] at hfails
        cases hfails

/-- A delivery makes no more than one call to a receiver. What goes out first with it, if the URL
can be requested at all, carries the message and is signed for what it carries. -/
theorem wire_signed
    (hreaches : (w.deliver m).Reaches (later ++ ⟨world, .send client r, report⟩ :: earlier) t) :
    (requests later = [] ∧ requests earlier = [])
    ∧ ∃ wire v, wire = r.wire client.settings.userAgent
      ∧ (if r.url.isSendable
        then ∃ redirected, (world.perform (.send client r)).2.sent
          = redirected ++ wire :: world.sent
        else (world.perform (.send client r)).2.sent = world.sent)
      ∧ wire.Carries m ∧ wire.SignedAfter m earlier v := by
  rw [deliver] at hreaches
  cases hparsed : DeliveryRequest.ofMessage m with
  | error reason =>
    rw [hparsed] at hreaches
    -- a message that is rejected sends nothing
    have hnone := hreaches.requests_of_silent (silent_reject m reason)
    rw [requests_append] at hnone
    cases (List.append_eq_nil_iff.mp hnone).2
  | ok plain =>
    rw [hparsed] at hreaches
    -- the request goes out once, after the signing
    obtain ⟨signature, h₁, world', world'', report', hsigning, hsuffix, hmoment, hperform, hlater,
      hearlier⟩ := reaches_attempt rfl hreaches
    obtain ⟨rfl, hcall, -⟩ := Moment.mk.inj hmoment
    obtain ⟨rfl, rfl⟩ := Call.send.inj hcall
    obtain ⟨hmethod, hurl⟩ := DeliveryRequest.parsed_of_ofMessage hparsed
    have hbody := DeliveryRequest.body_of_ofMessage hparsed
    obtain ⟨v, hsigned⟩ :=
      signedAfter_of_ends w.client.settings.userAgent hbody hsigning hsuffix
    refine ⟨⟨hlater, hearlier⟩, _, v, rfl, ?_, ⟨hmethod, ⟨_, hurl, rfl⟩,
      DeliveryRequest.contentType_wire, hbody⟩, hsigned⟩
    rw [hperform]
    exact World.sent_of_send hperform

end Worker

-- A message is posted for an organisation that has a secret.

/-- A world with the message 1, 2, 3 in store and a secret for its organisation. -/
def World.sealed : World :=
  { World.fresh with
    store := { messages := [.posted], secrets := [(Message.posted.org, "s3cret")] } }

/-- A request can be made of the message, and sent. -/
theorem DeliveryRequest.exists_ofMessage_posted :
    ∃ r, ofMessage .posted = .ok r ∧ r.url.isSendable = true := by
  have hrequest : (ofMessage .posted).toOption.any (·.url.isSendable) = true := by decide +kernel
  cases hr : ofMessage .posted with
  | error e =>
    rw [hr] at hrequest
    cases hrequest
  | ok r =>
    rw [hr] at hrequest
    exact ⟨r, rfl, hrequest⟩

namespace Worker

/-- With a secret in store, a delivery gets to its request by three calls. -/
theorem reaches_sealed : ∃ r report t,
    (Worker.plain.deliver .posted).Reaches
      ([] ++ ⟨.sealed, .send Worker.plain.client r, report⟩
        :: [⟨.sealed, .note .sending, ()⟩, ⟨.sealed, .now, .epoch⟩,
          ⟨.sealed, .findSigningSecret Message.posted.org, .ok "s3cret"⟩]) t
    ∧ r.url.isSendable = true := by
  obtain ⟨r, hr, hsendable⟩ := DeliveryRequest.exists_ofMessage_posted
  rw [deliver, hr]
  have hlookup : World.sealed.perform (.findSigningSecret Message.posted.org)
      = (some (.ok "s3cret"), .sealed) := rfl
  have hnow : World.sealed.perform .now = (some .epoch, .sealed) := rfl
  have hreaches : (plain.attempt .posted r).Reaches _ _ :=
    .call hlookup (.call hnow (.call (w := .sealed) rfl (.call (w := .sealed) rfl (.here _))))
  exact ⟨_, _, _, hreaches, hsendable⟩

/-- The request for the message 1, 2, 3 goes out signed for second 0. -/
theorem wire_signed_sealed : ∃ r report t,
    (Worker.plain.deliver .posted).Reaches
      ([] ++ ⟨.sealed, .send Worker.plain.client r, report⟩
        :: [⟨.sealed, .note .sending, ()⟩, ⟨.sealed, .now, .epoch⟩,
          ⟨.sealed, .findSigningSecret Message.posted.org, .ok "s3cret"⟩]) t
    ∧ ∃ wire redirected,
      (World.sealed.perform (.send Worker.plain.client r)).2.sent = redirected ++ [wire]
      ∧ wire.Carries .posted ∧ wire.SignedFor ("msg_" ++ Message.posted.id.text) 0 "s3cret" := by
  obtain ⟨r, report, t, hreaches, hsendable⟩ := reaches_sealed
  obtain ⟨-, wire, v, -, hsent, hcarries, hsigned⟩ := wire_signed hreaches
  rw [if_pos hsendable] at hsent
  obtain ⟨redirected, hsent⟩ := hsent
  refine ⟨r, report, t, hreaches, wire, redirected, hsent, hcarries, ?_⟩
  obtain ⟨answer, hlookup⟩ := hsigned.lookup
  -- the secret is looked up in the world of the beginning
  obtain rfl : v = .sealed := by
    simp at hlookup
    exact hlookup.1
  obtain ⟨u, now, hnow, -, hfor⟩ := hsigned.signed "s3cret" ⟨by decide +kernel, by decide⟩ rfl
  obtain rfl : now = .epoch := by
    simp at hnow
    exact hnow.2
  exact hfor

end Worker

end WebhookDelivery
