import WebhookDelivery.Proofs.Calls
import WebhookDelivery.Proofs.SingleOwner

/-!
# What a success stands for

A delivery succeeds if the last answer of a chain of exchanges is a success, while the payload goes
with the first request. What comes with the last one depends on the redirects in between: 307 and
308 repeat the request, a 303 asks to get something else, and a post that was moved (301, 302) is
not repeated. So a success stands for the payload having been received only as far as every redirect
has repeated the request; once method or payload are lost on the way, they do not come back.

Between the calls of a delivery others may do anything: `Task.Ends` is about all the ways in which a
task can end then.

* `followChain_eq_ok_iff` — chains of exchanges, by their redirects.
* `RedirectChain.repeats_iff` — when the last request is the first one again.
* `Worker.delivered_iff_repeated` — what a delivery that has succeeded has sent.
-/

namespace WebhookDelivery

-- ---------------------------------------------------------------------------
-- Chains of exchanges
-- ---------------------------------------------------------------------------

/-- From a request, by redirects of these statuses, to the request that is answered at last, and to
its answer. At the beginning and the end stands what was sent so far, the latest first. -/
inductive RedirectChain (network : Network) :
    Url → WireRequest → List WireRequest → List UInt16 → WireRequest → Response →
      List WireRequest → Prop where
  | answered {shown : Url} {request : WireRequest} {sent : List WireRequest} {answer : Response}
    (reply : network sent request = .response answer) (ends : answer.target? shown = none) :
    RedirectChain network shown request sent [] request answer (request :: sent)
  | redirected {shown target : Url} {request last : WireRequest} {sent sent' : List WireRequest}
    {statuses : List UInt16} {redirect answer : Response}
    (reply : network sent request = .response redirect)
    (leads : redirect.target? shown = some (.web target))
    (rest : RedirectChain network target (request.redirected redirect.status target)
      (request :: sent) statuses last answer sent') :
    RedirectChain network shown request sent (redirect.status :: statuses) last answer sent'

section Chain

variable {network : Network} {redirects : Nat} {shown : Url} {request last : WireRequest}
  {sent sent' : List WireRequest} {statuses : List UInt16} {answer : Response}

/-- An answer that leads nowhere ends the chain. -/
theorem followChain_of_answered (hreply : network sent request = .response answer)
    (hends : answer.target? shown = none) :
    followChain network redirects shown request sent
      = (.ok (request, answer), request :: sent) := by
  rw [followChain, hreply]
  simp only [hends]

/-- A redirect to a web address is followed, and counts against the limit. -/
theorem followChain_of_redirected {redirect : Response} {target : Url}
    (hreply : network sent request = .response redirect)
    (hleads : redirect.target? shown = some (.web target)) :
    followChain network (redirects + 1) shown request sent
      = followChain network redirects target (request.redirected redirect.status target)
          (request :: sent) := by
  rw [followChain, hreply]
  simp only [hleads]

/-- A chain that brings an answer ends at once or goes on by a redirect. -/
theorem followChain_cases
    (h : followChain network redirects shown request sent = (.ok (last, answer), sent')) :
    (network sent request = .response answer ∧ answer.target? shown = none
      ∧ request = last ∧ request :: sent = sent')
    ∨ ∃ left redirect target, redirects = left + 1
      ∧ network sent request = .response redirect ∧ redirect.target? shown = some (.web target)
      ∧ followChain network left target (request.redirected redirect.status target)
          (request :: sent) = (.ok (last, answer), sent') := by
  rw [followChain.eq_def] at h
  cases hreply : network sent request with
  | refused | unusable | timedOut =>
    rw [hreply] at h
    cases h
  | response r =>
    rw [hreply] at h
    cases htarget : r.target? shown with
    | none =>
      simp only [htarget, Prod.mk.injEq, Except.ok.injEq] at h
      obtain ⟨⟨rfl, rfl⟩, rfl⟩ := h
      exact .inl ⟨rfl, htarget, rfl, rfl⟩
    | some reading =>
      cases reading with
      | other scheme =>
        simp only [htarget] at h
        cases h
      | web target =>
        -- a redirect is followed only while some are left
        cases redirects with
        | zero =>
          simp only [htarget] at h
          cases h
        | succ left =>
          simp only [htarget] at h
          exact .inr ⟨left, r, target, rfl, rfl, htarget, h⟩

/-- A chain brings an answer exactly if redirects lead to it, and not too many. -/
theorem followChain_eq_ok_iff :
    followChain network redirects shown request sent = (.ok (last, answer), sent')
      ↔ ∃ statuses, statuses.length ≤ redirects
        ∧ RedirectChain network shown request sent statuses last answer sent' := by
  constructor
  · intro h
    -- on the redirects that are left
    induction redirects generalizing shown request sent with
    | zero =>
      rcases followChain_cases h with ⟨hreply, hends, rfl, rfl⟩ | ⟨left, _, _, hzero, -⟩
      · exact ⟨[], Nat.le_refl _, .answered hreply hends⟩
      · cases hzero
    | succ n ih =>
      rcases followChain_cases h with ⟨hreply, hends, rfl, rfl⟩
        | ⟨left, redirect, target, hleft, hreply, hleads, hrest⟩
      · exact ⟨[], Nat.zero_le _, .answered hreply hends⟩
      · obtain rfl : n = left := Nat.succ.inj hleft
        obtain ⟨statuses, hlength, hchain⟩ := ih hrest
        exact ⟨redirect.status :: statuses, Nat.succ_le_succ hlength,
          .redirected hreply hleads hchain⟩
  · rintro ⟨statuses, hlength, hchain⟩
    -- on the chain, which is no longer than they allow
    induction hchain generalizing redirects with
    | answered hreply hends => exact followChain_of_answered hreply hends
    | redirected hreply hleads _ ih =>
      cases redirects with
      | zero => exact absurd hlength (Nat.not_succ_le_zero _)
      | succ left =>
        rw [followChain_of_redirected hreply hleads]
        exact ih (Nat.le_of_succ_le_succ hlength)

/-- Only a redirect leads anywhere. -/
theorem Response.isRedirect_of_target {r : Response} {reading : Url.Reading}
    (h : r.target? shown = some reading) : isRedirect r.status = true := by
  rw [target?] at h
  split at h
  · assumption
  · cases h

/-- The request that is answered at last is the latest that was sent, and this is its answer. -/
theorem RedirectChain.reply_eq
    (h : RedirectChain network shown request sent statuses last answer sent') :
    ∃ earlier, sent' = last :: earlier ∧ network earlier last = .response answer := by
  induction h with
  | answered hreply => exact ⟨_, rfl, hreply⟩
  | redirected _ _ _ ih => exact ih

end Chain

-- ---------------------------------------------------------------------------
-- What redirects leave of a request
-- ---------------------------------------------------------------------------

/-- Whether a redirect of this status repeats a request with this method and body: always if it is a
307 or 308; if the target has moved (301, 302), unless the request is a post; and if the answer is
elsewhere (303), only a request that has asked for nothing else. -/
def RepeatsRequest (status : UInt16) (m : Method) (body : Octets) : Prop :=
  status = 307 ∨ status = 308 ∨ ((status = 301 ∨ status = 302) ∧ m ≠ .post)
    ∨ (status = 303 ∧ (m = .get ∨ m = .head) ∧ body = [])

/-- A redirected GET stays one. -/
theorem redirectedMethod_get (status : UInt16) : redirectedMethod status .get = .get := by
  rw [redirectedMethod]
  split
  · rfl
  · split <;> rfl

/-- A redirect keeps the method, or turns it into GET. -/
theorem redirectedMethod_eq_or (status : UInt16) (m : Method) :
    redirectedMethod status m = m ∨ redirectedMethod status m = .get := by
  rw [redirectedMethod]
  split
  · by_cases hm : m = .head
    · exact .inl (by rw [if_pos hm, hm])
    · exact .inr (if_neg hm)
  · split
    · exact .inr rfl
    · exact .inl rfl

/-- A redirect of a status that is one repeats a request exactly if it keeps method and body. -/
theorem repeatsRequest_iff {status : UInt16} (hstatus : isRedirect status = true) (m : Method)
    (body : Octets) :
    RepeatsRequest status m body
      ↔ redirectedMethod status m = m ∧ (if dropsBody status m then [] else body) = body := by
  have hcases : status = 301 ∨ status = 302 ∨ status = 303 ∨ status = 307 ∨ status = 308 := by
    simpa [isRedirect] using hstatus
  rcases hcases with rfl | rfl | rfl | rfl | rfl
  · cases m <;> simp [RepeatsRequest, redirectedMethod, dropsBody]
  · cases m <;> simp [RepeatsRequest, redirectedMethod, dropsBody]
  · cases m <;> simp [RepeatsRequest, redirectedMethod, dropsBody, eq_comm]
  · simp [RepeatsRequest, redirectedMethod, dropsBody]
  · simp [RepeatsRequest, redirectedMethod, dropsBody]

section Chain

variable {network : Network} {shown : Url} {request last : WireRequest}
  {sent sent' : List WireRequest} {statuses : List UInt16} {answer : Response}

/-- A get stays a get. -/
theorem RedirectChain.method_get
    (h : RedirectChain network shown request sent statuses last answer sent')
    (hget : request.method = .get) : last.method = .get := by
  induction h with
  | answered => exact hget
  | @redirected _ _ request _ _ _ _ redirect _ _ _ _ ih =>
    refine ih ?_
    show redirectedMethod redirect.status request.method = .get
    rw [hget, redirectedMethod_get]

/-- What has no body gets none. -/
theorem RedirectChain.body_nil
    (h : RedirectChain network shown request sent statuses last answer sent')
    (hnil : request.body = []) : last.body = [] := by
  induction h with
  | answered => exact hnil
  | @redirected _ _ request _ _ _ _ redirect _ _ _ _ ih =>
    refine ih ?_
    show (if dropsBody redirect.status request.method then [] else request.body) = []
    rw [hnil, ite_self]

/-- The request that is answered at last has method and body of the first exactly if every redirect
in between has repeated it: what is lost does not come back. -/
theorem RedirectChain.repeats_iff
    (h : RedirectChain network shown request sent statuses last answer sent') :
    (last.method = request.method ∧ last.body = request.body)
      ↔ ∀ status ∈ statuses, RepeatsRequest status request.method request.body := by
  induction h with
  | answered => simp
  | @redirected _ target request last _ _ statuses redirect _ _ hleads hrest ih =>
    have hstep := repeatsRequest_iff (Response.isRedirect_of_target hleads) request.method
      request.body
    rw [List.forall_mem_cons]
    -- a redirect that does not repeat the request has changed it for good
    by_cases hrepeats : RepeatsRequest redirect.status request.method request.body
    · obtain ⟨hmethod, hbody⟩ := hstep.mp hrepeats
      have hnext : (request.redirected redirect.status target).method = request.method
          ∧ (request.redirected redirect.status target).body = request.body := ⟨hmethod, hbody⟩
      rw [hnext.1, hnext.2] at ih
      rw [ih]
      exact ⟨fun hothers => ⟨hrepeats, hothers⟩, And.right⟩
    · refine ⟨?_, fun hall => absurd hall.1 hrepeats⟩
      rintro ⟨hmethod, hbody⟩
      refine absurd (hstep.mpr ⟨?_, ?_⟩) hrepeats
      · -- A method that is not kept becomes that of a get, and stays so to the end.
        rcases redirectedMethod_eq_or redirect.status request.method with hkept | hget
        · exact hkept
        · rw [hget, ← hmethod, hrest.method_get hget]
      · -- A body that is dropped is not there at the end.
        split
        · rename_i hdrops
          rw [← hbody, hrest.body_nil (if_pos hdrops)]
        · rfl

end Chain

-- ---------------------------------------------------------------------------
-- How tasks can end
-- ---------------------------------------------------------------------------

/-- The requests among some calls. -/
def requests (h : List Moment) : List Moment :=
  h.filter (·.call.sends)

theorem requests_append (h₁ h₂ : List Moment) :
    requests (h₁ ++ h₂) = requests h₁ ++ requests h₂ :=
  List.filter_append ..

namespace Task

/-- How a task can end if anything may happen between its calls: the calls that it has made, each in
some world, the latest first, and what it ends with. -/
inductive Ends {α : Type} : Task α → List Moment → α → Prop where
  | done (a : α) : Ends (.done a) [] a
  | call {c : Call} {next : c.Answer → Task α} {w w' : World} {answer : c.Answer}
    {h : List Moment} {a : α} (answered : w.perform c = (some answer, w'))
    (rest : Ends (next answer) h a) : Ends (.call c next) (h ++ [⟨w, c, answer⟩]) a

/-- Whether a task sends nothing. -/
def Silent {α : Type} : Task α → Prop
  | done _ => True
  | breakdown => True
  | call c next => c.sends = false ∧ ∀ answer, (next answer).Silent

variable {α β : Type} {t : Task α} {f : α → Task β} {h : List Moment} {a : α} {b : β}

/-- A run in one go, with nothing in between, is one way to end. -/
theorem ends_of_run {w w' : World} (hrun : t.run w = (some a, w')) : t.Ends (t.moments w) a := by
  induction t generalizing w with
  | done x =>
    obtain rfl := Option.some.inj (Prod.mk.inj hrun).1
    exact .done x
  | breakdown => cases (Prod.mk.inj hrun).1
  | call c next ih =>
    rw [run] at hrun
    rw [moments]
    rcases hperform : w.perform c with ⟨answer?, w''⟩
    rw [hperform] at hrun
    cases answer? with
    | none => cases (Prod.mk.inj hrun).1
    | some answer => exact .call hperform (ih answer hrun)

/-- A task after another makes its own calls after those of that one. -/
theorem moments_bind {w w' : World} (hrun : t.run w = (some a, w')) :
    (t >>= f).moments w = (f a).moments w' ++ t.moments w := by
  -- on the first task; a task that breaks down has no result
  induction t generalizing w with
  | done x =>
    obtain ⟨hx, rfl⟩ := Prod.mk.inj hrun
    obtain rfl := Option.some.inj hx
    exact (List.append_nil _).symm
  | breakdown => cases (Prod.mk.inj hrun).1
  | call c next ih =>
    show Task.moments (.call c fun answer => (next answer).bind f) w = _
    rw [run] at hrun
    rw [moments, moments]
    rcases hperform : w.perform c with ⟨_ | answer, v⟩
    · rw [hperform] at hrun
      cases (Prod.mk.inj hrun).1
    · rw [hperform] at hrun
      have hrest : ((next answer).bind f).moments v = _ := ih answer hrun
      simp only [hrest, List.append_assoc]

/-- A task after another ends as it does after what that one has ended with. -/
theorem Ends.of_bind (hends : (t >>= f).Ends h b) :
    ∃ a h₁ h₂, t.Ends h₁ a ∧ (f a).Ends h₂ b ∧ h = h₂ ++ h₁ := by
  induction t generalizing h with
  | done x => exact ⟨x, [], h, .done x, hends, (List.append_nil h).symm⟩
  | breakdown => cases hends
  | call c next ih =>
    cases hends with
    | @call _ _ w w' answer h _ answered rest =>
      obtain ⟨a, h₁, h₂, hfirst, hsecond, rfl⟩ := ih answer rest
      exact ⟨a, h₁ ++ [⟨w, c, answer⟩], h₂, .call answered hfirst, hsecond, List.append_assoc _ _ _⟩

theorem Ends.of_done {x : α} (hends : (Task.done x).Ends h a) : x = a ∧ h = [] := by
  cases hends with
  | done => exact ⟨rfl, rfl⟩

/-- A single call ends with its answer. -/
theorem Ends.of_perform {c : Call} {answer : c.Answer} (hends : (perform c).Ends h answer) :
    ∃ w w', w.perform c = (some answer, w') ∧ h = [⟨w, c, answer⟩] := by
  cases hends with
  | call answered rest =>
    cases rest with
    | done => exact ⟨_, _, answered, rfl⟩

/-- A silent task sends no request, however it ends. -/
theorem Ends.requests_of_silent (hends : t.Ends h a) (hsilent : t.Silent) : requests h = [] := by
  induction hends with
  | done => rfl
  | call answered rest ih =>
    rw [requests_append, ih (hsilent.2 _)]
    simp [requests, hsilent.1]

theorem silent_perform {c : Call} (hc : c.sends = false) : (perform c).Silent :=
  ⟨hc, fun _ => trivial⟩

/-- Silent tasks, one after another, are silent. -/
theorem Silent.bind (ht : t.Silent) (hf : ∀ a, (f a).Silent) : (t >>= f).Silent := by
  induction t with
  | done a => exact hf a
  | breakdown => trivial
  | call c next ih => exact ⟨ht.1, fun answer => ih answer (ht.2 answer)⟩

/-- A task whose calls send nothing is silent. -/
theorem Makes.silent {Q : α → Prop} (ht : t.Makes (fun c => c.sends = false) Q) : t.Silent := by
  induction t with
  | done a => trivial
  | breakdown => trivial
  | call c next ih => exact ⟨ht.1, fun answer => ih answer (ht.2 answer)⟩

end Task

-- ---------------------------------------------------------------------------
-- Deliveries that have succeeded
-- ---------------------------------------------------------------------------

namespace Worker

variable {w : Worker} {m : Message} {h : List Moment}

theorem silent_signatureFor (m : Message) : (signatureFor m).Silent :=
  (makes_signatureFor (P := fun c => c.sends = false) rfl rfl).silent

theorem silent_settle (w : Worker) (m : Message) (outcome : Outcome) (now : Instant) :
    (w.settle m outcome now).Silent :=
  (makes_settle (P := fun c => c.sends = false) (fun _ => rfl) w m outcome now).silent

theorem silent_conclude (m : Message) (t : Transition) : (conclude m t).Silent :=
  (makes_conclude (P := fun c => c.sends = false) rfl rfl).silent

/-- An exchange sends one request and ends with what it came to. -/
theorem ends_exchange {r : DeliveryRequest} {report : Report}
    (hends : (w.exchange r).Ends h report) :
    ∃ world world', world.perform (.send w.client r) = (some report, world')
      ∧ requests h = [⟨world, .send w.client r, report⟩] := by
  obtain ⟨_, h₁, h₂, hsending, hrest, rfl⟩ := hends.of_bind
  obtain ⟨_, _, -, rfl⟩ := hsending.of_perform
  obtain ⟨report', h₃, h₄, hsend, hlast, rfl⟩ := hrest.of_bind
  obtain ⟨world, world', hperform, rfl⟩ := hsend.of_perform
  obtain ⟨_, h₅, h₆, hsent, hdone, rfl⟩ := hlast.of_bind
  obtain ⟨_, _, -, rfl⟩ := hsent.of_perform
  obtain ⟨rfl, rfl⟩ := hdone.of_done
  exact ⟨world, world', hperform, rfl⟩

/-- Only a success is settled as a delivery. -/
theorem success_of_settle {outcome : Outcome} {now : Instant} {result : Message × Transition}
    {code : UInt16} (hends : (w.settle m outcome now).Ends h result)
    (hdelivered : result.2 = .delivered code) : ∃ body, outcome = .success code body := by
  unfold settle at hends
  split at hends
  · obtain ⟨rfl, -⟩ := hends.of_done
    obtain rfl := Transition.delivered.inj hdelivered
    exact ⟨_, rfl⟩
  · obtain ⟨decision, _, _, -, hends, -⟩ := hends.of_bind
    obtain ⟨rfl, -⟩ := hends.of_done
    cases decision with
    | retry => cases hdelivered
    | giveUp => cases hdelivered

/-- A delivery concludes with the transition that was made. -/
theorem eq_of_conclude {t t' : Transition} (hends : (conclude m t).Ends h (.ok t')) : t = t' := by
  obtain ⟨answer, _, _, -, hends, -⟩ := hends.of_bind
  cases answer with
  | error e => cases (hends.of_done).1
  | ok _ =>
    obtain ⟨_, _, _, -, hends, -⟩ := hends.of_bind
    exact Except.ok.inj hends.of_done.1

/-- A delivery that has succeeded has sent one request, which was answered with a success. -/
theorem request_of_delivered {code : UInt16}
    (hends : (w.deliver m).Ends h (.ok (.delivered code))) :
    ∃ r signature world world' report body, DeliveryRequest.ofMessage m = .ok r
      ∧ requests h = [⟨world, .send w.client (r.sign signature), report⟩]
      ∧ world.perform (.send w.client (r.sign signature)) = (some report, world')
      ∧ report.outcome = .success code body := by
  rw [deliver] at hends
  cases hr : DeliveryRequest.ofMessage m with
  | error reason =>
    rw [hr] at hends
    obtain ⟨answer, _, _, -, hends, -⟩ := hends.of_bind
    cases answer with
    | error e => cases (hends.of_done).1
    | ok _ =>
      obtain ⟨_, _, _, -, hends, -⟩ := hends.of_bind
      cases Except.ok.inj hends.of_done.1
  | ok r =>
    rw [hr] at hends
    -- sign, exchange, time, record, settle, conclude
    obtain ⟨signature, h₁, h₂, hsignature, hsigned, rfl⟩ := hends.of_bind
    obtain ⟨report, h₃, h₄, hexchange, hsent, rfl⟩ := hsigned.of_bind
    obtain ⟨now, h₅, h₆, hnow, htimed, rfl⟩ := hsent.of_bind
    obtain ⟨recorded, h₇, h₈, hrecord, hsettles, rfl⟩ := htimed.of_bind
    obtain ⟨result, h₉, h₁₀, hsettle, hconclude, rfl⟩ := hsettles.of_bind
    obtain ⟨world, world', hperform, hrequests⟩ := ends_exchange hexchange
    obtain ⟨body, hsuccess⟩ := success_of_settle hsettle (eq_of_conclude hconclude)
    refine ⟨r, signature, world, world', report, body, rfl, ?_, hperform, hsuccess⟩
    -- Nothing else that a delivery does sends a request.
    rw [requests_append, requests_append, requests_append, requests_append, requests_append,
      hsignature.requests_of_silent (silent_signatureFor m), hrequests,
      hnow.requests_of_silent (Task.silent_perform rfl),
      hrecord.requests_of_silent (Task.silent_perform rfl),
      hsettle.requests_of_silent (silent_settle w m report.outcome now),
      hconclude.requests_of_silent (silent_conclude result.1 result.2)]
    rfl

end Worker

theorem DeliveryRequest.body_of_ofMessage {m : Message} {r : DeliveryRequest}
    (h : ofMessage m = .ok r) : r.body = m.payload := by
  obtain ⟨_, _, -, -, rfl⟩ := ofMessage_eq_ok.mp h
  rfl

/-- An outcome is a success only with a code that says so. -/
theorem Outcome.code_of_success {status code : UInt16} {read body : Option String}
    (h : ofResponse status read = .success code body) :
    isSuccessCode code = true ∧ status = code := by
  rw [ofResponse] at h
  split at h
  · rename_i hcode
    obtain ⟨rfl, -⟩ := Outcome.success.inj h
    exact ⟨hcode, rfl⟩
  · cases h

/-- A request that comes to a success has been led to it by redirects, and not too many. -/
theorem Client.chain_of_success {c : Client} {network : Network} {sent sent' : List WireRequest}
    {r : DeliveryRequest} {code : UInt16} {body : Option String}
    (h : c.deliver network sent r = (.success code body, sent')) :
    ∃ statuses last answer, statuses.length ≤ c.settings.maxRedirects.toNat
      ∧ RedirectChain network r.url (r.wire c.settings.userAgent) sent statuses last answer sent'
      ∧ answer.status = code ∧ Outcome.isSuccessCode code = true := by
  rw [deliver] at h
  by_cases hsendable : r.url.isSendable = true
  · simp only [if_pos hsendable] at h
    rcases hfollowed : followChain network c.settings.maxRedirects.toNat r.url
      (r.wire c.settings.userAgent) sent with ⟨failure | ⟨last, answer⟩, sent''⟩
    · rw [hfollowed] at h
      cases (Prod.mk.inj h).1
    · rw [hfollowed] at h
      -- the outcome is that of the answer at the end of the chain
      obtain ⟨houtcome, rfl⟩ := Prod.mk.inj h
      obtain ⟨hcode, rfl⟩ := Outcome.code_of_success houtcome
      obtain ⟨statuses, hlength, hchain⟩ := followChain_eq_ok_iff.mp hfollowed
      exact ⟨statuses, last, answer, hlength, hchain, rfl, hcode⟩
  · simp only [if_neg hsendable] at h
    cases (Prod.mk.inj h).1

/-- A delivery that has succeeded has sent one request, with the method and the payload of its
message, and redirects, no more than the client follows, have led from there to the request that was
answered with a success. That one has method and payload of the message as well exactly if every
redirect in between has repeated them. -/
theorem Worker.delivered_iff_repeated {w : Worker} {m : Message} {h : List Moment} {code : UInt16}
    (hends : (w.deliver m).Ends h (.ok (.delivered code))) :
    ∃ r signature world report, DeliveryRequest.ofMessage m = .ok r
      ∧ requests h = [⟨world, .send w.client (r.sign signature), report⟩]
      ∧ ∃ statuses last answer sent',
        RedirectChain world.network r.url ((r.sign signature).wire w.client.settings.userAgent)
          world.sent statuses last answer sent'
        ∧ statuses.length ≤ w.client.settings.maxRedirects.toNat
        ∧ (∃ earlier, sent' = last :: earlier ∧ world.network earlier last = .response answer)
        ∧ answer.status = code ∧ Outcome.isSuccessCode code = true
        ∧ ((last.method = r.method ∧ last.body = m.payload)
          ↔ ∀ status ∈ statuses, RepeatsRequest status r.method m.payload) := by
  obtain ⟨r, signature, world, world', report, body, hr, hrequests, hperform, hsuccess⟩ :=
    request_of_delivered hends
  have hreport := Option.some.inj (Prod.mk.inj hperform).1
  have hdelivered : (w.client.deliver world.network world.sent (r.sign signature)).1
      = .success code body := by
    rw [← hsuccess, ← hreport]
    rfl
  obtain ⟨statuses, last, answer, hlength, hchain, hstatus, hcode⟩ :=
    Client.chain_of_success (Prod.ext hdelivered rfl)
  refine ⟨r, signature, world, report, hr, hrequests, statuses, last, answer, _, hchain, hlength,
    hchain.reply_eq, hstatus, hcode, ?_⟩
  rw [← DeliveryRequest.body_of_ofMessage hr]
  exact hchain.repeats_iff

-- A post goes to a receiver that has moved, and that answers a request for its new place.

/-- A receiver that answers its first request with a redirect of some status, and accepts all
others. -/
def Network.moved (status : UInt16) : Network := fun sent _ =>
  let headers := if sent.isEmpty then [("location", "http://[::1]/next")] else []
  .response { status := if sent.isEmpty then status else 200, headers, chunks := []
              ending := .complete }

/-- A post with the payload 1, 2, 3. -/
def Message.posted : Message :=
  .ofDraft (Supply.counting.messageIds 0) { Draft.toLoopback with payload := [1, 2, 3] } .epoch

/-- A world with this message in store and this receiver on the network. -/
def World.moved (status : UInt16) : World :=
  { World.fresh with store := { messages := [.posted] }, network := .moved status }

/-- An answer is read off a run without its errors, which need not be decidable. -/
theorem eq_some_ok {ε α : Type} {answer? : Option (Except ε α)} {a : α}
    (h : answer?.bind (·.toOption) = some a) : answer? = some (.ok a) := by
  obtain ⟨answer, hanswer, hok⟩ := Option.bind_eq_some_iff.mp h
  cases answer with
  | error e => cases hok
  | ok b => rw [hanswer, Option.some.inj hok]

/-- A delivery that answers with a status is one that has come to its end without an error. -/
theorem Worker.run_posted (status : UInt16)
    (h : ((Worker.plain.deliver .posted).run (.moved status)).1.bind (·.toOption)
      = some (.delivered 200)) :
    ((Worker.plain.deliver .posted).run (.moved status)).1 = some (.ok (.delivered 200)) :=
  eq_some_ok h

/-- A delivery to a receiver that answers with a 307 at first succeeds. -/
theorem Worker.delivered_moved : ∃ r signature world report,
    DeliveryRequest.ofMessage .posted = .ok r
      ∧ requests ((Worker.plain.deliver .posted).moments (.moved 307))
        = [⟨world, .send Worker.plain.client (r.sign signature), report⟩]
      ∧ ∃ statuses last answer sent',
        RedirectChain world.network r.url
          ((r.sign signature).wire Worker.plain.client.settings.userAgent) world.sent statuses last
          answer sent'
        ∧ statuses.length ≤ Worker.plain.client.settings.maxRedirects.toNat
        ∧ (∃ earlier, sent' = last :: earlier ∧ world.network earlier last = .response answer)
        ∧ answer.status = 200 ∧ Outcome.isSuccessCode 200 = true
        ∧ ((last.method = r.method ∧ last.body = Message.posted.payload)
          ↔ ∀ status ∈ statuses, RepeatsRequest status r.method Message.posted.payload) := by
  have hanswer := run_posted 307 (by decide +kernel)
  exact delivered_iff_repeated (Task.ends_of_run (Prod.ext hanswer rfl))

/-- A 302 leads to a success that does not stand for the payload: it is not always true that the
latest request that a successful delivery has sent, which is the one that was answered with the
success, has method and payload of the message. -/
theorem Worker.delivered_without_payload : ¬ ∀ (w : Worker) (m : Message) (world : World)
    (code : UInt16) (r : DeliveryRequest),
    ((w.deliver m).run world).1 = some (.ok (.delivered code)) →
    DeliveryRequest.ofMessage m = .ok r →
    ∃ last earlier answer, ((w.deliver m).run world).2.sent = last :: earlier
      ∧ world.network earlier last = .response answer ∧ answer.status = code
      ∧ last.method = r.method ∧ last.body = m.payload := by
  intro hall
  have hanswer := run_posted 302 (by decide +kernel)
  have hsent : ((Worker.plain.deliver .posted).run (.moved 302)).2.sent.map (·.body)
      = [[], [1, 2, 3]] := by
    decide +kernel
  have hrequest : (DeliveryRequest.ofMessage .posted).toOption.isSome = true := by decide +kernel
  cases hr : DeliveryRequest.ofMessage .posted with
  | error e =>
    rw [hr] at hrequest
    cases hrequest
  | ok r =>
    obtain ⟨last, earlier, -, hlast, -, -, -, hbody⟩ := hall _ _ _ _ r hanswer hr
    rw [hlast, List.map_cons, hbody] at hsent
    cases hsent

end WebhookDelivery
