import WebhookDelivery.Proofs.Ownership

/-!
# The tally of attempts

Three accounts are kept of the attempts on a message: the requests that went out and what they came
to, the attempts on record, and the message itself with its count and its status. They never agree
for long: a request is out before its attempt is recorded, and the attempt is recorded before the
message is written. But as long as a message has one handle, only the round that has it in hand can
be ahead, and by its own last attempt only.

`Tally` says this of one message. What is to hold of a message that is up to date is a parameter: a
predicate of the message, the reports and the recorded attempts. `Keeps` lists what it has to be
closed under, and `Tally.step` says that then every move preserves the tally.
-/

namespace WebhookDelivery

-- ---------------------------------------------------------------------------
-- What requests come to
-- ---------------------------------------------------------------------------

/-- What the report of a request is like: the store can hold its body, in which no character is NUL,
and success goes by the status code. -/
structure Report.Genuine (r : Report) : Prop where
  body : r.outcome.result.responseBody.any (·.toList.contains '\x00') = false
  code : r.outcome.isSuccess = r.outcome.statusCode?.any Outcome.isSuccessCode

/-- What stands for a NUL is not NUL itself. -/
theorem replaceNul_ne (c : Char) : replaceNul c ≠ '\x00' := by
  rw [replaceNul]
  split
  · decide
  · assumption

theorem contains_replaceNul (cs : List Char) :
    (String.ofList (cs.map replaceNul)).toList.contains '\x00' = false := by
  simp [replaceNul_ne]

/-- The summary of a body has no NUL in it, be it whole or cut short. -/
theorem any_summarizeBody (bytes : Octets) :
    (summarizeBody bytes).any (·.toList.contains '\x00') = false := by
  rw [summarizeBody]
  split
  · rfl
  · split
    · rw [Option.any_some]
      exact contains_replaceNul _
    · rw [Option.any_some]
      exact contains_replaceNul _

/-- What is recorded of a body that came in pieces has no NUL in it. -/
theorem any_readBody (chunks : List Octets) (ending : BodyEnd) :
    (readBody chunks ending).any (·.toList.contains '\x00') = false := by
  rw [readBody]
  split
  · exact any_summarizeBody _
  · decide +kernel

/-- A response is a success exactly when its status code says so. -/
theorem Outcome.code_ofResponse (code : UInt16) (body : Option String) :
    (ofResponse code body).isSuccess
      = (ofResponse code body).statusCode?.any Outcome.isSuccessCode := by
  rw [ofResponse]
  cases hcode : isSuccessCode code with
  | true => exact hcode.symm
  | false => exact hcode.symm

/-- Whatever a request comes to can be recorded. -/
theorem Client.genuine_deliver (client : Client) (network : Network) (sent : List WireRequest)
    (r : DeliveryRequest) (d : Duration) :
    (Report.mk (client.deliver network sent r).1 d).Genuine := by
  rw [deliver]
  split
  · rename_i last response sent' _
    refine ⟨?_, Outcome.code_ofResponse _ _⟩
    have hbody : (if hasBody last.method response.status then
        readBody response.chunks response.ending else none).any
          (·.toList.contains '\x00') = false := by
      split
      · exact any_readBody _ _
      · rfl
    simp only
    rw [Outcome.ofResponse]
    split <;> exact hbody
  · exact ⟨rfl, rfl⟩

/-- Every send the surroundings answer is answered by a genuine report. -/
theorem World.genuine_of_send {w w' : World} {client : Client} {r : DeliveryRequest}
    {report : Report} (h : w.perform (.send client r) = (some report, w')) : report.Genuine := by
  obtain rfl := Option.some.inj (Prod.mk.inj h).1
  exact client.genuine_deliver w.network w.sent r _

-- ---------------------------------------------------------------------------
-- Reports and attempts
-- ---------------------------------------------------------------------------

/-- What a request for a message came to. -/
def Moment.report? (id : MessageId) : Moment → Option Report
  | ⟨_, .send _ r, report⟩ => if r.messageId = id then some report else none
  | _ => none

theorem Moment.report?_send (id : MessageId) (w : World) (client : Client) (r : DeliveryRequest)
    (report : Report) : Moment.report? id ⟨w, .send client r, report⟩
      = if r.messageId = id then some report else none := rfl

/-- What the requests for a message came to, in the order in which they went out. -/
def reports (id : MessageId) (h : List Moment) : List Report :=
  (h.filterMap (·.report? id)).reverse

/-- Whether a recorded attempt has this number and tells of this report. -/
structure Attempt.Carries (a : Attempt) (number : Nat) (report : Report) : Prop where
  number : a.number.value = number
  statusCode : a.statusCode = report.outcome.result.statusCode
  responseBody : a.responseBody = report.outcome.result.responseBody
  errorMessage : a.errorMessage = report.outcome.result.errorMessage
  durationMs : a.durationMs = some report.durationMs

/-- Whether recorded attempts are numbered from one and tell of these reports, one for each. -/
def Numbered (reports : List Report) (attempts : List Attempt) : Prop :=
  attempts.length = reports.length ∧ ∀ (i : Nat) (report : Report) (a : Attempt),
    reports[i]? = some report → attempts[i]? = some a → a.Carries (i + 1) report

/-- Numbering goes on when one more report is recorded under the next number. -/
theorem Numbered.append {os : List Report} {as : List Attempt} {o : Report} {a : Attempt}
    (h : Numbered os as) (ha : a.Carries (os.length + 1) o) : Numbered (os ++ [o]) (as ++ [a]) := by
  refine ⟨by simp [h.1], fun i o' a' ho ha' => ?_⟩
  rcases Nat.lt_trichotomy i os.length with hlt | rfl | hgt
  · rw [List.getElem?_append_left hlt] at ho
    rw [List.getElem?_append_left (h.1 ▸ hlt)] at ha'
    exact h.2 i o' a' ho ha'
  · rw [List.getElem?_concat_length] at ho
    rw [← h.1, List.getElem?_concat_length] at ha'
    obtain rfl := Option.some.inj ho
    obtain rfl := Option.some.inj ha'
    exact ha
  · rw [List.getElem?_eq_none (by simp; omega)] at ho
    cases ho

/-- What holds of a message that counts all but these last reports and recorded attempts. -/
def Accounts (P : Message → List Report → List Attempt → Prop) (m : Message)
    (reports : List Report) (attempts : List Attempt) (uncounted : List Report)
    (traces : List NewAttempt) : Prop :=
  ∃ os as us, reports = os ++ uncounted ∧ us.length = traces.length
    ∧ attempts = as ++ List.zipWith NewAttempt.record traces us ∧ Numbered os as ∧ P m os as

section Accounts

variable {P : Message → List Report → List Attempt → Prop} {m m' : Message} {rs : List Report}
  {as : List Attempt} {o : Report} {n : NewAttempt}

/-- A request that went out leaves one report uncounted. -/
theorem Accounts.sent (h : Accounts P m rs as [] []) : Accounts P m (rs ++ [o]) as [o] [] := by
  obtain ⟨os, as', us, rfl, hlength, rfl, hnumbered, hP⟩ := h
  exact ⟨os, as', us, by simp, hlength, rfl, hnumbered, hP⟩

/-- Recording the attempt leaves the report uncounted, and now the attempt too. -/
theorem Accounts.recorded {u : Uuid} (h : Accounts P m rs as [o] []) :
    Accounts P m rs (as ++ [n.record u]) [o] [n] := by
  obtain ⟨os, as', us, rfl, hlength, rfl, hnumbered, hP⟩ := h
  exact ⟨os, as', [u], rfl, rfl, by simp, hnumbered, hP⟩

/-- The account of a message is the account of another that keeps what `P` says. -/
theorem Accounts.replace {uncounted : List Report} {traces : List NewAttempt}
    (h : Accounts P m rs as uncounted traces)
    (hP : ∀ os as, Numbered os as → P m os as → P m' os as) :
    Accounts P m' rs as uncounted traces := by
  obtain ⟨os, as', us, hrs, hlength, has, hnumbered, hP'⟩ := h
  exact ⟨os, as', us, hrs, hlength, has, hnumbered, hP _ _ hnumbered hP'⟩

/-- A message comes to count its last report and attempt. -/
theorem Accounts.counted (h : Accounts P m rs as [o] [n])
    (hP : ∀ os as' u, Numbered os as' → P m os as' → n.record u ∈ as →
      (n.record u).Carries (os.length + 1) o ∧ P m' (os ++ [o]) (as' ++ [n.record u])) :
    Accounts P m' rs as [] [] := by
  obtain ⟨os, as', us, rfl, hlength, rfl, hnumbered, hP'⟩ := h
  obtain ⟨u, rfl⟩ := List.length_eq_one_iff.mp hlength
  obtain ⟨hcarries, hP'⟩ := hP os as' u hnumbered hP' (by simp)
  exact ⟨os ++ [o], as' ++ [n.record u], [], by simp, rfl, by simp, hnumbered.append hcarries, hP'⟩

end Accounts

-- ---------------------------------------------------------------------------
-- What a stage is ahead by
-- ---------------------------------------------------------------------------

/-- A stored message of which this is a copy: what never changes is the same, and so is the count
of attempts. -/
structure Message.Matches (stored copy : Message) : Prop where
  method : stored.method = copy.method
  url : stored.url = copy.url
  attemptCount : stored.attemptCount = copy.attemptCount

namespace Stage

/-- The message that a submission has stored. -/
def newcomer? : Stage → Option Message
  | accepted m | refused m | deferring m _ => some m
  | _ => none

/-- The report that a stored message does not count yet. -/
def uncounted (id : MessageId) : Stage → List Report
  | answered _ m report | timed _ m report _ | recorded _ m report _ =>
    if m.id = id then [report] else []
  | _ => []

/-- The recorded attempt that a stored message does not count yet. -/
def traces (id : MessageId) : Stage → List NewAttempt
  | recorded _ m report now => if m.id = id then [m.attempt report now] else []
  | _ => []

theorem uncounted_eq_nil {σ : Stage} {id : MessageId} (h : σ.hand ≠ some id) :
    σ.uncounted id = [] := by
  cases σ <;> first | rfl | exact if_neg fun heq => h (congrArg some heq)

theorem traces_eq_nil {σ : Stage} {id : MessageId} (h : σ.hand ≠ some id) : σ.traces id = [] := by
  cases σ <;> first | rfl | exact if_neg fun heq => h (congrArg some heq)

/-- Before the request and after the write there is no report to keep back. -/
theorem uncounted_of_report {σ : Stage} (h : σ.report? = none) (id : MessageId) :
    σ.uncounted id = [] := by
  cases σ <;> first | rfl | cases h

theorem traces_of_report {σ : Stage} (h : σ.report? = none) (id : MessageId) :
    σ.traces id = [] := by
  cases σ <;> first | rfl | cases h

/-- What a round has recorded ahead of its message is an attempt on its copy. -/
theorem traces_cases (σ : Stage) (id : MessageId) :
    σ.traces id = [] ∨ ∃ c report now, σ.copy? = some c ∧ c.id = id
      ∧ σ.traces id = [c.attempt report now] := by
  cases σ with
  | recorded entry c report now =>
    by_cases hid : c.id = id
    · exact .inr ⟨c, report, now, rfl, hid, if_pos hid⟩
    · exact .inl (if_neg hid)
  | idle | popped | loaded | answered | timed | troubled | pausing | sweeping | pushed | recovering
  | absent | accepted | refused | deferring => exact .inl rfl

theorem report_of_copy {σ : Stage} (h : σ.copy? = none) : σ.report? = none := by
  cases σ <;> first | rfl | cases h

theorem newcomer_of_copy {σ : Stage} (h : σ.copy? = none) : σ.newcomer? = none := by
  cases σ <;> first | rfl | cases h

end Stage

theorem countP_hand_pos {σs : List Stage} {σ : Stage} {id : MessageId} (hσ : σ ∈ σs)
    (hhand : σ.hand = some id) : 0 < σs.countP (·.hand = some id) :=
  List.countP_pos_iff.mpr ⟨σ, hσ, decide_eq_true hhand⟩

/-- If a round has a message in hand, no other has. -/
theorem Fair.others {k : Ledger} {before after : List Stage} {σ : Stage} {id : MessageId}
    (h : Fair k (before ++ σ :: after) id) (hhand : σ.hand = some id) :
    ∀ τ ∈ before ++ after, τ.hand ≠ some id := by
  intro τ hτ heq
  have hsingle := h.single
  have hholds : σ.holds id = 1 := if_pos hhand
  have hpos := countP_hand_pos hτ heq
  rw [handles_split, handles] at hsingle
  omega

/-- A message that is not stored is in no hand. -/
theorem Fair.none_of_missing {k : Ledger} {σs : List Stage} {id : MessageId} (h : Fair k σs id)
    (hmissing : k.get? id = none) : ∀ τ ∈ σs, τ.hand ≠ some id := by
  intro τ hτ heq
  have hpos := countP_hand_pos hτ heq
  obtain ⟨m, hm, -⟩ := h.live (by rw [handles]; omega)
  rw [hmissing] at hm
  cases hm

/-- A message that a round has in hand has not come to its end. -/
theorem Fair.live_of_hand {k : Ledger} {before after : List Stage} {σ : Stage} {id : MessageId}
    (h : Fair k (before ++ σ :: after) id) (hhand : σ.hand = some id) :
    ∃ m, k.get? id = some m ∧ m.status.isTerminal = false := by
  have hholds : σ.holds id = 1 := if_pos hhand
  obtain ⟨m, hm, hstatus⟩ := h.live (by rw [handles_split]; omega)
  rcases hstatus with hpending | ⟨hretry, -⟩
  · exact ⟨m, hm, by rw [hpending]; rfl⟩
  · exact ⟨m, hm, by rw [hretry]; rfl⟩

/-- Where only one role contributes anything, its contribution is the whole. -/
theorem flatMap_alone {α β : Type} {before after : List α} {a : α} {f : α → List β}
    (h : ∀ b ∈ before ++ after, f b = []) : (before ++ a :: after).flatMap f = f a := by
  have hbefore : before.flatMap f = [] :=
    List.flatMap_eq_nil_iff.mpr fun b hb => h b (List.mem_append_left _ hb)
  have hafter : after.flatMap f = [] :=
    List.flatMap_eq_nil_iff.mpr fun b hb => h b (List.mem_append_right _ hb)
  rw [List.flatMap_append, List.flatMap_cons, hbefore, hafter, List.append_nil, List.nil_append]

-- ---------------------------------------------------------------------------
-- The tally
-- ---------------------------------------------------------------------------

/-- The tally of a message: `P` is what holds of it when it is up to date. -/
structure Tally (P : Message → List Report → List Attempt → Prop) (k : Ledger) (σs : List Stage)
    (h : List Moment) (id : MessageId) : Prop where
  unseen : k.get? id = none → reports id h = [] ∧ k.attemptsOf id = []
  copies : ∀ σ ∈ σs, ∀ c, σ.copy? = some c → c.id = id → ∃ m, k.get? id = some m ∧ m.Matches c
  newcomers : ∀ σ ∈ σs, ∀ c, σ.newcomer? = some c → c.id = id → c.attemptCount = .zero
  genuine : ∀ σ ∈ σs, ∀ report, σ.report? = some report → report.Genuine
  accounted : ∀ m, k.get? id = some m → Accounts P m (reports id h) (k.attemptsOf id)
    (σs.flatMap (·.uncounted id)) (σs.flatMap (·.traces id))

/-- What the predicate of a tally has to be closed under: `roles` are the roles at work, and `Q`
holds of every attempt on record. -/
structure Keeps (roles : Role → Prop) (Q : Attempt → Prop)
    (P : Message → List Report → List Attempt → Prop) : Prop where
  counts : ∀ m os as, P m os as → m.status.isTerminal = false →
    m.attemptCount.value = os.length ∧ os.length < 2147483647
  created : ∀ d draft id now, Draft.normalize d = .ok draft → P (.ofDraft id draft now) [] []
  requeued : ∀ m os as now, P m os as → m.status = .retry → P (m.requeued now) os as
  deferred : ∀ m c now, P m [] [] → m.status.isTerminal = false → m.Matches c →
    P (m.progressed (c.defer now now)) [] []
  settled : ∀ w m c c' o os as a, roles (.worker w) → P m os as → m.status.isTerminal = false →
    m.Matches c → w.Settles c a.attemptedAt o.outcome c' → o.Genuine →
    a.Carries (os.length + 1) o → Q a → P (m.progressed c') (os ++ [o]) (as ++ [a])
  rejected : ∀ m m' os as now reason, P m os as → m.status.isTerminal = false →
    DeliveryRequest.ofMessage m = .error reason → m.setStatus .failed now = .ok m' → P m' os as

section Step

variable {P : Message → List Report → List Attempt → Prop} {k k' : Ledger} {σ σ' : Stage}
  {before after : List Stage} {h h' : List Moment} {id : MessageId}

/-- A move that changes none of the accounts of a message. -/
theorem Tally.frame (htally : Tally P k (before ++ σ :: after) h id)
    (hget : k'.get? id = k.get? id) (hattempts : k'.attemptsOf id = k.attemptsOf id)
    (hreports : reports id h' = reports id h) (huncounted : σ'.uncounted id = σ.uncounted id)
    (htraces : σ'.traces id = σ.traces id)
    (hcopy : ∀ c, σ'.copy? = some c → c.id = id → ∃ m, k.get? id = some m ∧ m.Matches c)
    (hnewcomer : ∀ c, σ'.newcomer? = some c → c.id = id → c.attemptCount = .zero)
    (hreport : ∀ report, σ'.report? = some report → report.Genuine) :
    Tally P k' (before ++ σ' :: after) h' id := by
  -- each clause splits on whose copy it is: the one that moves, or another
  refine ⟨fun hnone => ?_, fun τ hτ c hc hid => ?_, fun τ hτ c hc hid => ?_,
    fun τ hτ report hr => ?_, fun m hm => ?_⟩
  · rw [hreports, hattempts]
    exact htally.unseen (hget ▸ hnone)
  · rw [hget]
    rcases mem_split.mp hτ with rfl | hτ
    · exact hcopy c hc hid
    · exact htally.copies τ (mem_split.mpr (.inr hτ)) c hc hid
  · rcases mem_split.mp hτ with rfl | hτ
    · exact hnewcomer c hc hid
    · exact htally.newcomers τ (mem_split.mpr (.inr hτ)) c hc hid
  · rcases mem_split.mp hτ with rfl | hτ
    · exact hreport report hr
    · exact htally.genuine τ (mem_split.mpr (.inr hτ)) report hr
  · have haccounts := htally.accounted m (hget ▸ hm)
    rw [hreports, hattempts]
    simpa only [List.flatMap_append, List.flatMap_cons, huncounted, htraces] using haccounts

/-- A round that goes on to a stage without a message leaves all accounts alone, if it was not
ahead. -/
theorem Tally.blank (htally : Tally P k (before ++ σ :: after) h id)
    (hget : k'.get? id = k.get? id) (hattempts : k'.attemptsOf id = k.attemptsOf id)
    (hreports : reports id h' = reports id h) (hbehind : σ.report? = none)
    (hcopy : σ'.copy? = none) : Tally P k' (before ++ σ' :: after) h' id := by
  refine htally.frame hget hattempts hreports ?_ ?_ (fun c hc => ?_) (fun c hc => ?_)
    fun report hr => ?_
  · rw [Stage.uncounted_of_report (Stage.report_of_copy hcopy), Stage.uncounted_of_report hbehind]
  · rw [Stage.traces_of_report (Stage.report_of_copy hcopy), Stage.traces_of_report hbehind]
  · cases hcopy.symm.trans hc
  · cases (Stage.newcomer_of_copy hcopy).symm.trans hc
  · cases (Stage.report_of_copy hcopy).symm.trans hr

/-- A round that goes on with the same message leaves all accounts alone. -/
theorem Tally.same (htally : Tally P k (before ++ σ :: after) h id)
    (hget : k'.get? id = k.get? id) (hattempts : k'.attemptsOf id = k.attemptsOf id)
    (hreports : reports id h' = reports id h) : Tally P k' (before ++ σ :: after) h' id :=
  have hmem : σ ∈ before ++ σ :: after := mem_split.mpr (.inl rfl)
  htally.frame hget hattempts hreports rfl rfl (htally.copies σ hmem) (htally.newcomers σ hmem)
    (htally.genuine σ hmem)

/-- A stored message may change in what no copy depends on. -/
theorem Tally.rewritten {σs : List Stage} {m m' : Message} (htally : Tally P k σs h id)
    (hget : k.get? m.id = some m) (hsame : m'.id = m.id) (hmatches : m'.Matches m)
    (hP : ∀ os as, Numbered os as → P m os as → P m' os as) : Tally P (k.put m') σs h id := by
  -- the message itself, or one the write did not touch
  by_cases hid : m.id = id
  · subst hid
    have hnew : (k.put m').get? m.id = some m' := by
      rw [← hsame]
      exact Ledger.get?_put_self k m'
    refine ⟨fun hnone => (by cases hnew.symm.trans hnone), fun τ hτ c hc hid => ?_,
      htally.newcomers, htally.genuine, fun n hn => ?_⟩
    · obtain ⟨n, hn, hcopy⟩ := htally.copies τ hτ c hc hid
      obtain rfl := Option.some.inj (hget.symm.trans hn)
      exact ⟨m', hnew, hmatches.method.trans hcopy.method, hmatches.url.trans hcopy.url,
        hmatches.attemptCount.trans hcopy.attemptCount⟩
    · obtain rfl := Option.some.inj (hnew.symm.trans hn)
      exact (htally.accounted m hget).replace hP
  · have hother : (k.put m').get? id = k.get? id := Ledger.get?_put_of_ne k (hsame ▸ hid)
    refine ⟨fun hnone => htally.unseen (hother ▸ hnone), fun τ hτ c hc hid => ?_, htally.newcomers,
      htally.genuine, fun n hn => htally.accounted n (hother ▸ hn)⟩
    rw [hother]
    exact htally.copies τ hτ c hc hid

/-- A submission stores its message: the account of the new message starts at zero. -/
theorem Tally.created {m : Message} {n : Nat} (htally : Tally P k (before ++ σ :: after) h id)
    (hfair : Fair k (before ++ σ :: after) id) (hmissing : k.get? m.id = none)
    (hbehind : σ.report? = none) (hreports : reports id h' = reports id h)
    (hcount : m.attemptCount = .zero) (hP : P m [] []) :
    Tally P { k.put m with created := n } (before ++ .accepted m :: after) h' id := by
  have hput : ∀ id, Ledger.get? { k.put m with created := n } id = (k.put m).get? id :=
    fun _ => rfl
  by_cases hid : m.id = id
  · subst hid
    have hget := (hput m.id).trans (Ledger.get?_put_self k m)
    -- nobody can hold a message that was not stored before
    have hothers : ∀ τ ∈ before ++ after, τ.hand ≠ some m.id :=
      fun τ hτ => hfair.none_of_missing hmissing τ (mem_split.mpr (.inr hτ))
    obtain ⟨hnoreports, hnoattempts⟩ := htally.unseen hmissing
    refine ⟨fun hnone => (by cases hget.symm.trans hnone), fun τ hτ c hc hid => ?_,
      fun τ hτ c hc hid => ?_, fun τ hτ report hr => ?_, fun n hn => ?_⟩
    · rcases mem_split.mp hτ with rfl | hτ
      · obtain rfl := Option.some.inj hc
        exact ⟨m, hget, rfl, rfl, rfl⟩
      · exact absurd (hid ▸ Stage.hand_of_copy hc) (hothers τ hτ)
    · rcases mem_split.mp hτ with rfl | hτ
      · obtain rfl := Option.some.inj hc
        exact hcount
      · exact htally.newcomers τ (mem_split.mpr (.inr hτ)) c hc hid
    · rcases mem_split.mp hτ with rfl | hτ
      · cases hr
      · exact htally.genuine τ (mem_split.mpr (.inr hτ)) report hr
    · obtain rfl := Option.some.inj (hget.symm.trans hn)
      rw [flatMap_alone fun τ hτ => Stage.uncounted_eq_nil (hothers τ hτ),
        flatMap_alone fun τ hτ => Stage.traces_eq_nil (hothers τ hτ), hreports, hnoreports]
      exact ⟨[], [], [], rfl, rfl, hnoattempts, ⟨rfl, (by rintro _ _ _ ⟨⟩)⟩, hP⟩
  · refine htally.frame ((hput id).trans (Ledger.get?_put_of_ne k hid)) rfl hreports
      (Stage.uncounted_of_report hbehind id).symm (Stage.traces_of_report hbehind id).symm
      (fun c hc hcid => ?_) (fun c hc hcid => ?_) (by rintro _ ⟨⟩)
    · obtain rfl := Option.some.inj hc
      exact absurd hcid hid
    · obtain rfl := Option.some.inj hc
      exact absurd hcid hid

/-- The accounts of a message that a round has in hand. -/
theorem Tally.accounted_alone {m : Message} (htally : Tally P k (before ++ σ :: after) h id)
    (hfair : Fair k (before ++ σ :: after) id) (hhand : σ.hand = some id)
    (hget : k.get? id = some m) :
    Accounts P m (reports id h) (k.attemptsOf id) (σ.uncounted id) (σ.traces id) := by
  have hothers := hfair.others hhand
  have haccounts := htally.accounted m hget
  rwa [flatMap_alone fun τ hτ => Stage.uncounted_eq_nil (hothers τ hτ),
    flatMap_alone fun τ hτ => Stage.traces_eq_nil (hothers τ hτ)] at haccounts

/-- Who has a message in hand replaces it, and lets go of it. -/
theorem Tally.replaced {c stored m : Message} (htally : Tally P k (before ++ σ :: after) h id)
    (hfair : Fair k (before ++ σ :: after) id) (hcopy : σ.copy? = some c)
    (hget : k.get? c.id = some stored) (hsame : m.id = c.id) (hdone : σ'.copy? = none)
    (hreports : reports id h' = reports id h)
    (haccounts : c.id = id → stored.Matches c → stored.status.isTerminal = false →
      Accounts P stored (reports id h) (k.attemptsOf id) (σ.uncounted id) (σ.traces id) →
      Accounts P m (reports id h) (k.attemptsOf id) [] []) :
    Tally P (k.put m) (before ++ σ' :: after) h' id := by
  have hhand : σ.hand = some c.id := Stage.hand_of_copy hcopy
  have huncounted : σ'.uncounted id = [] := Stage.uncounted_of_report (Stage.report_of_copy hdone) id
  have htraces : σ'.traces id = [] := Stage.traces_of_report (Stage.report_of_copy hdone) id
  by_cases hid : c.id = id
  · have hothers := hfair.others (hid ▸ hhand)
    have hnew : (k.put m).get? id = some m := by
      rw [← hid, ← hsame]
      exact Ledger.get?_put_self k m
    refine ⟨fun hnone => (by cases hnew.symm.trans hnone), fun τ hτ c' hc' hid' => ?_,
      fun τ hτ c' hc' hid' => ?_, fun τ hτ report hr => ?_, fun n hn => ?_⟩
    · rcases mem_split.mp hτ with rfl | hτ
      · cases hdone.symm.trans hc'
      · exact absurd (hid' ▸ Stage.hand_of_copy hc') (hothers τ hτ)
    · rcases mem_split.mp hτ with rfl | hτ
      · cases (Stage.newcomer_of_copy hdone).symm.trans hc'
      · exact htally.newcomers τ (mem_split.mpr (.inr hτ)) c' hc' hid'
    · rcases mem_split.mp hτ with rfl | hτ
      · cases (Stage.report_of_copy hdone).symm.trans hr
      · exact htally.genuine τ (mem_split.mpr (.inr hτ)) report hr
    · obtain rfl := Option.some.inj (hnew.symm.trans hn)
      -- ownership: the stored message has not ended while it is in hand
      obtain ⟨n, hn, hlive⟩ := hfair.live_of_hand (hid ▸ hhand)
      obtain rfl := Option.some.inj (hn.symm.trans (hid ▸ hget))
      obtain ⟨n', hn', hmatches⟩ := htally.copies σ (mem_split.mpr (.inl rfl)) c hcopy hid
      obtain rfl := Option.some.inj (hn'.symm.trans hn)
      rw [flatMap_alone fun τ hτ => Stage.uncounted_eq_nil (hothers τ hτ),
        flatMap_alone fun τ hτ => Stage.traces_eq_nil (hothers τ hτ), huncounted, htraces, hreports]
      exact haccounts hid hmatches hlive (htally.accounted_alone hfair (hid ▸ hhand) hn)
  · have hnot : σ.hand ≠ some id := fun hsome => hid (Option.some.inj (hhand.symm.trans hsome))
    refine htally.frame (Ledger.get?_put_of_ne k (hsame ▸ hid)) rfl hreports
      (huncounted.trans (Stage.uncounted_eq_nil hnot).symm)
      (htraces.trans (Stage.traces_eq_nil hnot).symm) (fun c' hc' => ?_) (fun c' hc' => ?_)
      fun report hr => ?_
    · cases hdone.symm.trans hc'
    · cases (Stage.newcomer_of_copy hdone).symm.trans hc'
    · cases (Stage.report_of_copy hdone).symm.trans hr

/-- Who has a message in hand goes ahead with it. -/
theorem Tally.advanced (htally : Tally P k (before ++ σ :: after) h id)
    (hfair : Fair k (before ++ σ :: after) id) (hhand : σ.hand = some id)
    (hget : ∀ id, k'.get? id = k.get? id) (hcopy : σ'.copy? = σ.copy?)
    (hnewcomer : σ'.newcomer? = none) (hreport : ∀ r, σ'.report? = some r → r.Genuine)
    (hstored : ∃ m, k.get? id = some m)
    (haccounts : ∀ m, Accounts P m (reports id h) (k.attemptsOf id) (σ.uncounted id) (σ.traces id) →
      Accounts P m (reports id h') (k'.attemptsOf id) (σ'.uncounted id) (σ'.traces id)) :
    Tally P k' (before ++ σ' :: after) h' id := by
  have hothers := hfair.others hhand
  refine ⟨fun hnone => ?_, fun τ hτ c hc hid => ?_,
    fun τ hτ c hc hid => ?_, fun τ hτ report hr => ?_, fun m hm => ?_⟩
  · obtain ⟨m, hm⟩ := hstored
    cases hm.symm.trans ((hget id).symm.trans hnone)
  · rw [hget]
    rcases mem_split.mp hτ with rfl | hτ
    · exact htally.copies σ (mem_split.mpr (.inl rfl)) c (hcopy ▸ hc) hid
    · exact htally.copies τ (mem_split.mpr (.inr hτ)) c hc hid
  · rcases mem_split.mp hτ with rfl | hτ
    · cases hnewcomer.symm.trans hc
    · exact htally.newcomers τ (mem_split.mpr (.inr hτ)) c hc hid
  · rcases mem_split.mp hτ with rfl | hτ
    · exact hreport report hr
    · exact htally.genuine τ (mem_split.mpr (.inr hτ)) report hr
  · rw [flatMap_alone fun τ hτ => Stage.uncounted_eq_nil (hothers τ hτ),
      flatMap_alone fun τ hτ => Stage.traces_eq_nil (hothers τ hτ)]
    exact haccounts m (htally.accounted_alone hfair hhand ((hget id).symm.trans hm))

end Step

-- ---------------------------------------------------------------------------
-- Every move
-- ---------------------------------------------------------------------------

/-- What an answer is like where no write of an attempt is made to fail. -/
def Call.LeavesTrace (k : Ledger) : (c : Call) → c.Answer → Prop
  | .recordAttempt a, answer =>
    a.result.responseBody.any (·.toList.contains '\x00') = false →
      (∃ stored, k.get? a.messageId = some stored) → ∃ r, answer = .ok r
  | .send _ _, report => report.Genuine
  | _, _ => True

/-- Surroundings that never fail to record an attempt answer so. -/
theorem World.RecordsAttempts.leavesTrace {w w' : World} {c : Call} {answer : c.Answer}
    (h : w.RecordsAttempts) (hperform : w.perform c = (some answer, w')) :
    c.LeavesTrace w.ledger answer := by
  cases c with
  | recordAttempt a =>
    rintro hbody ⟨stored, hstored⟩
    obtain ⟨r, hok⟩ := h.record hbody hstored
    rw [hperform] at hok
    exact ⟨r, Option.some.inj hok⟩
  | send client r => exact genuine_of_send hperform
  | _ => trivial

/-- What an answer is like where no write is made to fail. -/
def Call.Carried (k : Ledger) : (c : Call) → c.Answer → Prop
  | .updateMessage m, answer => m.IsConsistent → (∃ stored, k.get? m.id = some stored) →
    answer = .ok ()
  | .requeueMessage _ _, answer => ∃ requeued, answer = .ok requeued
  | .recordAttempt a, answer =>
    a.result.responseBody.any (·.toList.contains '\x00') = false →
      (∃ stored, k.get? a.messageId = some stored) → ∃ r, answer = .ok r
  | .send _ _, report => report.Genuine
  | _, _ => True

/-- Surroundings that never fail a write answer so. -/
theorem World.Writable.carried {w w' : World} {c : Call} {answer : c.Answer} (h : w.Writable)
    (hperform : w.perform c = (some answer, w')) : c.Carried w.ledger answer := by
  cases c with
  | updateMessage m =>
    rintro hconsistent ⟨stored, hstored⟩
    have hok := h.update hconsistent hstored
    rw [hperform] at hok
    exact Option.some.inj hok
  | requeueMessage id due =>
    obtain ⟨requeued, hok⟩ := h.requeue id due
    rw [hperform] at hok
    exact ⟨requeued, Option.some.inj hok⟩
  | recordAttempt a => exact h.recordsAttempts.leavesTrace hperform
  | send client r => exact h.recordsAttempts.leavesTrace hperform
  | _ => trivial

/-- Where no write is made to fail, no sweep fails to mark what it has pushed. -/
theorem World.Writable.not_spoils {w w' : World} {c : Call} {answer : c.Answer} (h : w.Writable)
    (hperform : w.perform c = (some answer, w')) (id : MessageId) : ¬ c.Spoils answer id := by
  intro hspoils
  cases c with
  | requeueMessage id' due =>
    obtain ⟨requeued, hok⟩ := h.carried hperform
    rw [hok] at hspoils
    exact hspoils
  | _ => exact hspoils

/-- A failed attempt leaves a consistent message, whatever was decided. -/
theorem Message.isConsistent_failed (m : Message) (decision : Retry.Decision) (now : Instant) :
    (m.failed decision now).1.IsConsistent := by
  cases decision <;> simp [failed, IsConsistent, scheduleRetry, markDeadLettered]

/-- What an attempt makes of a message can be stored. -/
theorem Worker.Settles.isConsistent {w : Worker} {m m' : Message} {now : Instant}
    {outcome : Outcome} (h : w.Settles m now outcome m') : m'.IsConsistent := by
  cases h with
  | delivered => simp [Message.IsConsistent, Message.markDelivered]
  | failed => exact m.isConsistent_failed _ now

section Step

attribute [local irreducible] MessageId.text

variable {roles : Role → Prop} {Q : Attempt → Prop}
  {P : Message → List Report → List Attempt → Prop} {ids : Nat → MessageId} {k k' : Ledger}
  {role : Role} {σ σ' : Stage} {world : World} {c : Call} {answer : c.Answer}
  {before after : List Stage} {h : List Moment} {id : MessageId}

theorem reports_cons_of_none {x : Moment} (hx : x.report? id = none) :
    reports id (x :: h) = reports id h := by
  rw [reports, reports, List.filterMap_cons_none hx]

theorem reports_cons_of_some {x : Moment} {report : Report} (hx : x.report? id = some report) :
    reports id (x :: h) = reports id h ++ [report] := by
  rw [reports, reports, List.filterMap_cons_some hx, List.reverse_cons]

/-- A request goes out, and the stored message does not count what it comes to yet. -/
theorem Tally.sent {entry : String} {m : Message} {r : DeliveryRequest} {client : Client}
    {signature : Option Signature} {report : Report}
    (htally : Tally P k (before ++ .loaded entry m :: after) h id)
    (hfair : Fair k (before ++ .loaded entry m :: after) id)
    (hr : DeliveryRequest.ofMessage m = .ok r) (hgenuine : report.Genuine) :
    Tally P k (before ++ .answered entry m report :: after)
      (⟨world, .send client (r.sign signature), report⟩ :: h) id := by
  have hcopies := htally.copies _ (mem_split.mpr (.inl rfl))
  have hrid : r.messageId = m.id := DeliveryRequest.messageId_of_ofMessage hr
  have hreport : ∀ o, (Stage.answered entry m report).report? = some o → o.Genuine := by
    intro o ho
    obtain rfl := Option.some.inj ho
    exact hgenuine
  by_cases hid : m.id = id
  · subst hid
    obtain ⟨stored, hstored, -⟩ := hcopies m rfl rfl
    refine htally.advanced hfair rfl (fun _ => rfl) rfl rfl hreport ⟨stored, hstored⟩ ?_
    intro n haccounts
    -- the moment tells of this message, so its report comes last and is uncounted
    have hreports : reports m.id (⟨world, .send client (r.sign signature), report⟩ :: h)
        = reports m.id h ++ [report] :=
      reports_cons_of_some ((Moment.report?_send _ _ _ _ _).trans (if_pos hrid))
    rw [hreports, Stage.uncounted, if_pos rfl]
    exact haccounts.sent
  · have hne : (r.sign signature).messageId ≠ id := fun heq => hid (hrid.symm.trans heq)
    exact htally.frame rfl rfl (reports_cons_of_none (if_neg hne)) (if_neg hid) rfl hcopies
      (by rintro _ ⟨⟩) hreport

/-- An attempt is recorded, and the stored message does not count it yet. -/
theorem Tally.recorded {entry : String} {m : Message} {report : Report} {now : Instant} {u : Uuid}
    {h' : List Moment} (htally : Tally P k (before ++ .timed entry m report now :: after) h id)
    (hfair : Fair k (before ++ .timed entry m report now :: after) id)
    (hreports : reports id h' = reports id h) :
    Tally P { k with attempts := k.attempts ++ [(m.attempt report now).record u] }
      (before ++ .recorded entry m report now :: after) h' id := by
  have hmem : .timed entry m report now ∈ before ++ Stage.timed entry m report now :: after :=
    mem_split.mpr (.inl rfl)
  have hcopies := htally.copies _ hmem
  have hgenuine := htally.genuine _ hmem
  by_cases hid : m.id = id
  · subst hid
    obtain ⟨stored, hstored, -⟩ := hcopies m rfl rfl
    refine htally.advanced hfair rfl (fun _ => rfl) rfl rfl hgenuine ⟨stored, hstored⟩ ?_
    intro n haccounts
    rw [Stage.uncounted, if_pos rfl] at haccounts
    rw [hreports, Stage.uncounted, Stage.traces, if_pos rfl, if_pos rfl, Ledger.attemptsOf,
      List.filter_append, List.filter_cons_of_pos (by simp [NewAttempt.record, Message.attempt])]
    exact haccounts.recorded
  · refine htally.frame rfl ?_ hreports rfl (if_neg hid) hcopies (by rintro _ ⟨⟩) hgenuine
    rw [Ledger.attemptsOf, List.filter_append,
      List.filter_cons_of_neg (by simp [NewAttempt.record, Message.attempt, hid])]
    exact List.append_nil _

/-- Every move preserves the tally of a message, where no write is made to fail. -/
theorem Tally.step (hkeeps : Keeps roles Q P) (hrole : roles role)
    (hnext : Stage.Next role σ c answer σ') (heffect : Effect ids k c answer k')
    (hcarried : c.Carried k answer)
    (hnew : k.created < k'.created → k.get? (ids k.created) = none)
    (hfair : Fair k (before ++ σ :: after) id) (hQ : ∀ a ∈ k'.attempts, Q a)
    (htally : Tally P k (before ++ σ :: after) h id) :
    Tally P k' (before ++ σ' :: after) (⟨world, c, answer⟩ :: h) id := by
  have hmem : σ ∈ before ++ σ :: after := mem_split.mpr (.inl rfl)
  have hcopies := htally.copies σ hmem
  have hnewcomers := htally.newcomers σ hmem
  have hgenuine := htally.genuine σ hmem
  have hmessages : c.writesRecord = false → k'.get? id = k.get? id := by
    intro hc
    rw [Ledger.get?, heffect.messages_eq hc, Ledger.get?]
  have hattempts : c.writesRecord = false → k'.attemptsOf id = k.attemptsOf id := by
    intro hc
    rw [Ledger.attemptsOf, heffect.attempts_eq hc, Ledger.attemptsOf]
  -- moves that touch no account first; the five that do are at the end
  cases hnext with
  | note | secret | signingTime | draw | sweepTime | dueFailed =>
    cases heffect with
    | quiet => exact htally.same rfl rfl (reports_cons_of_none rfl)
  | pop | popUnreadable | popNothing | popFailed | pause | skipEnded | skipMissing | pushBack
  | due | sweepPush | sweepPushFailed | pending | pendingFailed | present | missing
  | containsFailed | recoverPush | queue =>
    exact htally.blank (hmessages rfl) (hattempts rfl) (reports_cons_of_none rfl) rfl rfl
  | createFailed =>
    cases heffect with
    | quiet => exact htally.blank rfl rfl (reports_cons_of_none rfl) rfl rfl
  | load =>
    cases heffect with
    | quiet hquiet => obtain ⟨_, ⟨⟩⟩ := hquiet
    | find hget =>
      refine htally.frame rfl rfl (reports_cons_of_none rfl) rfl rfl ?_
        (by rintro _ ⟨⟩) (by rintro _ ⟨⟩)
      intro c hc hid
      obtain rfl := Option.some.inj hc
      rw [← hid, Ledger.id_of_get? hget]
      exact ⟨_, hget, rfl, rfl, rfl⟩
  | loadFailed | rejectFailed =>
    cases heffect with
    | quiet =>
      rw [Stage.afterFailure]
      split <;> exact htally.blank rfl rfl (reports_cons_of_none rfl) rfl rfl
  | time =>
    cases heffect with
    | quiet =>
      exact htally.frame rfl rfl (reports_cons_of_none rfl) rfl rfl hcopies
        (by rintro _ ⟨⟩) hgenuine
  | send hr signature report =>
    cases heffect with
    | quiet => exact htally.sent hfair hr hcarried
  | @record w entry m report now =>
    cases heffect with
    | quiet hquiet =>
      obtain ⟨e, rfl⟩ := hquiet
      -- an attempt that fails to be recorded cannot be one of this message
      have hid : m.id ≠ id := by
        intro hid
        obtain ⟨stored, hstored, -⟩ := hcopies m rfl hid
        rw [← hid] at hstored
        obtain ⟨r, hr⟩ := hcarried (hgenuine report rfl).body ⟨stored, hstored⟩
        cases hr
      exact htally.frame rfl rfl (reports_cons_of_none rfl) rfl (if_neg hid) hcopies
        (by rintro _ ⟨⟩) hgenuine
    | record => exact htally.recorded hfair (reports_cons_of_none rfl)
  | @write w entry m m' report now hsettles =>
    cases heffect with
    | quiet hquiet => obtain ⟨_, ⟨⟩⟩ := hquiet
    | @update stored _ hget =>
      rw [hsettles.id_eq] at hget
      have hsame : stored.id = m.id := Ledger.id_of_get? hget
      refine htally.replaced hfair rfl hget hsame rfl (reports_cons_of_none rfl)
        fun hid hmatches hlive haccounts => ?_
      rw [Stage.uncounted, Stage.traces, if_pos hid, if_pos hid] at haccounts
      refine haccounts.counted fun os as u hnumbered hP ha => ?_
      -- the attempt is numbered off the copy, whose count is the stored one
      have hcarries : ((m.attempt report now).record u).Carries (os.length + 1) report := by
        refine ⟨?_, rfl, rfl, rfl, rfl⟩
        obtain ⟨hcount, hlt⟩ := hkeeps.counts _ _ _ hP hlive
        show m.attemptCount.next.value = _
        rw [Count.value_next, ← hmatches.attemptCount, hcount]
        omega
      exact ⟨hcarries, hkeeps.settled w stored m m' report os as _ hrole hP hlive hmatches hsettles
        (hgenuine report rfl) hcarries (hQ _ (List.mem_filter.mp ha).1)⟩
  | @writeFailed w entry m m' report now hsettles e =>
    cases heffect with
    | quiet =>
      have hid : m.id ≠ id := by
        intro hid
        obtain ⟨stored, hstored, -⟩ := hcopies m rfl hid
        have hok := hcarried hsettles.isConsistent
          ⟨stored, by rw [hsettles.id_eq, hid]; exact hstored⟩
        cases hok
      rw [Stage.afterFailure]
      split <;> exact htally.frame rfl rfl (reports_cons_of_none rfl) (if_neg hid).symm
        (if_neg hid).symm (by rintro _ ⟨⟩) (by rintro _ ⟨⟩)
        (by rintro _ ⟨⟩)
  | @reject w entry m reason hreason m' =>
    cases heffect with
    | quiet hquiet => obtain ⟨_, ⟨⟩⟩ := hquiet
    | setStatus hget hset =>
      have hsame := (Message.id_of_setStatus hset).trans (Ledger.id_of_get? hget)
      refine htally.replaced hfair rfl hget hsame rfl (reports_cons_of_none rfl)
        fun _ hmatches hlive haccounts => haccounts.replace fun os as _ hP => ?_
      have hunsendable := DeliveryRequest.unsendable_of_eq hmatches.method hmatches.url hreason
      exact hkeeps.rejected _ _ _ _ _ _ hP hlive hunsendable hset
  | @requeue _ m₀ due batch answer =>
    have hblank : Tally P k (before ++ .sweeping batch :: after)
        (⟨world, .requeueMessage m₀.id due, answer⟩ :: h) id :=
      htally.blank rfl rfl (reports_cons_of_none rfl) rfl rfl
    cases heffect with
    | quiet => exact hblank
    | keep => exact hblank
    | @requeue _ _ m now hget hretry =>
      rw [← Ledger.id_of_get? hget] at hget
      exact hblank.rewritten hget rfl ⟨rfl, rfl, rfl⟩
        fun os as _ hP => hkeeps.requeued _ _ _ now hP hretry
  | @create d draft hdraft m =>
    cases heffect with
    | quiet hquiet => obtain ⟨_, ⟨⟩⟩ := hquiet
    | create =>
      exact htally.created hfair (hnew (Nat.lt_succ_self _)) rfl (reports_cons_of_none rfl) rfl
        (hkeeps.created _ _ _ _ hdraft)
  | refuse | deferTime =>
    cases heffect with
    | quiet =>
      exact htally.frame rfl rfl (reports_cons_of_none rfl) rfl rfl hcopies
        hnewcomers (by rintro _ ⟨⟩)
  | @defer d m now =>
    cases heffect with
    | quiet => exact htally.blank rfl rfl (reports_cons_of_none rfl) rfl rfl
    | @update stored _ hget =>
      have hsame : stored.id = m.id := Ledger.id_of_get? hget
      refine htally.replaced hfair rfl hget hsame rfl (reports_cons_of_none rfl)
        fun hid hmatches hlive haccounts => haccounts.replace fun os as hnumbered hP => ?_
      have hcount := (hkeeps.counts _ _ _ hP hlive).1
      rw [hmatches.attemptCount, hnewcomers m rfl hid] at hcount
      -- a message just stored counts zero, so it has no report and no attempt
      obtain rfl : os = [] := List.length_eq_zero_iff.mp (by simpa [Count.zero] using hcount.symm)
      obtain rfl : as = [] := List.length_eq_zero_iff.mp hnumbered.1
      exact hkeeps.deferred _ _ _ hP hlive hmatches

/-- With one role at work nobody else can interfere, and `Fair` says so by itself. -/
theorem Tally.step_alone (hkeeps : Keeps roles Q P) (hrole : roles role)
    (hnext : Stage.Next role σ c answer σ') (heffect : Effect ids k c answer k')
    (hcarried : c.Carried k answer)
    (hnew : k.created < k'.created → k.get? (ids k.created) = none) (hfair : Fair k [σ] id)
    (hQ : ∀ a ∈ k'.attempts, Q a) (htally : Tally P k [σ] h id) :
    Tally P k' [σ'] (⟨world, c, answer⟩ :: h) id :=
  @Tally.step roles Q P ids k k' role σ σ' world c answer [] [] h id hkeeps hrole hnext heffect
    hcarried hnew hfair hQ htally

-- ---------------------------------------------------------------------------
-- Beginnings and ends
-- ---------------------------------------------------------------------------

theorem Stage.AtRest.report (h : σ.AtRest) : σ.report? = none := by
  rcases h with rfl | rfl | rfl <;> rfl

/-- On an empty ledger nothing is owed for any message. -/
theorem Tally.start (hmessages : k.messages = []) (hattempts : k.attempts = []) :
    Tally P k [.idle] [] id := by
  have hget : k.get? id = none := by simp [Ledger.get?, hmessages]
  refine ⟨fun _ => ⟨rfl, by simp [Ledger.attemptsOf, hattempts]⟩, fun σ hσ c hc => ?_,
    fun σ hσ c hc => ?_, fun σ hσ report hr => ?_, fun m hm => by cases hget.symm.trans hm⟩
  all_goals obtain rfl := List.mem_singleton.mp hσ
  · cases hc
  · cases hc
  · cases hr

/-- Another role that joins, idle, owes nothing. -/
theorem Tally.join {σs : List Stage} (htally : Tally P k σs h id) :
    Tally P k (σs ++ [.idle]) h id := by
  have hmem : ∀ {τ : Stage}, τ ∈ σs ++ [.idle] → τ = .idle ∨ τ ∈ σs := by
    intro τ hτ
    rw [mem_split, List.append_nil] at hτ
    exact hτ
  refine ⟨htally.unseen, fun τ hτ c hc hid => ?_, fun τ hτ c hc hid => ?_,
    fun τ hτ report hr => ?_, fun m hm => ?_⟩
  · rcases hmem hτ with rfl | hτ
    · cases hc
    · exact htally.copies τ hτ c hc hid
  · rcases hmem hτ with rfl | hτ
    · cases hc
    · exact htally.newcomers τ hτ c hc hid
  · rcases hmem hτ with rfl | hτ
    · cases hr
    · exact htally.genuine τ hτ report hr
  · have haccounts := htally.accounted m hm
    simpa [Stage.uncounted, Stage.traces] using haccounts

/-- A round may end, or break off, wherever it is not ahead. -/
theorem Tally.drop (htally : Tally P k (before ++ σ :: after) h id) (hbehind : σ.report? = none) :
    Tally P k (before ++ .idle :: after) h id :=
  htally.blank rfl rfl rfl hbehind rfl

theorem Tally.drop_alone (htally : Tally P k [σ] h id) (hbehind : σ.report? = none) :
    Tally P k [.idle] h id :=
  @Tally.drop P k σ [] [] h id htally hbehind

-- ---------------------------------------------------------------------------
-- Numbers
-- ---------------------------------------------------------------------------

/-- The attempt at position `i` has the number `i + 1`. -/
theorem Numbered.number {os : List Report} {as : List Attempt} (h : Numbered os as) {i : Nat}
    {a : Attempt} (ha : as[i]? = some a) : a.number.value = i + 1 := by
  obtain ⟨hlt, -⟩ := List.getElem?_eq_some_iff.mp ha
  have hlt : i < os.length := h.1 ▸ hlt
  exact (h.2 i os[i] a (List.getElem?_eq_getElem hlt) ha).number

/-- The attempts on record for a message are numbered from one, in order: that of a round which has
not written its message yet comes next after those that are counted. -/
theorem Tally.number {σs : List Stage} (htally : Tally P k σs h id) (hkeeps : Keeps roles Q P)
    (hfair : Fair k σs id) {i : Nat} {a : Attempt} (ha : (k.attemptsOf id)[i]? = some a) :
    a.number.value = i + 1 := by
  cases hget : k.get? id with
  | none =>
    rw [(htally.unseen hget).2] at ha
    cases ha
  | some m =>
    obtain ⟨os, as, us, -, hlength, hattempts, hnumbered, hP⟩ := htally.accounted m hget
    rw [hattempts] at ha
    -- in nobody's hand everything is counted; else one attempt may be uncounted
    by_cases hnone : ∀ σ ∈ σs, σ.hand ≠ some id
    · have htraces : σs.flatMap (·.traces id) = [] :=
        List.flatMap_eq_nil_iff.mpr fun σ hσ => Stage.traces_eq_nil (hnone σ hσ)
      rw [htraces, List.zipWith_nil_left, List.append_nil] at ha
      exact hnumbered.number ha
    · simp only [Classical.not_forall, Decidable.not_not] at hnone
      obtain ⟨σ, hσ, hhand⟩ := hnone
      have hcopies := htally.copies σ hσ
      obtain ⟨before, after, rfl⟩ := List.append_of_mem hσ
      obtain ⟨n, hn, hlive⟩ := hfair.live_of_hand hhand
      obtain rfl := Option.some.inj (hget.symm.trans hn)
      obtain ⟨hcount, hlt⟩ := hkeeps.counts _ _ _ hP hlive
      rw [flatMap_alone fun τ hτ => Stage.traces_eq_nil (hfair.others hhand τ hτ)] at ha hlength
      rcases Nat.lt_or_ge i as.length with hi | hi
      · rw [List.getElem?_append_left hi] at ha
        exact hnumbered.number ha
      · rw [List.getElem?_append_right hi] at ha
        rcases σ.traces_cases id with htraces | ⟨c, report, now, hc, hid, htraces⟩
        · rw [htraces, List.zipWith_nil_left] at ha
          cases ha
        · rw [htraces] at ha hlength
          obtain ⟨u, rfl⟩ := List.length_eq_one_iff.mp hlength
          obtain ⟨hzero, rfl⟩ : i - as.length = 0 ∧ (c.attempt report now).record u = a := by
            simpa [List.getElem?_singleton] using ha
          obtain ⟨stored, hstored, hmatches⟩ := hcopies c hc hid
          obtain rfl := Option.some.inj (hget.symm.trans hstored)
          show c.attemptCount.next.value = _
          rw [Count.value_next, ← hmatches.attemptCount, hcount]
          have := hnumbered.1
          omega

end Step

-- ---------------------------------------------------------------------------
-- What is counted
-- ---------------------------------------------------------------------------

/-- A message that has not come to its end counts its reports, of which there is room for more. -/
def Message.Counted (m : Message) (os : List Report) (_ : List Attempt) : Prop :=
  m.status.isTerminal = false → m.attemptCount.value = os.length ∧ os.length < 2147483647

/-- A retry is granted within the budget only, and is due after the wait. -/
theorem Retry.Policy.of_decide_retry {p : Policy} {draw : Float → Float} {prior : Nat}
    {failedAt next : Instant} {delay : Duration}
    (h : p.decide draw prior failedAt = .ok (.retry next delay)) :
    prior < p.maxAttempts.toNat ∧ p.delay draw prior = .ok delay
      ∧ failedAt.add? delay = some next := by
  rw [decide] at h
  split at h
  · cases h
  · rename_i hbudget
    refine ⟨Nat.not_le.mp hbudget, ?_⟩
    cases hdelay : p.delay draw prior with
    | error fault =>
      rw [hdelay] at h
      cases h
    | ok wait =>
      simp only [hdelay] at h
      split at h
      · cases h
      · cases hnext : failedAt.add? wait with
        | none =>
          rw [hnext] at h
          cases h
        | some due =>
          rw [hnext] at h
          obtain ⟨rfl, rfl⟩ := Retry.Decision.retry.inj (Except.ok.inj h)
          exact ⟨rfl, hnext⟩

/-- The attempts on a copy that count against the budget are those counted by the message. -/
theorem Message.Matches.priorAttempts {m c : Message} {n : Nat} (h : m.Matches c)
    (hcount : m.attemptCount.value = n) : c.priorAttempts = n := by
  rw [Message.priorAttempts, ← h.attemptCount, hcount]
  rfl

/-- Counts are kept if every worker's budget lies below the highest count. -/
theorem keeps_counted {roles : Role → Prop} {Q : Attempt → Prop}
    (hroles : ∀ w, roles (.worker w) → w.policy.maxAttempts.toNat < 2147483647) :
    Keeps roles Q Message.Counted where
  counts _ _ _ hP hlive := hP hlive
  created _ _ _ _ _ _ := ⟨rfl, by decide⟩
  requeued m os as now hP hretry _ := hP (by rw [hretry]; rfl)
  deferred m c now hP hlive hmatches _ := by
    rw [Message.progressed, Message.defer, ← hmatches.attemptCount]
    exact hP hlive
  settled w m c c' o os as a hrole hP hlive hmatches hsettles _ _ _ hlive' := by
    obtain ⟨hcount, hlt⟩ := hP hlive
    cases hsettles with
    | delivered => cases hlive'
    | @failed _ _ decision hdecide =>
      cases decision with
      | giveUp => cases hlive'
      | retry next delay =>
        have hbudget := (Retry.Policy.of_decide_retry hdecide).1
        rw [hmatches.priorAttempts hcount] at hbudget
        have hlimit := hroles w hrole
        show c.attemptCount.next.value = _ ∧ _
        rw [Count.value_next, ← hmatches.attemptCount, hcount, List.length_append,
          List.length_singleton]
        omega
  rejected m m' os as now reason _ _ _ hset hlive' := by
    obtain rfl := Message.eq_of_setStatus hset
    cases hlive'

end WebhookDelivery
