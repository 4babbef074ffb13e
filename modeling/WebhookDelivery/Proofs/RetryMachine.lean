import WebhookDelivery.Proofs.LongNames
import WebhookDelivery.Proofs.Submission
import WebhookDelivery.Proofs.Tally
import WebhookDelivery.Proofs.Waits

/-!
# The retry machine

What a message comes to depends on its attempts alone: a success ends it, a failure is followed by
another attempt after a wait, until the budget is spent and one more failure ends it, too. This is
the retry machine of a policy without jitter. The pipeline has a store, a queue, a sweep and a way
around a queue that rejects, and still a message is, after every round, where the machine is.

There is one exception. A submission (`submit`) reads the URL that it is given and stores the text of
what it has read; a worker (`deliver`) reads the stored text again. Where that fails, the message is
given up without a request, and the machine has no such state.

* `Retry.Policy.Machine` — where the machine is after some attempts.
* `Retry.Policy.keeps_tracks` — what each kind of write does to a message, the machine does too.
* `Sequence.retry_machine` — after every sequence of rounds.
* `Sequence.not_always_machine` — an accepted message that is not where the machine is.
-/

namespace WebhookDelivery

-- ---------------------------------------------------------------------------
-- The machine
-- ---------------------------------------------------------------------------

/-- Where a message is after some attempts, by what the requests came to. -/
structure Retry.Policy.Machine (p : Policy) (m : Message) (reports : List Report)
    (attempts : List Attempt) : Prop where
  /-- There is one more attempt than the budget counts, at most. -/
  budget : reports.length ≤ p.maxAttempts.toNat + 1
  /-- Only the last request was accepted. -/
  last : ∀ i report, reports[i]? = some report → report.outcome.isSuccess = true →
    i + 1 = reports.length
  /-- Attempts are recorded as they were made. -/
  recorded : Numbered reports attempts
  delivered : ∀ report, reports.getLast? = some report → report.outcome.isSuccess = true →
    m.status = .success ∧ m.attemptCount.value = reports.length
  givenUp : (∀ report ∈ reports, report.outcome.isSuccess = false) →
    reports.length = p.maxAttempts.toNat + 1 →
    m.status = .failed ∧ m.attemptCount.value = p.maxAttempts.toNat
  underWay : (∀ report ∈ reports, report.outcome.isSuccess = false) →
    reports.length ≤ p.maxAttempts.toNat →
    (m.status = .pending ∨ m.status = .retry) ∧ m.attemptCount.value = reports.length
  /-- After an attempt the message waits as long as the policy says. -/
  due : m.status = .retry → ∀ attempt, attempts.getLast? = some attempt → ∀ draw, ∃ delay due,
    p.delay draw (reports.length - 1) = .ok delay ∧ attempt.attemptedAt.add? delay = some due
      ∧ m.nextRetryAt = some due

/-- Whether the wait after a failed attempt leads to an instant, if the budget allows for it. -/
def Retry.Policy.InRange (p : Policy) (a : Attempt) : Prop :=
  a.number.value ≤ p.maxAttempts.toNat → a.succeeded = false → ∀ draw delay,
    p.delay draw (a.number.value - 1).toNat = .ok delay → ∃ due, a.attemptedAt.add? delay = some due

/-- While a message has not come to its end, all its requests have failed, and the budget is not
spent. -/
theorem Retry.Policy.Machine.failed_of_live {p : Policy} {m : Message} {os : List Report}
    {as : List Attempt} (h : p.Machine m os as) (hlive : m.status.isTerminal = false) :
    (∀ o ∈ os, o.outcome.isSuccess = false) ∧ os.length ≤ p.maxAttempts.toNat := by
  -- an accepted request would be the last, and end the message
  have hfailed : ∀ o ∈ os, o.outcome.isSuccess = false := by
    intro o ho
    rw [← Bool.not_eq_true]
    intro hsuccess
    obtain ⟨i, hi⟩ := List.mem_iff_getElem?.mp ho
    have hlast : os.getLast? = some o := by
      rw [List.getLast?_eq_getElem?, ← h.last i o hi hsuccess]
      exact hi
    rw [(h.delivered o hlast hsuccess).1] at hlive
    cases hlive
  refine ⟨hfailed, ?_⟩
  rcases Nat.lt_or_eq_of_le h.budget with hlt | heq
  · exact Nat.le_of_lt_succ hlt
  · -- a spent budget would end it, too
    rw [(h.givenUp hfailed heq).1] at hlive
    cases hlive

/-- The machine gives no message up before its first request. -/
theorem Retry.Policy.Machine.not_failed_unsent {p : Policy} {m : Message} {as : List Attempt}
    (h : p.Machine m [] as) : m.status ≠ .failed := by
  intro hfailed
  have hstatus := (h.underWay (fun _ hmem => absurd hmem List.not_mem_nil) (Nat.zero_le _)).1
  rw [hfailed] at hstatus
  rcases hstatus with ⟨⟨⟩⟩ | ⟨⟨⟩⟩

-- ---------------------------------------------------------------------------
-- Failed attempts
-- ---------------------------------------------------------------------------

/-- The column for the status code tells of success just as the code itself. -/
theorem Outcome.isSuccessCode_eq (code : UInt16) :
    (200 ≤ Int32.ofNat code.toNat && Int32.ofNat code.toNat < 300 : Bool) = isSuccessCode code := by
  have hlt := code.toNat_lt
  -- a status code fits into the column, so that both sides compare the same number
  have hvalue : (Int32.ofNat code.toNat).toInt = code.toNat := by
    rw [Int32.toInt_ofNat']
    refine Int.bmod_eq_of_le ?_ ?_ <;> simp only [Int32.size] <;> omega
  have h200 : (200 : Int32).toInt = 200 := rfl
  have h300 : (300 : Int32).toInt = 300 := rfl
  have h200' : (200 : UInt16).toNat = 200 := rfl
  have h300' : (300 : UInt16).toNat = 300 := rfl
  rw [isSuccessCode]
  congr 1 <;> rw [decide_eq_decide]
  · rw [Int32.le_iff_toInt_le, hvalue, UInt16.le_iff_toNat_le, h200, h200']
    omega
  · rw [Int32.lt_iff_toInt_lt, hvalue, UInt16.lt_iff_toNat_lt, h300, h300']
    omega

/-- An attempt that is recorded with the status code of a request tells of success as it does. -/
theorem Report.Genuine.succeeded_eq {a : Attempt} {o : Report} (hgenuine : o.Genuine)
    (hcode : a.statusCode = o.outcome.result.statusCode) : a.succeeded = o.outcome.isSuccess := by
  rw [Attempt.succeeded, hcode, hgenuine.code]
  cases o.outcome with
  | success code body | httpError code body => exact Outcome.isSuccessCode_eq code
  | transportError => rfl

/-- The record of a failed request is that of a failure. -/
theorem Attempt.Carries.succeeded {a : Attempt} {n : Nat} {o : Report} (h : a.Carries n o)
    (hgenuine : o.Genuine) (hfailed : o.outcome.isSuccess = false) : a.succeeded = false :=
  (hgenuine.succeeded_eq h.statusCode).trans hfailed

-- ---------------------------------------------------------------------------
-- What writes do
-- ---------------------------------------------------------------------------

/-- Whether the stored URL of a message can be read again. -/
def Message.Readable (m : Message) : Prop :=
  ∃ url, Url.parse m.url = .ok url

/-- What holds of a message that is up to date: it counts its attempts, its method can be read, and
if its URL can, the message is where the machine is. -/
structure Retry.Policy.Tracks (p : Policy) (m : Message) (reports : List Report)
    (attempts : List Attempt) : Prop where
  counted : m.Counted reports attempts
  method : ∃ method, Method.parse m.method = .ok method
  machine : m.Readable → p.Machine m reports attempts

/-- The roles at work on a machine: workers of its policy, sweeps and submissions. -/
def Retry.Policy.Employs (p : Policy) : Role → Prop
  | .worker w => w.policy = p
  | .sweeper _ | .submission _ => True
  | .recovery _ => False

namespace Retry.Policy.Machine

variable {p : Policy} {m m' : Message} {os : List Report} {as : List Attempt} {o : Report}
  {a : Attempt}

/-- Before the first request the machine is where a message starts, pending or set aside. -/
theorem initial (hstatus : m.status = .pending ∨ m.status = .retry)
    (hcount : m.attemptCount = .zero) : p.Machine m [] [] where
  budget := Nat.zero_le _
  last _ _ h := by cases h
  recorded := ⟨rfl, (by rintro _ _ _ ⟨⟩)⟩
  delivered _ h := by cases h
  givenUp _ h := by cases h
  underWay _ _ := ⟨hstatus, by rw [hcount]; rfl⟩
  due _ _ h := by cases h

/-- A sweep does not move the machine: what it has counted stays. -/
theorem requeued (h : p.Machine m os as) (hretry : m.status = .retry) (now : Instant) :
    p.Machine (m.requeued now) os as := by
  obtain ⟨hfailed, hbudget⟩ := h.failed_of_live (by rw [hretry]; rfl)
  refine ⟨h.budget, h.last, h.recorded, fun o ho hsuccess => ?_, fun _ hspent => ?_,
    fun _ _ => ⟨.inl rfl, (h.underWay hfailed hbudget).2⟩, (by rintro ⟨⟩)⟩
  · rw [hfailed o (List.mem_of_getLast? ho)] at hsuccess
    cases hsuccess
  · omega

/-- What is found in a list with one more element is in the list, or that element. -/
theorem eq_of_getElem?_append_singleton {α : Type} {l : List α} {x y : α} {i : Nat}
    (h : (l ++ [x])[i]? = some y) : y ∈ l ∨ i = l.length ∧ y = x := by
  rcases Nat.lt_or_ge i l.length with hlt | hge
  · rw [List.getElem?_append_left hlt] at h
    exact .inl (List.mem_of_getElem? h)
  · rw [List.getElem?_append_right hge, List.getElem?_singleton] at h
    split at h
    · exact .inr ⟨by omega, (Option.some.inj h).symm⟩
    · cases h

section Attempt

variable (h : p.Machine m os as) (hlive : m.status.isTerminal = false)
  (hcarries : a.Carries (os.length + 1) o)

include h hlive hcarries

/-- Whatever an attempt comes to, it is within the budget, and the last. -/
theorem attempted (hsuccess : o.outcome.isSuccess = true →
      m'.status = .success ∧ m'.attemptCount.value = os.length + 1)
    (hspent : o.outcome.isSuccess = false → os.length = p.maxAttempts.toNat →
      m'.status = .failed ∧ m'.attemptCount.value = p.maxAttempts.toNat)
    (hretry : o.outcome.isSuccess = false → os.length < p.maxAttempts.toNat →
      m'.status = .retry ∧ m'.attemptCount.value = os.length + 1)
    (hdue : m'.status = .retry → ∀ draw, ∃ delay due, p.delay draw os.length = .ok delay
      ∧ a.attemptedAt.add? delay = some due ∧ m'.nextRetryAt = some due) :
    p.Machine m' (os ++ [o]) (as ++ [a]) := by
  obtain ⟨hfailed, hbudget⟩ := h.failed_of_live hlive
  have hlength : (os ++ [o]).length = os.length + 1 := by simp
  refine ⟨by omega, fun i o' ho' hsucceeded => ?_, h.recorded.append hcarries,
    fun o' ho' hsucceeded => ?_, fun hall hfull => ?_, fun hall hroom => ?_,
    fun hstatus a' ha' draw => ?_⟩
  · -- the requests before this one have all failed
    rcases eq_of_getElem?_append_singleton ho' with hmem | ⟨rfl, -⟩
    · rw [hfailed o' hmem] at hsucceeded
      cases hsucceeded
    · exact hlength.symm
  · rw [List.getLast?_concat] at ho'
    obtain rfl := Option.some.inj ho'
    rw [hlength]
    exact hsuccess hsucceeded
  · -- the failure that spends the budget
    exact hspent (hall o (by simp)) (by omega)
  · -- a failure within the budget
    obtain ⟨hstatus, hcount⟩ := hretry (hall o (by simp)) (by omega)
    rw [hlength]
    exact ⟨.inr hstatus, hcount⟩
  · rw [List.getLast?_concat] at ha'
    obtain rfl := Option.some.inj ha'
    rw [hlength]
    exact hdue hstatus draw

end Attempt

end Retry.Policy.Machine

/-- What an attempt makes of a message, the machine does, too. -/
theorem Retry.Policy.Machine.settled {p : Policy} {w : Worker} {m c c' : Message} {os : List Report}
    {as : List Attempt} {o : Report} {a : Attempt} (h : p.Machine m os as)
    (hjitter : p.jitter ≤ 0) (hmax : p.maxAttempts.toNat < 2147483647) (hpolicy : w.policy = p)
    (hlive : m.status.isTerminal = false) (hmatches : m.Matches c)
    (hsettles : w.Settles c a.attemptedAt o.outcome c') (hgenuine : o.Genuine)
    (hcarries : a.Carries (os.length + 1) o) (hrange : p.InRange a) :
    p.Machine (m.progressed c') (os ++ [o]) (as ++ [a]) := by
  obtain ⟨hfailed, hbudget⟩ := h.failed_of_live hlive
  have hcount := (h.underWay hfailed hbudget).2
  have hprior := hmatches.priorAttempts hcount
  have hnext : c.attemptCount.next.value = os.length + 1 := by
    rw [Count.value_next, ← hmatches.attemptCount, hcount]
    omega
  cases hsettles with
  -- an accepted request ends the message
  | delivered hsuccess =>
    refine h.attempted hlive hcarries (fun _ => ⟨rfl, hnext⟩) (fun hfailure => ?_)
      (fun hfailure => ?_) (by rintro ⟨⟩)
    all_goals cases hsuccess.symm.trans hfailure
  | @failed hfailure draw decision hdecide =>
    have hnosuccess : o.outcome.isSuccess = true → False :=
      fun hsuccess => by cases hsuccess.symm.trans hfailure
    rw [hpolicy, hprior] at hdecide
    rcases Nat.lt_or_ge os.length p.maxAttempts.toNat with hroom | hspent
    · -- The wait leads to an instant, so that the decision is a retry.
      obtain ⟨due, hdue⟩ := hrange (by rw [hcarries.number]; omega)
        (hcarries.succeeded hgenuine hfailure) draw _ (delay_of_jitter_le hjitter draw _)
      have hindex : (a.number.value - 1).toNat = os.length := by
        rw [hcarries.number]
        omega
      rw [hindex] at hdue
      rw [decide_of_inRange hjitter hroom hdue] at hdecide
      obtain rfl := Except.ok.inj hdecide
      refine h.attempted hlive hcarries (fun hsuccess => (hnosuccess hsuccess).elim)
        (fun _ hfull => by omega) (fun _ _ => ⟨rfl, hnext⟩) fun _ draw' => ?_
      exact ⟨_, due, delay_of_jitter_le hjitter draw' _, hdue, rfl⟩
    · -- the budget is spent, so that the decision is to give up
      rw [decide_of_spent hspent] at hdecide
      obtain rfl := Except.ok.inj hdecide
      refine h.attempted hlive hcarries (fun hsuccess => (hnosuccess hsuccess).elim)
        (fun _ hfull => ⟨rfl, ?_⟩) (fun _ hroom => by omega) (by rintro ⟨⟩)
      show c.attemptCount.value = _
      rw [← hmatches.attemptCount, hcount, hfull]

/-- What is stored of a draft can be read again, as far as the method is concerned. -/
theorem Draft.method_of_normalize {d draft : Draft} (h : d.normalize = .ok draft) :
    ∃ method, Method.parse draft.method = .ok method := by
  obtain ⟨method, _, -, -, -, rfl⟩ := normalize_eq_ok.mp h
  exact ⟨method, method.parse_text⟩

/-- Every kind of write keeps a message where the machine is. -/
theorem Retry.Policy.keeps_tracks {p : Policy} (hjitter : p.jitter ≤ 0)
    (hmax : p.maxAttempts.toNat < 2147483647) : Keeps p.Employs p.InRange p.Tracks := by
  -- counting has been shown for itself, the machine is what is added
  have hcounts : Keeps p.Employs p.InRange Message.Counted :=
    keeps_counted fun w hpolicy => by rw [show w.policy = p from hpolicy]; exact hmax
  refine ⟨fun m os as hP hlive => hP.counted hlive, fun d draft id now hdraft => ?_,
    fun m os as now hP hretry => ?_, fun m c now hP hlive hmatches => ?_,
    fun w m c c' o os as a hrole hP hlive hmatches hsettles hgenuine hcarries hrange => ?_,
    fun m m' os as now reason hP hlive hreason hset => ?_⟩
  · exact ⟨hcounts.created d draft id now hdraft, Draft.method_of_normalize hdraft,
      fun _ => .initial (.inl rfl) rfl⟩
  · exact ⟨hcounts.requeued m os as now hP.counted hretry, hP.method,
      fun hurl => (hP.machine hurl).requeued hretry now⟩
  · refine ⟨hcounts.deferred m c now hP.counted hlive hmatches, hP.method,
      fun hurl => .initial (.inr rfl) ?_⟩
    have hcount := (hP.counted hlive).1
    exact Count.ext' ((congrArg Count.value hmatches.attemptCount).symm.trans hcount)
  · exact ⟨hcounts.settled w m c c' o os as a hrole hP.counted hlive hmatches hsettles hgenuine
      hcarries hrange, hP.method, fun hurl => (hP.machine hurl).settled hjitter hmax hrole hlive
        hmatches hsettles hgenuine hcarries hrange⟩
  · have hsame : m'.method = m.method ∧ m'.url = m.url := by
      rw [Message.eq_of_setStatus hset]
      exact ⟨rfl, rfl⟩
    refine ⟨hcounts.rejected m m' os as now reason hP.counted hlive hreason hset, ?_, ?_⟩
    · rw [hsame.1]
      exact hP.method
    · -- a message that is rejected has a URL that cannot be read
      rintro ⟨url, hurl⟩
      obtain ⟨method, hmethod⟩ := hP.method
      rw [hsame.2] at hurl
      rw [DeliveryRequest.ofMessage, hmethod, hurl] at hreason
      cases hreason

-- ---------------------------------------------------------------------------
-- Calm worlds
-- ---------------------------------------------------------------------------

namespace World

/-- Nothing is made to fail but pushes and the query for due retries, and the clock shows an
instant. -/
structure Calm (w : World) : Prop where
  updates : w.store.failMessageUpdates = false
  records : w.store.failAttemptWrites = false
  unplanned : w.planned = []
  popPlan : w.popPlan = none
  readable : ∃ now, w.clock.utc? = some now

/-- In a calm world writes of the store are carried out. -/
theorem Calm.writable {w : World} (h : w.Calm) : w.Writable where
  updates := h.updates
  records := h.records
  unplanned p hp := by
    rw [h.unplanned] at hp
    exact absurd hp List.not_mem_nil

/-- The outside may move the clock, let pushes fail or succeed, and change anything else that is not
on record, as long as it is calm. -/
def Passes (w w' : World) : Prop :=
  w.SameRecord w' ∧ w'.Calm

end World

/-- Whether a round goes as planned: no failure of the store or the queue has got in its way. -/
def Stage.goesWell : Stage → Bool
  | .troubled _ _ | .pausing => false
  | _ => true

/-- A round that goes as planned makes no pause. -/
theorem Stage.Next.ne_sleep {role : Role} {σ σ' : Stage} {c : Call} {answer : c.Answer}
    (h : Next role σ c answer σ') (hwell : σ.goesWell = true) (d : Duration) : c ≠ .sleep d := by
  rintro rfl
  cases h with
  | pause => cases hwell

section Move

attribute [local irreducible] MessageId.text

variable {P : Message → List Report → List Attempt → Prop} {role : Role} {σ σ' : Stage}
  {w w' : World} {c : Call} {answer : c.Answer} {h : List Moment}

/-- In a calm world a round that goes as planned goes on like that. -/
theorem Stage.Move.goesWell (hmove : Stage.Move role σ w c answer σ' w') (hcalm : w.Calm)
    (htally : ∀ id, Tally P w.ledger [σ] h id) (hwell : σ.goesWell = true) :
    σ'.goesWell = true := by
  obtain ⟨hnext, hperform⟩ := hmove
  have hcopies : ∀ c, σ.copy? = some c → ∃ m, w.ledger.get? c.id = some m := by
    intro c hc
    obtain ⟨m, hm, -⟩ := (htally c.id).copies σ (List.mem_singleton.mpr rfl) c hc rfl
    exact ⟨m, hm⟩
  cases hnext with
  | note | secret | signingTime | draw => exact hwell
  -- no failure of the queue or the store is planned in a calm world
  | popFailed e =>
    simp only [World.perform, hcalm.popPlan] at hperform
    cases hperform
  -- a copy in hand is stored, so that it is found
  | @loadFailed _ entry id e hfound =>
    simp only [World.perform, World.storeCall, hcalm.unplanned, World.takePlanned, Store.find]
      at hperform
    cases hget : w.store.get? id with
    | some m =>
      rw [hget] at hperform
      cases hperform
    | none =>
      rw [hget] at hperform
      obtain rfl := Except.error.inj (Option.some.inj (Prod.mk.inj hperform).1)
      cases hfound
  | @writeFailed _ entry m m' report now hsettles e =>
    obtain ⟨stored, hstored⟩ := hcopies m rfl
    have hok := hcalm.writable.update hsettles.isConsistent (hsettles.id_eq ▸ hstored)
    rw [hperform] at hok
    cases hok
  | @rejectFailed _ entry m reason hreason e =>
    obtain ⟨stored, hstored⟩ := hcopies m rfl
    obtain ⟨m', hok⟩ := hcalm.writable.setStatus (show Status.failed ≠ .retry by decide) hstored
    rw [hperform] at hok
    cases hok
  | pushBack | pause => cases hwell
  | _ => rfl

/-- A call of a round that goes as planned leaves the world calm. Only a pause could move the clock.
-/
theorem Stage.Move.calm (hmove : Stage.Move role σ w c answer σ' w') (hcalm : w.Calm)
    (hwell : σ.goesWell = true) : w'.Calm := by
  have hkept := hmove.kept
  have hclock := w.clock_perform (hmove.next.ne_sleep hwell)
  rw [hmove.performed] at hclock
  refine ⟨hkept.updates.trans hcalm.updates, hkept.records.trans hcalm.records, ?_,
    hkept.popPlan hcalm.popPlan, ?_⟩
  · -- no failure is planned in the course of a round
    have hsubset := hkept.planned
    rw [hcalm.unplanned] at hsubset
    exact List.subset_nil.mp hsubset
  · obtain ⟨now, hnow⟩ := hcalm.readable
    exact ⟨now, hclock ▸ hnow⟩

/-- In a calm world every call of a round that goes as planned is answered. -/
theorem Stage.Next.answered (hnext : Next role σ c answer σ') (hcalm : w.Calm)
    (hwell : σ.goesWell = true) : w.perform c ≠ (none, w') := by
  intro hperform
  rcases World.cases_of_unanswered hperform with rfl | ⟨d, rfl⟩
  · obtain ⟨now, hnow⟩ := hcalm.readable
    rw [World.perform, hnow] at hperform
    cases hperform
  · exact hnext.ne_sleep hwell d rfl

/-- The accounts of a message where only one round is under way. -/
theorem Tally.accounted_single {k : Ledger} {id : MessageId} {m : Message}
    (htally : Tally P k [σ] h id) (hget : k.get? id = some m) :
    Accounts P m (reports id h) (k.attemptsOf id) (σ.uncounted id) (σ.traces id) := by
  simpa using htally.accounted m hget

/-- A worker does not break down over an attempt whose wait leads to an instant. -/
theorem Tally.not_stuck {p : Retry.Policy} {k : Ledger} (hjitter : p.jitter ≤ 0)
    (hrole : p.Employs role) (htally : ∀ id, Tally p.Tracks k [σ] h id)
    (hfair : ∀ id, Fair k [σ] id) (hrange : ∀ a ∈ k.attempts, p.InRange a) :
    ¬ σ.Stuck role := by
  rintro ⟨w, entry, m, report, now, draw, fault, rfl, rfl, hfailure, hdecide⟩
  have hmem : Stage.recorded entry m report now ∈ [Stage.recorded entry m report now] :=
    List.mem_singleton.mpr rfl
  -- the copy in hand is up to date
  obtain ⟨stored, hstored, hmatches⟩ := (htally m.id).copies _ hmem m rfl rfl
  obtain ⟨n, hn, hlive⟩ := @Fair.live_of_hand k [] [] _ m.id (hfair m.id) rfl
  obtain rfl := Option.some.inj (hstored.symm.trans hn)
  obtain ⟨os, as, us, -, hlength, hattempts, -, hP⟩ := (htally m.id).accounted_single hstored
  have hcount := (hP.counted hlive).1
  rw [Stage.traces, if_pos rfl] at hlength hattempts
  obtain ⟨u, rfl⟩ := List.length_eq_one_iff.mp hlength
  -- the attempt on record is the one the wait is reckoned from
  have hcarries : ((m.attempt report now).record u).Carries (os.length + 1) report := by
    refine ⟨?_, rfl, rfl, rfl, rfl⟩
    show m.attemptCount.next.value = _
    have hlt := (hP.counted hlive).2
    rw [Count.value_next, ← hmatches.attemptCount, hcount]
    omega
  have hrecorded : (m.attempt report now).record u ∈ k.attempts := by
    have hlast : (m.attempt report now).record u ∈ k.attemptsOf m.id := by
      rw [hattempts]
      exact List.mem_append_right _ (List.mem_singleton.mpr rfl)
    exact (List.mem_filter.mp hlast).1
  rw [show w.policy = p from hrole, hmatches.priorAttempts hcount] at hdecide
  rcases Nat.lt_or_ge os.length p.maxAttempts.toNat with hroom | hspent
  · -- within the budget there is an instant to wait for
    have hindex : (((m.attempt report now).record u).number.value - 1).toNat = os.length := by
      rw [hcarries.number]
      omega
    obtain ⟨due, hdue⟩ := hrange _ hrecorded (by rw [hcarries.number]; omega)
      (hcarries.succeeded ((htally m.id).genuine _ hmem report rfl) hfailure) draw _
      (Retry.Policy.delay_of_jitter_le hjitter draw _)
    have hdue : now.add? (p.plainDelay os.length) = some due := hindex ▸ hdue
    rw [Retry.Policy.decide_of_inRange hjitter hroom hdue] at hdecide
    cases hdecide
  · -- beyond it nothing has to be reckoned
    rw [Retry.Policy.decide_of_spent hspent] at hdecide
    cases hdecide

end Move

-- ---------------------------------------------------------------------------
-- URLs
-- ---------------------------------------------------------------------------

/-- A request (`from_message`) is made of a URL that can be read. -/
theorem DeliveryRequest.readable_of_ofMessage {m : Message} {r : DeliveryRequest}
    (h : ofMessage m = .ok r) : m.Readable := by
  obtain ⟨_, url, -, hurl, -⟩ := ofMessage_eq_ok.mp h
  exact ⟨url, hurl⟩

section Url

attribute [local irreducible] MessageId.text

variable {ids : Nat → MessageId} {k k' : Ledger} {role : Role} {σ σ' : Stage} {c : Call}
  {answer : c.Answer} {id : MessageId} {m : Message}

/-- A message that is put in the place of another with its URL leaves every stored URL as it is. -/
theorem Ledger.exists_url_put {n n' : Message} (hget : k.get? id = some m)
    (hn : k.get? n.id = some n') (hurl : n.url = n'.url) :
    ∃ m', (k.put n).get? id = some m' ∧ m'.url = m.url := by
  rw [Ledger.get?_put]
  by_cases hid : n.id = id
  · rw [hid] at hn
    obtain rfl := Option.some.inj (hget.symm.trans hn)
    exact ⟨n, if_pos hid, hurl⟩
  · exact ⟨m, (if_neg hid).trans hget, rfl⟩

/-- A change of status leaves the URL as it is. -/
theorem Message.url_of_setStatus {m m' : Message} {status : Status} {now : Instant}
    (h : m.setStatus status now = .ok m') : m'.url = m.url := by
  rw [eq_of_setStatus h]

/-- A stored message stays, and its URL, too. -/
theorem Effect.exists_url (heffect : Effect ids k c answer k')
    (hnew : k.created < k'.created → k.get? (ids k.created) = none) (hget : k.get? id = some m) :
    ∃ m', k'.get? id = some m' ∧ m'.url = m.url := by
  cases heffect with
  -- a new message has an identifier of its own
  | create d now =>
    exact ⟨m, Ledger.get?_put_of_missing (hnew (Nat.lt_succ_self _)) hget, rfl⟩
  | setStatus hstored hset =>
    refine Ledger.exists_url_put hget ?_ (Message.url_of_setStatus hset)
    rw [Message.id_of_setStatus hset, Ledger.id_of_get? hstored]
    exact hstored
  | @update stored n hstored =>
    rw [← Ledger.id_of_get? hstored] at hstored
    exact Ledger.exists_url_put (n := stored.progressed n) hget hstored rfl
  | @requeue _ _ n now hstored =>
    rw [← Ledger.id_of_get? hstored] at hstored
    exact Ledger.exists_url_put (n := n.requeued now) hget hstored rfl
  -- all other calls write no message
  | quiet | find | due | pending | keep | record | push | pop | contains => exact ⟨m, hget, rfl⟩

/-- A message that is given up is stored as it is answered, and nothing else is. -/
theorem Effect.failed_of_setStatus
    (heffect : Effect ids k (.updateMessageStatus id .failed) (.ok m) k') :
    k'.get? id = some m ∧ m.status = .failed ∧ k' = k.put m := by
  cases heffect with
  | quiet hquiet => obtain ⟨_, ⟨⟩⟩ := hquiet
  | setStatus hget hset =>
    rw [← (Message.id_of_setStatus hset).trans (Ledger.id_of_get? hget)]
    obtain rfl := Message.eq_of_setStatus hset
    exact ⟨Ledger.get?_put_self _ _, rfl, rfl⟩

/-- A message that has been created is stored. -/
theorem Effect.get?_of_create {d : Draft} (heffect : Effect ids k (.createMessage d) (.ok m) k') :
    k'.get? m.id = some m := by
  cases heffect with
  | quiet hquiet => obtain ⟨_, ⟨⟩⟩ := hquiet
  | create => exact Ledger.get?_put_self _ _

/-- No call takes an attempt off the record. -/
theorem Effect.attempts_subset (heffect : Effect ids k c answer k') : k.attempts ⊆ k'.attempts := by
  cases heffect with
  | record => exact List.subset_append_left _ _
  | create | setStatus | update | requeue | quiet | find | due | pending | keep | push | pop
  | contains => exact List.Subset.refl _

/-- Only what can be read is sent. -/
theorem Stage.Next.readable_of_send {client : Client} {r : DeliveryRequest} {report : Report}
    (h : Next role σ (.send client r) report σ') :
    ∃ c, σ.copy? = some c ∧ c.id = r.messageId ∧ c.Readable := by
  cases h with
  | send hr =>
    exact ⟨_, rfl, (DeliveryRequest.messageId_of_ofMessage hr).symm,
      DeliveryRequest.readable_of_ofMessage hr⟩

end Url

/-- A call that tells of a request for a message is the sending of it. -/
theorem Moment.report?_eq_some {x : Moment} {id : MessageId} {report : Report}
    (h : x.report? id = some report) :
    ∃ w client r, x = ⟨w, .send client r, report⟩ ∧ r.messageId = id := by
  obtain ⟨w, c, answer⟩ := x
  cases c with
  | send client r =>
    rw [report?_send, Option.ite_none_right_eq_some] at h
    obtain ⟨hid, heq⟩ := h
    obtain rfl := Option.some.inj heq
    exact ⟨w, client, r, rfl, hid⟩
  | _ => cases h

-- ---------------------------------------------------------------------------
-- Whole sequences
-- ---------------------------------------------------------------------------

/-- A submission has stored a message in the course of a history. -/
def Message.Accepted (m : Message) (h : List Moment) : Prop :=
  ∃ w d, (⟨w, .createMessage d, .ok m⟩ : Moment) ∈ h

/-- The head of the queue names a message that has not come to its end and cannot be read. -/
def World.HeadUnreadable (w : World) (m : Message) : Prop :=
  ∃ entry rest, w.queue.entries = entry :: rest ∧ MessageId.ofText? entry = some m.id
    ∧ w.ledger.get? m.id = some m ∧ m.status.isTerminal = false ∧ ¬ m.Readable

/-- What holds of a sequence on the way, while all waits lead to instants. -/
structure Retry.Policy.Governs (p : Policy) (ids : Nat → MessageId) (bound : Nat) (σ : Stage)
    (w : World) (h : List Moment) : Prop where
  calm : w.Calm
  goesWell : σ.goesWell = true
  owned : Owned ids bound (fun _ => False) w.ledger [σ]
  tally : ∀ id, Tally p.Tracks w.ledger [σ] h id
  stored : ∀ m₀ : Message, m₀.Accepted h → ∃ m, w.ledger.get? m₀.id = some m ∧ m.url = m₀.url
  sent : ∀ id, reports id h ≠ [] → ∃ m, w.ledger.get? id = some m ∧ m.Readable

namespace Retry.Policy.Governs

variable {p : Policy} {ids : Nat → MessageId} {bound : Nat} {role : Role} {σ σ' : Stage}
  {w w' : World} {c : Call} {answer : c.Answer} {h : List Moment}

/-- A message has one handle at most, and with a handle it has not come to its end. -/
theorem fair (hgoverns : p.Governs ids bound σ w h) (id : MessageId) : Fair w.ledger [σ] id :=
  hgoverns.owned.fair id fun hfalse => hfalse

/-- Before the first round nothing is stored, and nothing has been sent. -/
theorem start (hempty : w.Empty) (hcalm : w.Calm) : p.Governs ids bound .idle w [] where
  calm := hcalm
  goesWell := rfl
  owned := .start hempty.messages hempty.entries
  tally _ := .start hempty.messages hempty.attempts
  stored _ haccepted := by
    obtain ⟨_, _, hmem⟩ := haccepted
    exact absurd hmem List.not_mem_nil
  sent _ hreports := absurd rfl hreports

/-- What the outside may change in a calm world is not on record, and so changes nothing here. -/
theorem outside (hgoverns : p.Governs ids bound σ w h) (hpasses : w.Passes w') :
    p.Governs ids bound σ w' h := by
  obtain ⟨⟨hledger, -⟩, hcalm⟩ := hpasses
  exact ⟨hcalm, hgoverns.goesWell, hledger ▸ hgoverns.owned, hledger ▸ hgoverns.tally,
    hledger ▸ hgoverns.stored, hledger ▸ hgoverns.sent⟩

/-- A round that is over has nothing in its hands, so that the next may begin. -/
theorem rest (hgoverns : p.Governs ids bound σ w h) (hrest : σ.AtRest) :
    p.Governs ids bound .idle w h :=
  ⟨hgoverns.calm, rfl, hgoverns.owned.drop_alone hrest.pushed,
    fun id => (hgoverns.tally id).drop_alone hrest.report, hgoverns.stored, hgoverns.sent⟩

/-- One call of a round keeps everything that holds on the way. This is the step of the induction
over a sequence: the store and the queue change as `Effect` says, the message in hand as
`keeps_tracks` says, and what has been accepted stays stored under its URL. -/
theorem move (hgoverns : p.Governs ids bound σ w h) (hjitter : p.jitter ≤ 0)
    (hmax : p.maxAttempts.toNat < 2147483647) (hrole : p.Employs role)
    (hmove : Stage.Move role σ w c answer σ' w') (hids : w.supply.messageIds = ids)
    (hdistinct : ∀ a b, a < bound → b < bound → ids a = ids b → a = b)
    (hbound : w'.created ≤ bound) (hrange : ∀ a ∈ w'.ledger.attempts, p.InRange a) :
    p.Governs ids bound σ' w' (⟨w, c, answer⟩ :: h) := by
  have hnext := hmove.next
  have heffect := hmove.effect
  rw [hids] at heffect
  have hcarried := hgoverns.calm.writable.carried hmove.performed
  have hnew : w.created < w'.created → w.ledger.get? (ids w.created) = none := fun hlt =>
    hgoverns.owned.unissued _ (Nat.le_refl _) (Nat.lt_of_lt_of_le hlt hbound)
  -- one goal for each field that a call can change
  refine ⟨hmove.calm hgoverns.calm hgoverns.goesWell,
    hmove.goesWell hgoverns.calm hgoverns.tally hgoverns.goesWell, ?_, fun id => ?_,
    fun m₀ haccepted => ?_, fun id hreports => ?_⟩
  · refine hgoverns.owned.step_alone hdistinct hbound hnext heffect fun id hspoiled => ?_
    exact hspoiled.elim (fun hfalse => hfalse)
      (hgoverns.calm.writable.not_spoils hmove.performed id)
  · exact (hgoverns.tally id).step_alone (keeps_tracks hjitter hmax) hrole hnext heffect hcarried
      hnew (hgoverns.fair id) hrange
  · obtain ⟨w₀, d, hmem⟩ := haccepted
    rcases List.mem_cons.mp hmem with heq | hmem
    · cases heq
      exact ⟨m₀, heffect.get?_of_create, rfl⟩
    · obtain ⟨m, hm, hurl⟩ := hgoverns.stored m₀ ⟨w₀, d, hmem⟩
      obtain ⟨m', hm', hurl'⟩ := heffect.exists_url hnew hm
      exact ⟨m', hm', hurl'.trans hurl⟩
  · obtain ⟨m, hm, url, hurl⟩ : ∃ m, w.ledger.get? id = some m ∧ m.Readable := by
      cases hreport : Moment.report? id ⟨w, c, answer⟩ with
      | none =>
        rw [reports_cons_of_none hreport] at hreports
        exact hgoverns.sent id hreports
      | some report =>
        obtain ⟨_, client, r, heq, hid⟩ := Moment.report?_eq_some hreport
        cases heq
        obtain ⟨m, hcopy, hmid, url, hurl⟩ := hnext.readable_of_send
        obtain ⟨stored, hstored, hmatches⟩ :=
          (hgoverns.tally id).copies σ (List.mem_singleton.mpr rfl) m hcopy (hmid.trans hid)
        exact ⟨stored, hstored, url, hmatches.url ▸ hurl⟩
    obtain ⟨m', hm', hurl'⟩ := heffect.exists_url hnew hm
    exact ⟨m', hm', url, hurl' ▸ hurl⟩

/-- Nothing has been sent for a message that cannot be read. -/
theorem unsent (hgoverns : p.Governs ids bound σ w h) {m : Message} (hhead : w.HeadUnreadable m) :
    reports m.id h = [] := by
  refine Decidable.byContradiction fun hsome => ?_
  obtain ⟨n, hn, hreadable⟩ := hgoverns.sent m.id hsome
  obtain ⟨_, _, _, _, hstored, _, hunreadable⟩ := hhead
  obtain rfl := Option.some.inj (hstored.symm.trans hn)
  exact hunreadable hreadable

end Retry.Policy.Governs

/-- All that holds on the way holds after a sequence of rounds. The induction is on the calls of the
sequence; identifiers must differ up to the last one given out, and waits must lead to instants up
to the last attempt recorded, so the invariant is stated for every later bound. -/
theorem Sequence.governs {p : Retry.Policy} {start w : World} {h : List Moment}
    (hjitter : p.jitter ≤ 0) (hmax : p.maxAttempts.toNat < 2147483647) (hempty : start.Empty)
    (hcalm : start.Calm) (hsequence : Sequence p.Employs World.Passes start w h)
    (hdistinct : start.supply.Distinct w.created) (hrange : ∀ a ∈ w.ledger.attempts, p.InRange a) :
    p.Governs start.supply.messageIds w.created .idle w h := by
  -- bounds are quantified inside, so that a call may give out one more identifier
  let I : Stage → World → List Moment → Prop := fun σ w h =>
    w.supply.messageIds = start.supply.messageIds
      ∧ ∀ bound, w.created ≤ bound → start.supply.Distinct bound →
        (∀ a ∈ w.ledger.attempts, p.InRange a) → p.Governs start.supply.messageIds bound σ w h
  suffices hinvariant : I .idle w h from
    hinvariant.2 w.created (Nat.le_refl _) hdistinct hrange
  refine hsequence.invariant (I := I) ⟨rfl, fun _ _ _ _ => .start hempty hcalm⟩ ?_ ?_ ?_ ?_ ?_
  · intro role σ w h c answer σ' w' hrole hI hmove
    refine ⟨(congrArg Supply.messageIds hmove.kept.supply).trans hI.1,
      fun bound hbound hdistinct hrange => ?_⟩
    have heffect := hmove.effect
    refine (hI.2 bound (Nat.le_trans heffect.created_le hbound) hdistinct fun a ha =>
      hrange a (heffect.attempts_subset ha)).move hjitter hmax hrole hmove hI.1 hdistinct hbound
        hrange
  · intro role σ w h c answer σ' w' _ hI hnext hperform
    have hsame := World.sameRecord_of_unanswered hperform
    refine ⟨hsame.2.trans hI.1, fun bound hbound hdistinct hrange => ?_⟩
    have hcreated : w'.created = w.created := congrArg Ledger.created hsame.1
    have hgoverns := hI.2 bound (hcreated ▸ hbound) hdistinct (hsame.1 ▸ hrange)
    exact absurd hperform (hnext.answered hgoverns.calm hgoverns.goesWell)
  · intro role σ w h hrole hI hstuck
    refine ⟨hI.1, fun bound hbound hdistinct hrange => ?_⟩
    have hgoverns := hI.2 bound hbound hdistinct hrange
    exact absurd hstuck (Tally.not_stuck hjitter hrole hgoverns.tally hgoverns.fair hrange)
  · exact fun σ w h hI hrest =>
      ⟨hI.1, fun bound hbound hdistinct hrange => (hI.2 bound hbound hdistinct hrange).rest hrest⟩
  · intro w w' h hI hpasses
    refine ⟨hpasses.1.2.trans hI.1, fun bound hbound hdistinct hrange => ?_⟩
    have hcreated : w'.created = w.created := congrArg Ledger.created hpasses.1.1
    exact (hI.2 bound (hcreated ▸ hbound) hdistinct (hpasses.1.1 ▸ hrange)).outside hpasses

/-- A worker that takes the entry of a message that cannot be read sends nothing and records nothing,
and the message has failed. -/
theorem Worker.round_unreadable (worker : Worker) {w : World} {m : Message} (hcalm : w.Calm)
    (hhead : w.HeadUnreadable m) :
    (∃ m', (worker.round.run w).2.ledger.get? m.id = some m' ∧ m'.status = .failed)
      ∧ (worker.round.run w).2.ledger.attempts = w.ledger.attempts
      ∧ (worker.round.run w).2.created = w.created
      ∧ ∀ h, reports m.id (worker.round.moments w ++ h) = reports m.id h := by
  obtain ⟨entry, rest, hentries, hid, hstored, hlive, hunreadable⟩ := hhead
  -- the world in which the entry has been taken off the queue
  let w₁ := w.popped rest
  have hpop : w.perform .pop = (some (.ok (some entry)), w₁) :=
    World.perform_pop hcalm.popPlan hentries
  have hfind : w₁.perform (.findMessage m.id) = (some (.ok m), w₁) := by
    refine World.perform_findMessage ?_ hstored
    rw [show w₁.planned = [] from hcalm.unplanned]
    rfl
  have hwritable : w₁.Writable :=
    ⟨hcalm.updates, hcalm.records, hcalm.writable.unplanned⟩
  obtain ⟨m', hanswer⟩ := hwritable.setStatus (show Status.failed ≠ .retry by decide) hstored
  obtain ⟨w₂, hset⟩ : ∃ w₂, w₁.perform (.updateMessageStatus m.id .failed) = (some (.ok m'), w₂) :=
    ⟨_, Prod.ext hanswer rfl⟩
  -- a message that cannot be read makes no request
  obtain ⟨reason, hreason⟩ : ∃ reason, DeliveryRequest.ofMessage m = .error reason := by
    cases hreason : DeliveryRequest.ofMessage m with
    | error reason => exact ⟨reason, rfl⟩
    | ok r => exact absurd (DeliveryRequest.readable_of_ofMessage hreason) hunreadable
  -- five calls are answered, and none of them is a request
  have hround : ∃ w₃ x y, worker.round.run w = (some (), w₃) ∧ w₃.ledger = w₂.ledger
      ∧ Moment.report? m.id x = none ∧ Moment.report? m.id y = none
      ∧ worker.round.moments w = [x, y, ⟨w₁, .updateMessageStatus m.id .failed, .ok m'⟩,
        ⟨w₁, .findMessage m.id, .ok m⟩, ⟨w, .pop, .ok (some entry)⟩] := by
    simp only [round, process, processMessage, deliver, reject, bind, Task.bind, Task.perform,
      Task.run, Task.moments, hpop, hid, hfind, hlive, hreason, hset, Bool.false_eq_true, if_false]
    exact ⟨_, _, _, rfl, rfl, rfl, rfl, rfl⟩
  obtain ⟨w₃, x, y, hrun, hledger, hx, hy, hmoments⟩ := hround
  obtain ⟨hfound, hfailed, hput⟩ := (World.effect_of_perform hset).failed_of_setStatus
  rw [← hledger] at hfound hput
  rw [hrun, hmoments]
  have hattempts : w₃.ledger.attempts = w.ledger.attempts := by
    rw [hput]
    rfl
  have hcreated : w₃.created = w.created := congrArg Ledger.created hput
  refine ⟨⟨m', hfound, hfailed⟩, hattempts, hcreated, fun h => ?_⟩
  simp only [List.cons_append, List.nil_append, reports_cons_of_none hx, reports_cons_of_none hy]
  exact (reports_cons_of_none rfl).trans
    ((reports_cons_of_none rfl).trans (reports_cons_of_none rfl))

/-- Where nothing is ahead, what is to hold of an up-to-date message holds. -/
theorem Accounts.settled {P : Message → List Report → List Attempt → Prop} {m : Message}
    {rs : List Report} {as : List Attempt} (h : Accounts P m rs as [] []) : P m rs as := by
  obtain ⟨os, as', us, rfl, -, rfl, -, hP⟩ := h
  simpa using hP

/-- In every sequence of submissions, sweeps and rounds of workers that starts from nothing, where
pushes may fail but no other call and no wait leads beyond the last instant, a message that was
accepted is where the machine is, if its stored URL can be read again. And if it cannot, the message
leaves the machine as soon as a worker takes its entry. -/
theorem Sequence.retry_machine {p : Retry.Policy} {start w : World} {h : List Moment}
    (hjitter : p.jitter ≤ 0) (hmax : p.maxAttempts.toNat < 2147483647) (hempty : start.Empty)
    (hcalm : start.Calm) (hsequence : Sequence p.Employs World.Passes start w h)
    (hdistinct : start.supply.Distinct w.created) (hrange : ∀ a ∈ w.ledger.attempts, p.InRange a) :
    (∀ m₀ : Message, m₀.Accepted h → ∃ m, w.ledger.get? m₀.id = some m
      ∧ (m₀.Readable → p.Machine m (reports m₀.id h) (w.ledger.attemptsOf m₀.id)))
    ∧ ∀ (worker : Worker) (m : Message), w.HeadUnreadable m →
      ∃ m', (worker.round.run w).2.ledger.get? m.id = some m'
        ∧ ∀ attempts, ¬ p.Machine m' (reports m.id (worker.round.moments w ++ h)) attempts := by
  have hgoverns := hsequence.governs hjitter hmax hempty hcalm hdistinct hrange
  refine ⟨fun m₀ haccepted => ?_, fun worker m hhead => ?_⟩
  · -- nothing is under way between rounds, so that the accounts are settled
    obtain ⟨m, hm, hurl⟩ := hgoverns.stored m₀ haccepted
    refine ⟨m, hm, ?_⟩
    rintro ⟨url, hreadable⟩
    have haccounts := (hgoverns.tally m₀.id).accounted_single hm
    exact haccounts.settled.machine ⟨url, hurl ▸ hreadable⟩
  · -- nothing has been sent, and the message has failed all the same
    obtain ⟨⟨m', hm', hfailed⟩, -, -, hreports⟩ := worker.round_unreadable hgoverns.calm hhead
    refine ⟨m', hm', fun attempts hmachine => ?_⟩
    rw [hreports, hgoverns.unsent hhead] at hmachine
    exact hmachine.not_failed_unsent hfailed

-- A webhook to the machine itself was submitted, and the first attempt on it has failed.

/-- The message that the submission has stored. -/
def Message.toLoopback : Message :=
  .ofDraft (Supply.counting.messageIds 0) .toLoopback .epoch

theorem Message.accepted_toLoopback :
    toLoopback.Accepted ((Role.submission .toLoopback).round.moments .fresh) := by
  refine ⟨.fresh, .toLoopback, ?_⟩
  show _ ∈ (submit .toLoopback >>= _).moments .fresh
  rw [submit, Draft.normalize_toLoopback]
  show _ ∈ Task.moments (.call (.createMessage .toLoopback) _) .fresh
  exact List.mem_append_right _ (List.mem_singleton.mpr rfl)

/-- The wait after the first attempt leads to an instant. -/
theorem World.inRange_parked : ∀ a ∈ parked.ledger.attempts, Worker.plain.policy.InRange a := by
  have hfirst : parked.ledger.attempts.all
      (fun a => decide (a.attemptedAt = .epoch ∧ a.number.value = 1)) = true := by
    decide +kernel
  have hjitter : Worker.plain.policy.jitter ≤ 0 := by decide +kernel
  intro a ha _ _ draw delay hdelay
  obtain ⟨hat, hnumber⟩ := of_decide_eq_true (List.all_eq_true.mp hfirst a ha)
  rw [hnumber, Retry.Policy.delay_of_jitter_le hjitter] at hdelay
  rw [hat, ← Except.ok.inj hdelay]
  refine Option.isSome_iff_exists.mp ?_
  decide +kernel

/-- There the machine waits for the second attempt. -/
theorem Sequence.retry_machine_parked : ∃ (h : List Moment) (m : Message),
    World.parked.ledger.get? Message.toLoopback.id = some m ∧ m.status = .retry
      ∧ (reports Message.toLoopback.id h).length = 1
      ∧ Worker.plain.policy.Machine m (reports Message.toLoopback.id h)
        (World.parked.ledger.attemptsOf Message.toLoopback.id) := by
  have hcalm : World.fresh.Calm :=
    ⟨rfl, rfl, rfl, rfl, .epoch, by decide +kernel⟩
  have hsubmitted := Sequence.round (.submission .toLoopback) trivial
    (.start : Sequence Worker.plain.policy.Employs World.Passes .fresh .fresh [])
  have hparked : Sequence Worker.plain.policy.Employs World.Passes .fresh .parked _ :=
    .round (.worker .plain) rfl hsubmitted
  have hdistinct : Supply.counting.Distinct World.parked.created :=
    Supply.distinct_counting (by decide +kernel)
  have hreadable : Message.toLoopback.Readable := by
    have hurl : (Url.parse Message.toLoopback.url).toOption.isSome = true := by decide +kernel
    cases h : Url.parse Message.toLoopback.url with
    | ok url => exact ⟨url, h⟩
    | error reason =>
      rw [h] at hurl
      cases hurl
  obtain ⟨hmachine, -⟩ := Sequence.retry_machine (by decide +kernel) (by decide) ⟨rfl, rfl, rfl⟩
    hcalm hparked hdistinct World.inRange_parked
  obtain ⟨w, d, hmem⟩ := Message.accepted_toLoopback
  obtain ⟨m, hm, hreached⟩ := hmachine .toLoopback
    ⟨w, d, List.mem_append_right _ (List.mem_append_left _ hmem)⟩
  have hstatus : (World.parked.ledger.get? Message.toLoopback.id).map (·.status) = some .retry := by
    decide +kernel
  rw [hm] at hstatus
  refine ⟨_, m, hm, Option.some.inj hstatus, ?_, hreached hreadable⟩
  decide +kernel

-- The machine has no place for a message whose own URL is not read again.

/-- A draft whose stored form cannot be read is accepted all the same. -/
theorem World.headUnreadable_of_submission {w : World} {d draft : Draft} (hempty : w.Empty)
    (hcalm : w.Calm) (hopen : w.queue.rejecting = false) (hdraft : d.normalize = .ok draft)
    (hunread : ∀ url, Url.parse draft.url ≠ .ok url) :
    (w.newMessage draft).Accepted ((Role.submission d).round.moments w)
      ∧ ((Role.submission d).round.run w).2.HeadUnreadable (w.newMessage draft)
      ∧ ((Role.submission d).round.run w).2.ledger.attempts = []
      ∧ ((Role.submission d).round.run w).2.created = w.created + 1 := by
  let m := w.newMessage draft
  have hplanned : takePlanned .createMessage w.planned = none := by
    rw [hcalm.unplanned]
    rfl
  have hcreate := World.perform_create hplanned draft
  have haccepting : (w.storing draft).queue.rejecting = false := hopen
  obtain ⟨w', hpush, hledger⟩ := World.perform_push_of_accepting haccepting m.id.text
  -- a submission makes two calls: it creates the message, and pushes its entry
  have hrun : ((Role.submission d).round.run w).2 = w' := by
    simp only [Role.round, submit, hdraft, Submission.accept, Submission.enqueue, bind, Task.bind,
      Task.perform, Task.run, hcreate, hpush, m]
    rfl
  have hmoments : (Role.submission d).round.moments w
      = [⟨w.storing draft, .push m.id.text, .ok ()⟩, ⟨w, .createMessage draft, .ok m⟩] := by
    simp only [Role.round, submit, hdraft, Submission.accept, Submission.enqueue, bind, Task.bind,
      Task.perform, Task.moments, hcreate, hpush, m]
    rfl
  rw [hrun, hmoments]
  refine ⟨⟨w, draft, List.mem_cons_of_mem _ (List.mem_singleton.mpr rfl)⟩, ?_, ?_, ?_⟩
  · have hentries : w'.ledger.entries = [] ++ [m.id.text] := by
      rw [hledger, ← hempty.entries]
      rfl
    refine ⟨m.id.text, [], hentries, MessageId.ofText?_text m.id, ?_, rfl, ?_⟩
    · rw [hledger]
      exact Ledger.get?_put_self w.ledger m
    · rintro ⟨url, hurl⟩
      exact hunread url hurl
  · rw [hledger]
    exact hempty.attempts
  · exact congrArg Ledger.created hledger

/-- Once it has been accepted and a worker has taken it, its message is not where the machine is. -/
theorem Sequence.exists_not_machine {p : Retry.Policy} {worker : Worker} {start : World}
    {d draft : Draft} (hjitter : p.jitter ≤ 0) (hmax : p.maxAttempts.toNat < 2147483647)
    (hpolicy : worker.policy = p) (hempty : start.Empty) (hcalm : start.Calm)
    (hopen : start.queue.rejecting = false) (hdistinct : start.supply.Distinct (start.created + 1))
    (hdraft : d.normalize = .ok draft) (hunread : ∀ url, Url.parse draft.url ≠ .ok url) :
    ∃ (w : World) (h : List Moment), Sequence p.Employs World.Passes start w h
      ∧ w.created = start.created + 1 ∧ w.ledger.attempts = []
      ∧ (start.newMessage draft).Accepted h
      ∧ ∀ m, w.ledger.get? (start.newMessage draft).id = some m →
        ¬ p.Machine m (reports (start.newMessage draft).id h)
          (w.ledger.attemptsOf (start.newMessage draft).id) := by
  obtain ⟨⟨w₀, d₀, haccepted⟩, hhead, hattempts, hcreated⟩ :=
    World.headUnreadable_of_submission hempty hcalm hopen hdraft hunread
  have hsubmitted := Sequence.round (.submission d) trivial
    (.start : Sequence p.Employs World.Passes start start [])
  have hdistinct : start.supply.Distinct ((Role.submission d).round.run start).2.created :=
    hcreated ▸ hdistinct
  have hrange : ∀ a ∈ ((Role.submission d).round.run start).2.ledger.attempts, p.InRange a := by
    rw [hattempts]
    exact fun a ha => absurd ha List.not_mem_nil
  have hgoverns := hsubmitted.governs hjitter hmax hempty hcalm hdistinct hrange
  obtain ⟨⟨m, hm, hfailed⟩, hsame, hissued, hreports⟩ :=
    worker.round_unreadable hgoverns.calm hhead
  refine ⟨_, _, .round (.worker worker) hpolicy hsubmitted, hissued.trans hcreated,
    hsame.trans hattempts,
    ⟨w₀, d₀, List.mem_append_right _ (List.mem_append_left _ haccepted)⟩, fun m' hm' hmachine => ?_⟩
  -- the machine has not begun, and the message has failed
  obtain rfl := Option.some.inj (hm.symm.trans hm')
  have hunsent := (hreports _).trans (hgoverns.unsent hhead)
  exact (hunsent ▸ hmachine).not_failed_unsent hfailed

/-- A webhook to a name that is too long on the wire. -/
def Draft.toLongName : Draft :=
  { org := default, method := "POST", url := Url.textOf Url.longLabel, payload := [] }

/-- A message that is accepted need not be where the machine is: this one fails without a request. -/
theorem Sequence.not_always_machine : ¬ ∀ (p : Retry.Policy) (start w : World) (h : List Moment),
    p.jitter ≤ 0 → p.maxAttempts.toNat < 2147483647 → start.Empty → start.Calm →
    Sequence p.Employs World.Passes start w h → start.supply.Distinct w.created →
    (∀ a ∈ w.ledger.attempts, p.InRange a) → ∀ m₀ : Message, m₀.Accepted h →
    ∃ m, w.ledger.get? m₀.id = some m
      ∧ p.Machine m (reports m₀.id h) (w.ledger.attemptsOf m₀.id) := by
  intro hall
  have hempty : World.fresh.Empty := ⟨rfl, rfl, rfl⟩
  have hcalm : World.fresh.Calm := ⟨rfl, rfl, rfl, rfl, .epoch, by decide +kernel⟩
  have hjitter : Worker.plain.policy.jitter ≤ 0 := by decide +kernel
  have hmax : Worker.plain.policy.maxAttempts.toNat < 2147483647 := by decide
  obtain ⟨url, hurl, hunread⟩ := Url.read_once_longLabel
  have hdraft : Draft.toLongName.normalize
      = .ok { Draft.toLongName with method := Method.post.text, url := url.text } :=
    Draft.normalize_eq_ok.mpr ⟨.post, url, Method.post.parse_text, hurl, Nat.zero_le _, rfl⟩
  obtain ⟨w, h, hsequence, hcreated, hattempts, haccepted, hout⟩ :=
    Sequence.exists_not_machine hjitter hmax rfl hempty hcalm rfl
      (Supply.distinct_counting (by decide)) hdraft hunread
  have hdistinct : Supply.counting.Distinct w.created := by
    rw [hcreated]
    exact Supply.distinct_counting (by decide)
  have hrange : ∀ a ∈ w.ledger.attempts, Worker.plain.policy.InRange a := by
    rw [hattempts]
    exact fun a ha => absurd ha List.not_mem_nil
  obtain ⟨m, hm, hmachine⟩ :=
    hall _ _ _ _ hjitter hmax hempty hcalm hsequence hdistinct hrange _ haccepted
  exact hout m hm hmachine

end WebhookDelivery
