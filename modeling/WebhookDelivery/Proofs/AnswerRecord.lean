import WebhookDelivery.Proofs.BodySummary
import WebhookDelivery.Proofs.RetryMachine
import WebhookDelivery.Proofs.WireSignature

/-!
# Every answer can be recorded

The store refuses a text with a NUL in it, and receivers answer with whatever octets they like. But
what is kept of a body is read as a text first, with a replacement for what is none, and every NUL
in it is replaced, too. So there is no answer that the store refuses for its text. What is kept is
the body itself as far as that is possible at all: if it is UTF-8, has no NUL, and is within the
limit.

What the record says of success is read off its status code, what becomes of the message off the
outcome of the request. They agree for every request, as the outcome goes by the status code as well.

* `utf8_of_summarizeBody_iff` — when the text kept of a body is the body.
* `Store.record_attempt` — what the store makes of an attempt on a message.
* `Worker.ends_afterExchange` — a delivery that ends has recorded and written.
* `Worker.answer_recorded` — what is done with every answer.
-/

namespace WebhookDelivery

-- ---------------------------------------------------------------------------
-- The text kept of a body
-- ---------------------------------------------------------------------------

section Summary

variable {bytes : Octets} {text : String}

/-- Nothing is kept of an empty body, and of no other. -/
theorem summarizeBody_eq_none_iff (bytes : Octets) : summarizeBody bytes = none ↔ bytes = [] := by
  rw [summarizeBody, ← List.isEmpty_iff]
  split
  · rename_i hempty
    exact ⟨fun _ => hempty, fun _ => rfl⟩
  · rename_i hempty
    split <;> exact ⟨by rintro ⟨⟩, fun h => absurd h hempty⟩

/-- No character of a summary is NUL. -/
theorem nul_not_mem_of_summarizeBody (h : summarizeBody bytes = some text) :
    '\x00' ∉ text.toList := by
  have hnone := any_summarizeBody bytes
  rw [h, Option.any_some] at hnone
  simpa using hnone

/-- The text kept of a body beyond the limit is shorter than the body. -/
theorem length_lt_of_oversized (hlong : maxBodyBytes < bytes.length)
    (h : summarizeBody bytes = some text) : (utf8 text).length < bytes.length := by
  rw [summarizeBody_of_oversized hlong] at h
  obtain rfl := Option.some.inj h
  have hbounds := (Utf8.recordLength_bounds 0 (keptOctets bytes) (Nat.zero_le _)).2.1
  have hspace : 3 * (maxSummaryBytes - (utf8 cutMark).length) + (utf8 cutMark).length
    ≤ maxBodyBytes := by decide
  rw [length_keptOctets hlong] at hbounds
  rw [length_record]
  omega

/-- A text within the limit and without a NUL is kept as it is. -/
theorem summarizeBody_utf8 {s : String} (hne : utf8 s ≠ []) (hnul : '\x00' ∉ s.toList)
    (hlength : (utf8 s).length ≤ maxBodyBytes) : summarizeBody (utf8 s) = some s := by
  have hempty : (utf8 s).isEmpty = false := List.isEmpty_eq_false_iff.mpr hne
  have hsame : s.toList.map replaceNul = s.toList := by
    refine (List.map_congr_left fun c hc => ?_).trans (List.map_id _)
    exact if_neg (ne_of_mem_of_not_mem hc hnul)
  rw [summarizeBody, hempty, if_neg Bool.false_ne_true, if_neg (Nat.not_lt.mpr hlength),
    lossyText_utf8, hsame, String.ofList_toList]

/-- The text kept of a body is the body exactly if the body is UTF-8, has no NUL, and is within the
limit. -/
theorem utf8_of_summarizeBody_iff (h : summarizeBody bytes = some text) :
    utf8 text = bytes ↔ (∃ s, utf8 s = bytes) ∧ 0 ∉ bytes ∧ bytes.length ≤ maxBodyBytes := by
  constructor
  · intro heq
    refine ⟨⟨text, heq⟩, ?_, Nat.le_of_not_lt fun hlong => ?_⟩
    · rw [← heq, zero_mem_utf8]
      exact nul_not_mem_of_summarizeBody h
    · -- an oversized body is cut, so that its text cannot be the whole of it
      have hshorter := length_lt_of_oversized hlong h
      rw [heq] at hshorter
      exact Nat.lt_irrefl _ hshorter
  · rintro ⟨⟨s, rfl⟩, hzero, hlength⟩
    have hne : utf8 s ≠ [] := by
      intro hnil
      rw [(summarizeBody_eq_none_iff _).mpr hnil] at h
      cases h
    rw [summarizeBody_utf8 hne (mt zero_mem_utf8.mpr hzero) hlength] at h
    rw [Option.some.inj h]

end Summary

-- ---------------------------------------------------------------------------
-- The record of an attempt
-- ---------------------------------------------------------------------------

/-- How the store refuses a text that it cannot hold. -/
def Store.invalidText : StoreError :=
  .database "invalid byte sequence for encoding \"UTF8\": 0x00"

section Record

variable {s : Store} {u : Uuid} {m : Message} {report : Report} {now : Instant}

/-- The store takes every attempt on a message that it knows, unless it is made to fail. -/
theorem Store.record_attempt (hgenuine : report.Genuine) :
    s.record u (m.attempt report now)
      = if s.failAttemptWrites then .error (.database "injected attempt write failure")
        else if !s.contains m.id then
          .error (.constraintViolation ("attempt references unknown message " ++ m.id.text))
        else .ok ((m.attempt report now).record u,
          { s with attempts := s.attempts ++ [(m.attempt report now).record u] }) := by
  have hbody : (m.attempt report now).result.responseBody.any (·.toList.contains '\x00') = false :=
    hgenuine.body
  rw [record, hbody, if_neg Bool.false_ne_true]
  rfl

/-- The store never refuses the text of an attempt on a genuine report. -/
theorem Store.record_attempt_ne_invalidText (hgenuine : report.Genuine) :
    s.record u (m.attempt report now) ≠ .error invalidText := by
  rw [record_attempt hgenuine]
  intro heq
  split at heq
  · exact absurd (StoreError.database.inj (Except.error.inj heq)) (by decide +kernel)
  · split at heq <;> cases heq

end Record

-- ---------------------------------------------------------------------------
-- What a delivery does with an answer
-- ---------------------------------------------------------------------------

/-- Whether the store takes an attempt on a message as it should: no store refuses its text, and if
no failure is planned for the call, the store can record, and it knows the message, then it has
appended an attempt that tells of the report. -/
structure World.Takes (v : World) (m : Message) (report : Report) (a : NewAttempt)
    (answer : Except StoreError Attempt) : Prop where
  storable : ∀ (s : Store) (u : Uuid), s.record u a ≠ .error Store.invalidText
  accepted : takePlanned .recordAttempt v.planned = none → answer ≠ .error Store.invalidText
  appended : takePlanned .recordAttempt v.planned = none → v.store.failAttemptWrites = false →
    v.store.contains m.id = true →
    ∃ recorded, answer = .ok recorded
      ∧ (v.perform (.recordAttempt a)).2.store.attempts = v.store.attempts ++ [recorded]
      ∧ recorded.messageId = m.id
      ∧ recorded.statusCode = report.outcome.statusCode?.map (fun code => Int32.ofNat code.toNat)
      ∧ recorded.responseBody = report.outcome.result.responseBody
      ∧ recorded.succeeded = report.outcome.isSuccess

/-- An attempt that is not made to fail goes to the store. -/
theorem World.perform_recordAttempt {v : World} {a : NewAttempt}
    (hplanned : takePlanned .recordAttempt v.planned = none) :
    v.perform (.recordAttempt a)
      = (some ({ v with asked := v.asked + 1 }.write
            (v.store.record (v.supply.attemptIds v.asked) a)).1,
          ({ v with asked := v.asked + 1 }.write
            (v.store.record (v.supply.attemptIds v.asked) a)).2) := by
  simp only [perform, storeCall, hplanned]

/-- Whatever answers a `record_attempt` takes the attempt on a genuine report. -/
theorem World.takes_of_genuine {v v' : World} {m : Message} {report : Report} {now : Instant}
    {answer : Except StoreError Attempt} (hgenuine : report.Genuine)
    (hperform : v.perform (.recordAttempt (m.attempt report now)) = (some answer, v')) :
    v.Takes m report (m.attempt report now) answer := by
  refine ⟨fun s u => Store.record_attempt_ne_invalidText hgenuine, fun hplanned hinvalid => ?_,
    fun hplanned hwrites hknown => ?_⟩
  · rw [perform_recordAttempt hplanned] at hperform
    have hanswer := Option.some.inj (Prod.mk.inj hperform).1
    rw [hinvalid] at hanswer
    -- the store itself never refuses the text, whatever else it may refuse
    cases hrecord : v.store.record (v.supply.attemptIds v.asked) (m.attempt report now) with
    | error e =>
      rw [hrecord] at hanswer
      rw [Except.error.inj hanswer] at hrecord
      exact Store.record_attempt_ne_invalidText hgenuine hrecord
    | ok result =>
      rw [hrecord] at hanswer
      cases hanswer
  · have hrecord : v.store.record (v.supply.attemptIds v.asked) (m.attempt report now) = _ :=
      Store.record_attempt hgenuine
    rw [hwrites, if_neg Bool.false_ne_true, hknown, if_neg (by decide)] at hrecord
    rw [perform_recordAttempt hplanned, hrecord] at hperform
    obtain ⟨hanswer, rfl⟩ := Prod.mk.inj hperform
    obtain rfl := Option.some.inj hanswer
    rw [perform_recordAttempt hplanned, hrecord]
    refine ⟨_, rfl, rfl, rfl, ?_, rfl, hgenuine.succeeded_eq rfl⟩
    show report.outcome.result.statusCode = _
    cases report.outcome <;> rfl

/-- Whether a delivery makes this call once its request has come to this report: attempts are
recorded with it, and the message is written as delivered exactly if it tells of success. -/
def Message.CallsAfter (m : Message) (report : Report) : Call → Prop
  | .recordAttempt a => ∃ now, a = m.attempt report now
  | .updateMessage m' => m'.id = m.id ∧ (m'.status = .success ↔ report.outcome.isSuccess = true)
  | _ => True

namespace Worker

variable {w : Worker} {m : Message} {report : Report} {h : List Moment}

/-- After the exchange a delivery makes no other calls than these. -/
theorem makes_callsAfter : (Task.perform (.note .sent) >>= fun _ => w.afterExchange m report).Makes
    (m.CallsAfter report) fun _ => True := by
  refine (Task.makes_perform trivial).bind fun _ _ => ?_
  refine makes_afterExchange trivial (fun now => ⟨now, rfl⟩) (fun _ => trivial) ?_ fun _ => trivial
  exact fun now m' hsettles => ⟨hsettles.id_eq, hsettles.success_iff⟩

/-- A delivery that ends has recorded its attempt and written its message. -/
theorem ends_afterExchange {result : Except PipelineError Transition}
    (hends : (Task.perform (.note .sent) >>= fun _ => w.afterExchange m report).Ends h result) :
    (∃ v a answer, (⟨v, .recordAttempt a, answer⟩ : Moment) ∈ h)
      ∧ ∃ v m' answer, (⟨v, .updateMessage m', answer⟩ : Moment) ∈ h := by
  obtain ⟨_, h₁, h₂, -, hafter, rfl⟩ := hends.of_bind
  obtain ⟨now, h₃, h₄, -, htimed, rfl⟩ := hafter.of_bind
  obtain ⟨recorded, h₅, h₆, hrecord, hrest, rfl⟩ := htimed.of_bind
  obtain ⟨settled, h₇, h₈, -, hconclude, rfl⟩ := hrest.of_bind
  obtain ⟨written, h₉, h₁₀, hupdate, -, rfl⟩ := hconclude.of_bind
  obtain ⟨v, _, -, rfl⟩ := hrecord.of_perform
  obtain ⟨v', _, -, rfl⟩ := hupdate.of_perform
  exact ⟨⟨v, m.attempt report now, recorded, by simp⟩, ⟨v', settled.1, written, by simp⟩⟩

/-- Nothing is kept of an empty body only, and what is kept of another is a text without a NUL, the
body itself exactly if that is UTF-8, has no NUL and is within the limit. So whatever a delivery is
answered with, the store does not refuse the text, and if it can record and knows the message, it
appends an attempt with the status code of the answer. The success that the record tells of is that
of the outcome, which goes by the status code; and the message is written as delivered exactly then.
A delivery that ends has done both. -/
theorem answer_recorded :
    (∀ bytes : Octets, (summarizeBody bytes = none ↔ bytes = [])
      ∧ ∀ text, summarizeBody bytes = some text → '\x00' ∉ text.toList
        ∧ (utf8 text = bytes
          ↔ (∃ s, utf8 s = bytes) ∧ 0 ∉ bytes ∧ bytes.length ≤ maxBodyBytes))
    ∧ ∀ {w : Worker} {m : Message} {later earlier : List Moment} {world : World} {client : Client}
      {r : DeliveryRequest} {report : Report} {t : Task (Except PipelineError Transition)},
      (w.deliver m).Reaches (later ++ ⟨world, .send client r, report⟩ :: earlier) t →
      report.outcome.isSuccess = report.outcome.statusCode?.any Outcome.isSuccessCode
      ∧ (∀ v a answer, ⟨v, .recordAttempt a, answer⟩ ∈ later → v.Takes m report a answer)
      ∧ (∀ v m' answer, ⟨v, .updateMessage m', answer⟩ ∈ later →
        m'.id = m.id ∧ (m'.status = .success ↔ report.outcome.isSuccess = true))
      ∧ ∀ result, t = .done result →
        (∃ v a answer, ⟨v, .recordAttempt a, answer⟩ ∈ later)
          ∧ ∃ v m' answer, ⟨v, .updateMessage m', answer⟩ ∈ later := by
  refine ⟨fun bytes => ⟨summarizeBody_eq_none_iff bytes, fun text htext =>
    ⟨nul_not_mem_of_summarizeBody htext, utf8_of_summarizeBody_iff htext⟩⟩, ?_⟩
  intro w m later earlier world client r report t hreaches
  rw [deliver] at hreaches
  cases hparsed : DeliveryRequest.ofMessage m with
  | error reason =>
    -- A message of which no request can be made is not sent.
    rw [hparsed] at hreaches
    have hnone := hreaches.requests_of_silent (silent_reject m reason)
    rw [requests_append] at hnone
    cases (List.append_eq_nil_iff.mp hnone).2
  | ok plain =>
    rw [hparsed] at hreaches
    obtain ⟨signature, h₁, world', world'', report', -, -, hmoment, hperform, hafter, -⟩ :=
      afterExchange_of_reaches rfl hreaches
    obtain ⟨rfl, hcall, hreport⟩ := Moment.mk.inj hmoment
    obtain ⟨rfl, rfl⟩ := Call.send.inj hcall
    obtain rfl := eq_of_heq hreport
    -- the request has gone out; what is left of the delivery makes no other calls than these
    have hgenuine := World.genuine_of_send hperform
    have hcalls := hafter.calls_of_makes makes_callsAfter
    refine ⟨hgenuine.code, fun v a answer hmem => ?_, fun v m' answer hmem => ?_, ?_⟩
    · obtain ⟨now, rfl⟩ : ∃ now, a = m.attempt report now := hcalls _ hmem
      obtain ⟨v', hanswered⟩ := hafter.answered _ hmem
      exact World.takes_of_genuine hgenuine hanswered
    · exact hcalls _ hmem
    · rintro result rfl
      exact ends_afterExchange hafter.ends

end Worker

-- A post is answered with a NUL and an octet that begins no character.

/-- A receiver that accepts all requests with this answer. -/
def Network.binary : Network := fun _ _ =>
  .response { status := 200, headers := [], chunks := [[0, 255]], ending := .complete }

/-- A world with the message 1, 2, 3 in store and this receiver on the network. -/
def World.binary : World :=
  { World.fresh with store := { messages := [.posted] }, network := .binary }

/-- Two octets that are no UTF-8 come to two replacement characters. -/
theorem Worker.outcome_binary : ∃ r, DeliveryRequest.ofMessage .posted = .ok r
    ∧ (Worker.plain.client.deliver .binary [] (r.sign none)).1
      = .success 200 (some "\uFFFD\uFFFD") := by
  have hanswered : (DeliveryRequest.ofMessage .posted).toOption.any (fun r =>
      (Worker.plain.client.deliver .binary [] (r.sign none)).1
        = .success 200 (some "\uFFFD\uFFFD")) = true := by
    decide +kernel
  cases hr : DeliveryRequest.ofMessage .posted with
  | error e =>
    rw [hr] at hanswered
    cases hanswered
  | ok r =>
    rw [hr] at hanswered
    exact ⟨r, rfl, of_decide_eq_true hanswered⟩

/-- The attempt is recorded with two replacement characters. -/
theorem Worker.answer_recorded_binary : ∃ r report recorded failure t,
    (Worker.plain.deliver .posted).Reaches
      ([⟨.binary, .recordAttempt (Message.posted.attempt report .epoch), .ok recorded⟩,
          ⟨.binary, .now, .epoch⟩, ⟨.binary, .note .sent, ()⟩]
        ++ ⟨.binary, .send Worker.plain.client r, report⟩
        :: [⟨.binary, .note .sending, ()⟩,
          ⟨.binary, .findSigningSecret Message.posted.org, .error failure⟩]) t
    ∧ recorded.statusCode = some 200 ∧ recorded.responseBody = some "\uFFFD\uFFFD"
    ∧ recorded.succeeded = true := by
  obtain ⟨r, hr, houtcome⟩ := outcome_binary
  let report : Report :=
    ⟨(Worker.plain.client.deliver .binary [] (r.sign none)).1, World.binary.supply.durations 0⟩
  let a := Message.posted.attempt report .epoch
  obtain ⟨answer, w', hrecord⟩ : ∃ answer w',
      World.binary.perform (.recordAttempt a) = (some answer, w') := ⟨_, _, rfl⟩
  obtain ⟨failure, hlookup⟩ : ∃ failure, World.binary.perform (.findSigningSecret Message.posted.org)
      = (some (.error failure), .binary) := ⟨_, rfl⟩
  have hsend : World.binary.perform (.send Worker.plain.client (r.sign none))
      = (some report, (World.binary.perform (.send Worker.plain.client (r.sign none))).2) := rfl
  have hnow : World.binary.perform .now = (some .epoch, .binary) := rfl
  -- the calls of the attempt, one by one
  have hattempt : (plain.attempt .posted r).Reaches _ _ :=
    .call hlookup (.call (w := .binary) rfl (.call hsend (.call (w := .binary) rfl
      (.call hnow (.call hrecord (.here _))))))
  obtain ⟨t, hreaches⟩ : ∃ t, (plain.deliver .posted).Reaches
      ([⟨.binary, .recordAttempt a, answer⟩, ⟨.binary, .now, .epoch⟩, ⟨.binary, .note .sent, ()⟩]
        ++ ⟨.binary, .send plain.client (r.sign none), report⟩
        :: [⟨.binary, .note .sending, ()⟩,
          ⟨.binary, .findSigningSecret Message.posted.org, .error failure⟩]) t := by
    rw [deliver, hr]
    exact ⟨_, hattempt⟩
  obtain ⟨-, hattempts, -⟩ := answer_recorded.2 hreaches
  have htakes := hattempts .binary a answer List.mem_cons_self
  obtain ⟨recorded, rfl, -, -, hcode, hbody, hsucceeded⟩ :=
    htakes.appended rfl rfl (by decide +kernel)
  refine ⟨_, report, recorded, failure, t, hreaches, ?_, ?_, ?_⟩
  · rw [hcode, show report.outcome = _ from houtcome]
    rfl
  · rw [hbody, show report.outcome = _ from houtcome]
    rfl
  · rw [hsucceeded, show report.outcome = _ from houtcome]
    rfl

end WebhookDelivery
