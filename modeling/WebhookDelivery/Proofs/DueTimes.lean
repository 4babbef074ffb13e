import WebhookDelivery.Proofs.RetryMachine
import WebhookDelivery.Proofs.SingleOwner
import WebhookDelivery.Proofs.SinceQuery

/-!
# Where due times come from

The due time of a parked message is the time at which its last attempt ended, as the worker has read
it off the clock, and the wait that its policy has decided on. A message that is found due and taken
after that gets a later due time, if the clock does not go back and there is a wait at all.

* `Dated` — every due time that was set since the query goes back to a reading since the query, but
  for attempts that were under way by then.
* `Dated.not_parkedLast` — where due times advance, none comes back.
-/

namespace WebhookDelivery

-- ---------------------------------------------------------------------------
-- Waits
-- ---------------------------------------------------------------------------

/-- Whether every wait that a policy decides on has some length. -/
def Retry.Policy.Waits (p : Policy) : Prop :=
  ∀ draw n delay, p.delay draw n = .ok delay → 0 < delay.nanos

/-- After a wait it is later, in a leap second too. -/
theorem Instant.lt_of_add? {t due : Instant} {d : Duration} (h : t.add? d = some due)
    (hd : 0 < d.nanos) : t < due := by
  have ht := t.nanos_lt
  rw [lt_def]
  rcases add?_eq_some_iff.mp h with ⟨leap, same, later⟩ | ⟨out, plain, later⟩
  · omega
  · unfold unixNanos at later
    omega

/-- Under a policy that waits, a retry is due strictly later than the failure. -/
theorem Retry.Policy.Waits.lt {p : Policy} {draw : Float → Float} {n : Nat} {t due : Instant}
    {delay : Duration} (h : p.Waits) (hdecide : p.decide draw n t = .ok (.retry due delay)) :
    t < due := by
  obtain ⟨-, hdelay, hdue⟩ := of_decide_retry hdecide
  exact Instant.lt_of_add? hdue (h draw n delay hdelay)

/-- Without jitter a policy waits if neither its base delay nor its longest one is zero. -/
theorem Retry.Policy.waits_of_jitter_le {p : Policy} (hjitter : p.jitter ≤ 0)
    (hbase : 0 < p.baseDelay.nanos) (hmax : 0 < p.maxDelay.nanos) : p.Waits := by
  intro draw n delay hdelay
  rw [delay_of_jitter_le hjitter] at hdelay
  have hpow : 0 < p.baseDelay.nanos * Nat.pow 2 (min n 31) :=
    Nat.mul_pos hbase (Nat.pow_pos (by decide))
  rw [← Except.ok.inj hdelay, nanos_plainDelay]
  omega

-- ---------------------------------------------------------------------------
-- Where due times come from
-- ---------------------------------------------------------------------------

/-- The message of an attempt whose time is known, and that time. -/
def Stage.dated? : Stage → Option (MessageId × Instant)
  | timed _ m _ now | recorded _ m _ now => some (m.id, now)
  | _ => none

/-- A scene with the calls up to the last query on record. -/
def Scene.atQuery (s : Scene) : Scene :=
  { s with history := untilQuery s.history }

/-- Whether an actor has read this time off the clock since the last query, or had the message in
hand by then. -/
def Scene.ReadSince (s : Scene) (i : Nat) (id : MessageId) (now : Instant) : Prop :=
  s.atQuery.hand i = some id ∨ ∃ x, (i, x) ∈ sinceQuery s.history ∧ x.reading? = some now

/-- Only workers date attempts; and the dates of attempts, and those that due times are counted
from, were read off the clock since the last query, but for attempts under way by then. -/
structure Dated (s : Scene) (staff : List (Actor × Stage)) : Prop where
  workers : ∀ x ∈ staff, ∀ p, x.2.dated? = some p → ∃ worker, x.1.role = .worker worker
  stages : ∀ (i : Nat) x id now, staff[i]? = some x → x.2.dated? = some (id, now) →
    s.ReadSince i id now
  parked : ∀ i x id due, (i, x) ∈ sinceQuery s.history → x.call.Parks due x.answer id →
    ∃ worker draw n now delay, .worker worker ∈ staff.map (·.1.role)
      ∧ worker.policy.decide draw n now = .ok (.retry due delay) ∧ s.ReadSince i id now

section Dates

variable {role : Role} {σ σ' : Stage} {c : Call} {answer : c.Answer} {id : MessageId}
  {s t : Scene} {staff staff' before after : List (Actor × Stage)} {a b : Actor} {w : World}

/-- A round with a dated attempt has the message in hand. -/
theorem Stage.hand_of_dated {now : Instant} (h : σ.dated? = some (id, now)) :
    σ.hand = some id := by
  cases σ with
  | timed | recorded => exact congrArg some (Prod.mk.inj (Option.some.inj h)).1
  | _ => cases h

/-- The date of an attempt was known before, or has just been read by a worker. -/
theorem Stage.Next.dated {p : MessageId × Instant} (hnext : Next role σ c answer σ')
    (hdated : σ'.dated? = some p) : σ.dated? = some p
      ∨ (∃ worker, role = .worker worker) ∧ Moment.reading? ⟨w, c, answer⟩ = some p.2 := by
  cases hnext with
  | note | record | draw => exact .inl hdated
  | time now =>
    obtain rfl := Option.some.inj hdated
    exact .inr ⟨⟨_, rfl⟩, rfl⟩
  | loadFailed | writeFailed | rejectFailed =>
    rw [Stage.afterFailure] at hdated
    split at hdated <;> cases hdated
  | _ => cases hdated

/-- A worker parks a message until the time that its policy decides on for the date of the
attempt. -/
theorem Stage.Next.parks {due : Instant} (hnext : Next role σ c answer σ')
    (hrole : ∀ d, role ≠ .submission d) (hparks : c.Parks due answer id) :
    ∃ worker draw n now delay, role = .worker worker ∧ σ.dated? = some (id, now)
      ∧ worker.policy.decide draw n now = .ok (.retry due delay) := by
  -- a worker parks by writing a failed message back; only a submission defers
  cases hnext with
  | @write worker entry m m' report now hsettles =>
    obtain ⟨hid, hretry, hdue⟩ := hparks
    have hdated : (Stage.recorded entry m report now).dated? = some (id, now) := by
      rw [← hid, hsettles.id_eq]
      rfl
    cases hsettles with
    | delivered => cases hretry
    | @failed _ draw decision hdecide =>
      cases decision with
      | retry next delay =>
        obtain rfl : next = due := Option.some.inj hdue
        exact ⟨worker, draw, _, now, delay, rfl, hdated, hdecide⟩
      | giveUp => cases hretry
  | defer => exact absurd rfl (hrole _)
  | _ => exact hparks.elim

theorem Scene.hand_congr (h : t.history = s.history) (i : Nat) : t.hand i = s.hand i := by
  simp only [hand, calls, h]

/-- A time read since the last query stays so until the next query. -/
theorem Scene.ReadSince.cons {i j : Nat} {x : Moment} {now : Instant}
    (h : s.ReadSince j id now) (hhistory : t.history = (i, x) :: s.history)
    (hquery : isQuery (i, x) = false) : t.ReadSince j id now := by
  have huntil : t.atQuery.history = s.atQuery.history := by
    show untilQuery t.history = _
    rw [hhistory, untilQuery_cons hquery]
    rfl
  rcases h with hhand | ⟨y, hy, hreading⟩
  · exact .inl ((hand_congr huntil j).trans hhand)
  · refine .inr ⟨y, ?_, hreading⟩
    rw [hhistory, sinceQuery_cons hquery]
    exact List.mem_cons_of_mem _ hy

namespace Dated

/-- Nothing is dated before anyone acts. -/
theorem start (hstages : ∀ x ∈ staff, x.2 = .idle) (hhistory : s.history = []) :
    Dated s staff where
  workers x hx _ hdated := by
    rw [hstages x hx] at hdated
    cases hdated
  stages i x _ _ hx hdated := by
    rw [hstages x (List.mem_of_getElem? hx)] at hdated
    cases hdated
  parked i x _ _ hx := by
    rw [hhistory] at hx
    cases hx

/-- Without a call, who dates an attempt has done so before. -/
theorem mono (h : Dated s staff) (hhistory : t.history = s.history)
    (hstages : ∀ (i : Nat) x p, staff'[i]? = some x → x.2.dated? = some p →
      ∃ y, staff[i]? = some y ∧ y.2.dated? = some p ∧ y.1.role = x.1.role)
    (hroles : staff.map (·.1.role) ⊆ staff'.map (·.1.role)) : Dated t staff' := by
  -- with the same history the last query is the same
  have hread : ∀ i id now, s.ReadSince i id now → t.ReadSince i id now := by
    intro i id now hread
    have huntil : t.atQuery.history = s.atQuery.history := congrArg untilQuery hhistory
    rw [Scene.ReadSince, Scene.hand_congr huntil, hhistory]
    exact hread
  refine ⟨fun x hx p hdated => ?_, fun i x id now hx hdated => ?_, fun i x id due hx hparks => ?_⟩
  · obtain ⟨i, hi⟩ := List.mem_iff_getElem?.mp hx
    obtain ⟨y, hy, hydated, hrole⟩ := hstages i x p hi hdated
    rw [← hrole]
    exact h.workers y (List.mem_of_getElem? hy) p hydated
  · obtain ⟨y, hy, hydated, -⟩ := hstages i x _ hx hdated
    exact hread i id now (h.stages i y id now hy hydated)
  · rw [hhistory] at hx
    obtain ⟨worker, draw, n, now, delay, hworker, hdecide, hsince⟩ := h.parked i x id due hx hparks
    exact ⟨worker, draw, n, now, delay, hroles hworker, hdecide, hread i id now hsince⟩

/-- An actor without a date may come to another stage without one. -/
theorem replace (before : List (Actor × Stage)) (h : Dated s (before ++ (a, σ) :: after))
    (hhistory : t.history = s.history) (hrole : b.role = a.role)
    (hdated : ∀ p, σ'.dated? = some p → σ.dated? = some p) :
    Dated t (before ++ (b, σ') :: after) := by
  refine h.mono hhistory (fun i x p hx hxdated => ?_) ?_
  · rw [getElem?_replaced (a, σ)] at hx
    split at hx
    · rename_i hi
      obtain rfl := Option.some.inj hx
      exact ⟨(a, σ), by rw [hi]; simp, hdated p hxdated, hrole.symm⟩
    · exact ⟨x, hx, hxdated, rfl⟩
  · simp [hrole]

/-- Every move preserves where dates come from. A query looks at what has come before anew: who
dates an attempt then has its message in hand. -/
theorem move (before : List (Actor × Stage)) (h : Dated s (before ++ (a, σ) :: after))
    (hrole : b.role = a.role) (hsubmits : ∀ d, a.role ≠ .submission d)
    (hnext : Stage.Next a.role σ c answer σ')
    (hhistory : t.history = (before.length, ⟨w, c, answer⟩) :: s.history)
    (hhands : ∀ j, t.hand j = (before ++ (b, σ') :: after)[j]?.bind fun x => x.1.role.hand x.2) :
    Dated t (before ++ (b, σ') :: after) := by
  have hmem : (a, σ) ∈ before ++ (a, σ) :: after := mem_split.mpr (.inl rfl)
  have hself : (before ++ (a, σ) :: after)[before.length]? = some (a, σ) := by simp
  have hworkers : ∀ x ∈ before ++ (b, σ') :: after, ∀ p, x.2.dated? = some p →
      ∃ worker, x.1.role = .worker worker := by
    intro x hx p hdated
    rcases mem_split.mp hx with rfl | hx
    · rw [hrole]
      -- dated before the move, or by the reading that the move is
      rcases hnext.dated (w := w) hdated with hdated | ⟨hworker, -⟩
      · exact h.workers _ hmem p hdated
      · exact hworker
    · exact h.workers x (mem_split.mpr (.inr hx)) p hdated
  -- a query starts the reckoning anew: what is dated is under way by then
  cases hquery : isQuery (before.length, ⟨w, c, answer⟩) with
  | true =>
    refine ⟨hworkers, fun j x id now hx hdated => .inl ?_, fun j x id due hx => ?_⟩
    · have huntil : t.atQuery.history = t.history := by
        show untilQuery t.history = _
        rw [hhistory, untilQuery_query hquery]
      obtain ⟨worker, hworker⟩ := hworkers x (List.mem_of_getElem? hx) _ hdated
      rw [Scene.hand_congr huntil, hhands, hx, Option.bind_some, hworker]
      exact Stage.hand_of_dated hdated
    · rw [hhistory, sinceQuery_query hquery] at hx
      cases hx
  | false =>
    refine ⟨hworkers, fun j x id now hx hdated => ?_, fun j x id due hx hparks => ?_⟩
    · rw [getElem?_replaced (a, σ)] at hx
      split at hx
      · rename_i hj
        obtain rfl := Option.some.inj hx
        rcases hnext.dated (w := w) hdated with hdated | ⟨-, hreading⟩
        · exact (h.stages j _ id now (hj ▸ hself) hdated).cons hhistory hquery
        · refine .inr ⟨_, ?_, hreading⟩
          rw [hhistory, sinceQuery_cons hquery, hj]
          exact List.mem_cons_self
      · exact (h.stages j x id now hx hdated).cons hhistory hquery
    · rw [hhistory, sinceQuery_cons hquery] at hx
      rcases List.mem_cons.mp hx with heq | hx
      · obtain ⟨rfl, rfl⟩ := Prod.mk.inj heq
        obtain ⟨worker, draw, n, now, delay, hworker, hdated, hdecide⟩ :=
          hnext.parks hsubmits hparks
        refine ⟨worker, draw, n, now, delay, ?_, hdecide,
          (h.stages _ _ id now hself hdated).cons hhistory hquery⟩
        simp [hrole, hworker]
      · obtain ⟨worker, draw, n, now, delay, hworker, hdecide, hsince⟩ :=
          h.parked j x id due hx hparks
        refine ⟨worker, draw, n, now, delay, ?_, hdecide, hsince.cons hhistory hquery⟩
        simpa [hrole] using hworker

end Dated

end Dates

-- ---------------------------------------------------------------------------
-- Due times that advance
-- ---------------------------------------------------------------------------

/-- What it takes for due times to advance after a query: the policies at work wait, the clock shows
no time before the one that was asked for, and nobody has the message in hand when it is asked. -/
structure Scene.Advances (s : Scene) (id : MessageId) : Prop where
  waits : ∀ a ∈ s.actors, ∀ worker, a.role = .worker worker → worker.policy.Waits
  readings : ∀ asked, askedAt? s.history = some asked →
    ∀ p ∈ sinceQuery s.history, ∀ now, p.2.reading? = some now → asked ≤ now
  free : ∀ i, s.atQuery.hand i ≠ some id

section Advances

variable {id : MessageId} {due : Instant} {s : Scene} {staff : List (Actor × Stage)}

/-- A message found due was due by the time the query asked about. -/
theorem FoundDue.askedAt {h : List (Nat × Moment)} (hfound : FoundDue id due h) :
    ∃ asked, askedAt? h = some asked ∧ due ≤ asked := by
  obtain ⟨w, limit, now, batch, earlier, heq, hle, -⟩ := hfound
  refine ⟨now, ?_, hle⟩
  rw [askedAt?, heq]
  rfl

/-- Where due times advance, none comes back. -/
theorem Dated.not_parkedLast (hdated : Dated s staff) (hstaffed : Scene.Staffed s staff)
    (hadvances : s.Advances id) (hfound : FoundDue id due s.history) :
    ¬ ParkedLast id due (sinceQuery s.history) := by
  intro hparked
  obtain ⟨i, x, hx, hparks⟩ := hparked.exists_parks
  obtain ⟨worker, draw, n, now, delay, hworker, hdecide, hsince⟩ :=
    hdated.parked i x id due hx hparks
  obtain ⟨y, hy, hrole⟩ := List.mem_map.mp hworker
  have hactor : y.1 ∈ s.actors := by
    rw [hstaffed.actors]
    exact List.mem_map_of_mem hy
  -- a policy that waits puts the due time after the failure
  have hlater : now < due := (hadvances.waits y.1 hactor worker hrole).lt hdecide
  obtain ⟨asked, hasked, hle⟩ := hfound.askedAt
  obtain ⟨y, hy, hreading⟩ := hsince.resolve_left (hadvances.free i)
  -- which was read after the query, so not before what the query asked for
  have hread : asked ≤ now := hadvances.readings asked hasked _ hy now hreading
  rw [Instant.le_def] at hle hread
  rw [Instant.lt_def] at hlater
  omega

end Advances

end WebhookDelivery
