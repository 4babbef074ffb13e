import WebhookDelivery.Settings

/-!
# Waits

How long a message waits after a failed attempt, and until when. Without jitter the wait is exact:
the base delay doubled for every earlier attempt, thirty-one times at most, and cut at the longest
delay. The doubled delay may be longer than any duration; what is left of it after the cut is not,
so that nobody sees where multiplication has stopped. The due time is exact as well, where there is
an instant so much later. The calendar ends long before the longest wait that is not refused, and a
wait in between leads to no decision at all, however the policy was come by.

* `Instant.add?_eq_some_iff` — what it means that an instant lies a span after another.
* `Retry.Policy.backoff_exact` — waits and decisions without jitter.
* `Settings.decision_iff_inRange` — when the policy of valid settings comes to a decision.
-/

namespace WebhookDelivery

-- ---------------------------------------------------------------------------
-- Later instants
-- ---------------------------------------------------------------------------

namespace Instant

/-- An instant is made of the seconds and nanoseconds that it was asked for. -/
theorem parts_of_of? {seconds : Int} {nanos : Nat} {t : Instant}
    (h : of? seconds nanos = some t) : t.seconds = seconds ∧ t.nanos = nanos := by
  rw [of?] at h
  split at h
  · rw [← Option.some.inj h]
    exact ⟨rfl, rfl⟩
  · cases h

/-- Nanoseconds since the start of Unix time. They do not count leap seconds: such a second lies
where the second lies that it prolongs. -/
def unixNanos (t : Instant) : Int :=
  t.seconds * 1000000000 + (t.nanos % 1000000000 : Nat)

/-- Whether an instant lies a span after another. In a leap second time goes on as in any other, and
when it is over it is as if it had not been. -/
inductive After (t : Instant) (d : Duration) (u : Instant) : Prop where
  /-- Both lie in one leap second. -/
  | within (leap : 1000000000 ≤ t.nanos) (same : u.seconds = t.seconds)
    (later : u.nanos = t.nanos + d.nanos)
  /-- A leap second that the first lies in is over. -/
  | beyond (out : 1000000000 ≤ t.nanos → 2000000000 ≤ t.nanos + d.nanos)
    (plain : u.nanos < 1000000000) (later : u.unixNanos = t.unixNanos + d.nanos)

variable {t u : Instant} {d : Duration}

/-- A sum lies the span after the instant. -/
theorem after_of_add? (h : t.add? d = some u) : t.After d u := by
  rw [add?] at h
  -- within the leap second, or into the seconds that follow
  split at h
  · rename_i hwithin
    obtain ⟨hseconds, hnanos⟩ := parts_of_of? h
    simp only [Duration.seconds, Duration.subsecNanos] at hwithin hnanos
    exact .within hwithin.1 hseconds (by omega)
  · rename_i hbeyond
    obtain ⟨hseconds, hnanos⟩ := parts_of_of? h
    have := t.nanos_lt
    simp only [Duration.seconds, Duration.subsecNanos] at hbeyond hseconds hnanos
    split at hseconds <;> rename_i hleap
    · rw [if_pos hleap] at hnanos
      refine .beyond (fun _ => by omega) (by omega) ?_
      unfold unixNanos
      rw [hseconds, hnanos]
      omega
    · rw [if_neg hleap] at hnanos
      refine .beyond (fun h => absurd h hleap) (by omega) ?_
      unfold unixNanos
      rw [hseconds, hnanos]
      omega

/-- What lies the span after the instant is the sum. -/
theorem add?_of_after (h : t.After d u) : t.add? d = some u := by
  have hu := u.nanos_lt
  have ht := t.nanos_lt
  rw [add?]
  cases h with
  | within leap same later =>
    have hinside : 1000000000 ≤ t.nanos ∧ d.seconds = 0
        ∧ t.nanos + d.subsecNanos < 2000000000 := by
      rw [Duration.seconds, Duration.subsecNanos]
      omega
    have hnanos : t.nanos + d.subsecNanos = u.nanos := by
      rw [Duration.subsecNanos]
      omega
    rw [if_pos hinside, hnanos, ← same, of?_self]
  | beyond out plain later =>
    unfold unixNanos at later
    have hout : ¬ (1000000000 ≤ t.nanos ∧ d.seconds = 0
        ∧ t.nanos + d.subsecNanos < 2000000000) := by
      rw [Duration.seconds, Duration.subsecNanos]
      omega
    rw [if_neg hout]
    have hinto : (if 1000000000 ≤ t.nanos then t.nanos - 1000000000 else t.nanos)
        = t.nanos % 1000000000 := by
      split <;> omega
    simp only [hinto, Duration.seconds, Duration.subsecNanos]
    -- seconds and nanoseconds are carried as the sum carries them
    have hseconds : t.seconds + (d.nanos / 1000000000 : Nat)
        + ((t.nanos % 1000000000 + d.nanos % 1000000000) / 1000000000 : Nat) = u.seconds := by
      omega
    have hnanos : (t.nanos % 1000000000 + d.nanos % 1000000000) % 1000000000 = u.nanos := by
      omega
    rw [hseconds, hnanos, of?_self]

/-- An instant and a span make the instant that lies so much later. -/
theorem add?_eq_some_iff : t.add? d = some u ↔ t.After d u :=
  ⟨after_of_add?, add?_of_after⟩

/-- There is an instant so much later unless the calendar ends before. -/
theorem exists_add?_iff :
    (∃ u, t.add? d = some u) ↔ t.unixNanos + d.nanos < (lastSecond + 1) * 1000000000 := by
  have hge := t.seconds_ge
  have hle := t.seconds_le
  have ht := t.nanos_lt
  constructor
  · rintro ⟨u, hu⟩
    have := u.seconds_le
    rcases add?_eq_some_iff.mp hu with ⟨leap, same, later⟩ | ⟨out, plain, later⟩
    · have := u.nanos_lt
      rw [unixNanos, lastSecond]
      omega
    · rw [← later, unixNanos, lastSecond]
      omega
  · intro hroom
    rw [unixNanos, lastSecond] at hroom
    by_cases hwithin : 1000000000 ≤ t.nanos ∧ t.nanos + d.nanos < 2000000000
    · exact ⟨⟨t.seconds, t.nanos + d.nanos, hge, hle, hwithin.2⟩,
        add?_of_after (.within hwithin.1 rfl rfl)⟩
    · -- the sum is at this place, which is before the end of the last second
      let place := t.unixNanos + d.nanos
      have hplace : place = t.seconds * 1000000000 + (t.nanos % 1000000000 : Nat) + d.nanos := rfl
      refine ⟨⟨place / 1000000000, (place % 1000000000).toNat, by omega, by omega, by omega⟩,
        add?_of_after (.beyond (by omega) (by dsimp only; omega) ?_)⟩
      show place / 1000000000 * 1000000000 + ((place % 1000000000).toNat % 1000000000 : Nat) = place
      omega

end Instant

-- ---------------------------------------------------------------------------
-- Waits without jitter
-- ---------------------------------------------------------------------------

namespace Retry.Policy

section Waits

variable {p : Policy} {draw : Float → Float} {n : Nat} {t due : Instant}

/-- The wait is exact: where the product stops at the longest duration, the cut goes below it. -/
theorem nanos_plainDelay (p : Policy) (n : Nat) :
    (p.plainDelay n).nanos
      = min (p.baseDelay.nanos * Nat.pow 2 (min n 31)) p.maxDelay.nanos := by
  have hmax : p.maxDelay.nanos ≤ Duration.longest.nanos := Nat.le_of_lt_succ p.maxDelay.nanos_lt
  rw [plainDelay, Duration.nanos_min, Duration.nanos_mulSaturating]
  omega

/-- No wait is longer than the longest. -/
theorem plainDelay_le (p : Policy) (n : Nat) : p.plainDelay n ≤ p.maxDelay := by
  show (p.plainDelay n).nanos ≤ p.maxDelay.nanos
  rw [nanos_plainDelay]
  exact Nat.min_le_right _ _

/-- Waits do not get shorter with more attempts. -/
theorem plainDelay_mono (p : Policy) {k : Nat} (h : n ≤ k) : p.plainDelay n ≤ p.plainDelay k := by
  show (p.plainDelay n).nanos ≤ (p.plainDelay k).nanos
  have hpow : Nat.pow 2 (min n 31) ≤ Nat.pow 2 (min k 31) :=
    Nat.pow_le_pow_right (by decide) (by omega)
  have hmul := Nat.mul_le_mul_left p.baseDelay.nanos hpow
  rw [nanos_plainDelay, nanos_plainDelay]
  omega

/-- Without jitter a wait does not depend on what is drawn. -/
theorem delay_of_jitter_le (h : p.jitter ≤ 0) (draw : Float → Float) (n : Nat) :
    p.delay draw n = .ok (p.plainDelay n) := by
  have hcut : (p.plainDelay n).min p.maxDelay = p.plainDelay n := if_pos (p.plainDelay_le n)
  rw [delay, addJitter, if_pos h]
  exact congrArg Except.ok hcut

/-- A wait that leads to an instant is not too long to be added. -/
theorem nanos_le_of_add? {d : Duration} (h : t.add? d = some due) :
    d.nanos ≤ longestDelayMillis * 1000000 := by
  have hroom := Instant.exists_add?_iff.mp ⟨due, h⟩
  have hge := t.seconds_ge
  rw [Instant.unixNanos, Instant.lastSecond] at hroom
  rw [longestDelayMillis]
  omega

/-- A policy gives up an attempt that is beyond its budget. -/
theorem decide_of_spent (hspent : p.maxAttempts.toNat ≤ n) :
    p.decide draw n t = .ok (.giveUp (.budgetSpent p.maxAttempts)) := by
  rw [decide, if_pos hspent]

/-- What a policy decides about an attempt whose due time is in range. -/
theorem decide_of_inRange (hjitter : p.jitter ≤ 0) (hbudget : n < p.maxAttempts.toNat)
    (hdue : t.add? (p.plainDelay n) = some due) :
    p.decide draw n t = .ok (.retry due (p.plainDelay n)) := by
  rw [decide, if_neg (Nat.not_le.mpr hbudget), delay_of_jitter_le hjitter]
  simp only
  rw [if_neg (Nat.not_lt.mpr (nanos_le_of_add? hdue)), hdue]

/-- How a policy without jitter can decide, or fail to. -/
theorem decide_cases (hjitter : p.jitter ≤ 0) (draw : Float → Float) (n : Nat) (t : Instant) :
    p.maxAttempts.toNat ≤ n ∧ p.decide draw n t = .ok (.giveUp (.budgetSpent p.maxAttempts))
    ∨ n < p.maxAttempts.toNat ∧ longestDelayMillis * 1000000 < (p.plainDelay n).nanos
      ∧ p.decide draw n t = .ok (.giveUp .delayOutOfRange)
    ∨ n < p.maxAttempts.toNat ∧ (p.plainDelay n).nanos ≤ longestDelayMillis * 1000000
      ∧ ((∃ due, t.add? (p.plainDelay n) = some due
          ∧ p.decide draw n t = .ok (.retry due (p.plainDelay n)))
        ∨ t.add? (p.plainDelay n) = none ∧ p.decide draw n t = .error .beyondLastInstant) := by
  -- the budget is looked at first, then the delay, then the sum
  rcases Nat.lt_or_ge n p.maxAttempts.toNat with hbudget | hspent
  · rcases Nat.lt_or_ge (longestDelayMillis * 1000000) (p.plainDelay n).nanos with hlong | hfits
    · refine .inr (.inl ⟨hbudget, hlong, ?_⟩)
      rw [decide, if_neg (Nat.not_le.mpr hbudget), delay_of_jitter_le hjitter]
      simp only
      rw [if_pos hlong]
    · refine .inr (.inr ⟨hbudget, hfits, ?_⟩)
      cases hdue : t.add? (p.plainDelay n) with
      | some due => exact .inl ⟨due, rfl, decide_of_inRange hjitter hbudget hdue⟩
      | none =>
        refine .inr ⟨rfl, ?_⟩
        rw [decide, if_neg (Nat.not_le.mpr hbudget), delay_of_jitter_le hjitter]
        simp only
        rw [if_neg (Nat.not_lt.mpr hfits), hdue]
  · exact .inl ⟨hspent, decide_of_spent hspent⟩

end Waits

/-- Without jitter the wait after any number of attempts is the base delay doubled for each of
them, thirty-one times at most, and cut at the longest delay, to the nanosecond; it does not shrink
from one attempt to the next. A message is given up exactly if the budget is spent or the wait is
longer than can be added; and it is tried again exactly if neither is so and there is an instant so
much later, with this wait, at this instant. -/
theorem backoff_exact {p : Policy} (hjitter : p.jitter ≤ 0) : ∃ wait : Nat → Duration,
    (∀ draw n, p.delay draw n = .ok (wait n))
    ∧ (∀ n, (wait n).nanos = min (p.baseDelay.nanos * Nat.pow 2 (min n 31)) p.maxDelay.nanos)
    ∧ (∀ n k, n ≤ k → wait n ≤ wait k) ∧ (∀ n, wait n ≤ p.maxDelay)
    ∧ ∀ draw n failedAt,
      ((∃ reason, p.decide draw n failedAt = .ok (.giveUp reason))
        ↔ p.maxAttempts.toNat ≤ n ∨ longestDelayMillis * 1000000 < (wait n).nanos)
      ∧ ∀ due delay, p.decide draw n failedAt = .ok (.retry due delay)
        ↔ n < p.maxAttempts.toNat ∧ (wait n).nanos ≤ longestDelayMillis * 1000000
          ∧ delay = wait n ∧ failedAt.After (wait n) due := by
  refine ⟨p.plainDelay, delay_of_jitter_le hjitter, p.nanos_plainDelay, fun _ _ => p.plainDelay_mono,
    p.plainDelay_le, fun draw n failedAt => ?_⟩
  -- spent, too long to be added, added, or beyond the last instant
  rcases decide_cases hjitter draw n failedAt with ⟨hspent, hdecide⟩ | ⟨hbudget, hlong, hdecide⟩
    | ⟨hbudget, hfits, ⟨next, hnext, hdecide⟩ | ⟨hnone, hdecide⟩⟩
  · rw [hdecide]
    refine ⟨⟨fun _ => .inl hspent, fun _ => ⟨_, rfl⟩⟩, fun due delay => ⟨(by rintro ⟨⟩), ?_⟩⟩
    rintro ⟨hbudget, -⟩
    omega
  · rw [hdecide]
    refine ⟨⟨fun _ => .inr hlong, fun _ => ⟨_, rfl⟩⟩, fun due delay => ⟨(by rintro ⟨⟩), ?_⟩⟩
    rintro ⟨-, hfits, -⟩
    omega
  · rw [hdecide]
    refine ⟨⟨(by rintro ⟨_, ⟨⟩⟩), fun h => by omega⟩, fun due delay => ⟨?_, ?_⟩⟩
    · rintro ⟨⟩
      exact ⟨hbudget, hfits, rfl, Instant.add?_eq_some_iff.mp hnext⟩
    · rintro ⟨-, -, rfl, hafter⟩
      rw [Instant.add?_of_after hafter] at hnext
      rw [Option.some.inj hnext]
  · rw [hdecide]
    refine ⟨⟨(by rintro ⟨_, ⟨⟩⟩), fun h => by omega⟩, fun due delay => ⟨(by rintro ⟨⟩), ?_⟩⟩
    rintro ⟨-, -, -, hafter⟩
    rw [Instant.add?_of_after hafter] at hnone
    cases hnone

/-- A policy whose first wait, were it not cut, would be the longest there is. -/
def impatient : Policy :=
  { baseDelay := .longest, maxDelay := .ofSeconds 60 }

/-- Its fifth wait is a minute, though the product stops at the longest duration long before; from
the middle of a leap second on it leads to the middle of a second. -/
theorem backoff_exact_impatient : impatient.jitter ≤ 0 ∧ ∃ t due : Instant,
    t.seconds = 1483228799 ∧ t.nanos = 1500000000
    ∧ due.seconds = 1483228859 ∧ due.nanos = 500000000
    ∧ impatient.decide id 4 t = .ok (.retry due (.ofSeconds 60)) := by
  have hjitter : impatient.jitter ≤ 0 := by decide +kernel
  obtain ⟨wait, -, hnanos, -, -, hdecide⟩ := backoff_exact hjitter
  have hwait : wait 4 = .ofSeconds 60 := Duration.ext' ((hnanos 4).trans (by decide))
  let t : Instant := ⟨1483228799, 1500000000, by decide, by decide, by decide⟩
  let due : Instant := ⟨1483228859, 500000000, by decide, by decide, by decide⟩
  have hafter : t.After (.ofSeconds 60) due :=
    .beyond (fun _ => by decide) (by decide) (by decide)
  refine ⟨hjitter, t, due, rfl, rfl, rfl, rfl, ((hdecide id 4 t).2 due _).mpr ?_⟩
  rw [hwait]
  exact ⟨by decide, by decide, rfl, hafter⟩

end Retry.Policy

-- ---------------------------------------------------------------------------
-- Policies of valid settings
-- ---------------------------------------------------------------------------

namespace Settings

variable {s : Settings} {draw : Float → Float} {n : UInt32} {failedAt : Instant}

/-- The wait after so many attempts, in milliseconds. -/
def waitMillis (s : Settings) (n : Nat) : Nat :=
  min (s.retryBaseDelayMs.toNat * Nat.pow 2 (min n 31)) s.retryMaxDelayMs.toNat

/-- Settings are in milliseconds. -/
theorem nanos_retry (s : Settings) (n : Nat) :
    (s.retry.plainDelay n).nanos = s.waitMillis n * 1000000 := by
  rw [Retry.Policy.nanos_plainDelay, waitMillis, ← Nat.mul_min_mul_right, Nat.mul_right_comm]
  rfl

/-- The waits of some settings are no shorter than the first. -/
theorem waitMillis_zero_le (s : Settings) (n : Nat) :
    min s.retryBaseDelayMs.toNat s.retryMaxDelayMs.toNat ≤ s.waitMillis n := by
  have hpow : 0 < Nat.pow 2 (min n 31) := Nat.pow_pos (by decide)
  have hmul := Nat.le_mul_of_pos_right s.retryBaseDelayMs.toNat hpow
  rw [waitMillis]
  omega

/-- Settings that can be run with allow for an attempt. -/
theorem maxAttempts_pos (hvalid : s.problem? = none) : 0 < s.maxAttempts.toNat := by
  have hchecks : s.checks.find? (·.1) = none := Option.map_eq_none_iff.mp hvalid
  have hattempts := List.find?_eq_none.mp hchecks (s.maxAttempts = 0, .noAttempts)
    (by simp [checks])
  rw [Nat.pos_iff_ne_zero]
  intro hzero
  exact hattempts (decide_eq_true (UInt32.toNat_inj.mp hzero))

/-- The policy of some settings comes to a decision if the budget is spent, or the wait is too long
to be added, or it ends before the calendar does. -/
theorem decision_iff (hjitter : s.retryJitterFactor ≤ 0) (draw : Float → Float) (n : UInt32)
    (failedAt : Instant) :
    (∃ decision, s.retry.decide draw n.toNat failedAt = .ok decision)
      ↔ s.maxAttempts ≤ n ∨ Retry.longestDelayMillis < s.waitMillis n.toNat
        ∨ failedAt.unixNanos + s.waitMillis n.toNat * 1000000
          < (Instant.lastSecond + 1) * 1000000000 := by
  -- whether there is an instant so much later is a matter of nanoseconds
  have hroom := Instant.exists_add?_iff (t := failedAt) (d := s.retry.plainDelay n.toNat)
  have hwait := s.nanos_retry n.toNat
  have hbudget : s.maxAttempts ≤ n ↔ s.retry.maxAttempts.toNat ≤ n.toNat := UInt32.le_iff_toNat_le
  rw [hbudget]
  rw [hwait, Int.natCast_mul] at hroom
  rcases Retry.Policy.decide_cases (p := s.retry) hjitter draw n.toNat failedAt with
    ⟨hspent, hdecide⟩ | ⟨-, hlong, hdecide⟩
    | ⟨hleft, hfits, ⟨due, hdue, hdecide⟩ | ⟨hnone, hdecide⟩⟩
  · exact ⟨fun _ => .inl hspent, fun _ => ⟨_, hdecide⟩⟩
  · rw [hwait] at hlong
    exact ⟨fun _ => .inr (.inl (Nat.lt_of_mul_lt_mul_right hlong)), fun _ => ⟨_, hdecide⟩⟩
  · exact ⟨fun _ => .inr (.inr (hroom.mp ⟨due, hdue⟩)), fun _ => ⟨_, hdecide⟩⟩
  · rw [hdecide]
    refine ⟨(by rintro ⟨_, ⟨⟩⟩), ?_⟩
    rintro (hspent | hlong | hends)
    · exact absurd hspent (Nat.not_le.mpr hleft)
    · rw [hwait] at hfits
      exact absurd (Nat.le_of_mul_le_mul_right hfits (by decide)) (Nat.not_le.mpr hlong)
    · obtain ⟨due, hdue⟩ := hroom.mpr hends
      rw [hnone] at hdue
      cases hdue

/-- Without jitter the only fault is a time beyond the last instant. -/
theorem fault_of_undecided (hjitter : s.retryJitterFactor ≤ 0) {fault : Retry.Fault}
    (h : s.retry.decide draw n.toNat failedAt = .error fault) : fault = .beyondLastInstant := by
  rcases Retry.Policy.decide_cases (p := s.retry) hjitter draw n.toNat failedAt with
    ⟨-, hdecide⟩ | ⟨-, -, hdecide⟩ | ⟨-, -, ⟨_, -, hdecide⟩ | ⟨-, hdecide⟩⟩
  all_goals rw [hdecide] at h
  · cases h
  · cases h
  · cases h
  · exact (Except.error.inj h).symm

/-- Settings without a wait, or with none that is short enough to be added, always come to a
decision; with all others there is none about a failure at the last instant. -/
theorem always_decided_iff (hvalid : s.problem? = none) (hjitter : s.retryJitterFactor ≤ 0) :
    (∀ draw (n : UInt32) failedAt, ∃ decision,
        s.retry.decide draw n.toNat failedAt = .ok decision)
      ↔ s.retryBaseDelayMs = 0 ∨ s.retryMaxDelayMs = 0
        ∨ Retry.longestDelayMillis < min s.retryBaseDelayMs.toNat s.retryMaxDelayMs.toNat := by
  constructor
  · intro hall
    -- the last instant has no room for any wait, however short
    let last : Instant := ⟨Instant.lastSecond, 999999999, by decide, by decide, by decide⟩
    have hfirst : s.waitMillis 0 = min s.retryBaseDelayMs.toNat s.retryMaxDelayMs.toNat := by
      rw [waitMillis]
      exact congrArg (min · _) (Nat.mul_one _)
    have hlast : last.unixNanos + 1 = (Instant.lastSecond + 1) * 1000000000 := by decide
    have hzero : ∀ k : UInt64, k.toNat = 0 → k = 0 := fun k hk => UInt64.toNat_inj.mp hk
    rcases (decision_iff hjitter id 0 last).mp (hall id 0 last) with hspent | hlong | hends
    · have := maxAttempts_pos hvalid
      rw [UInt32.le_iff_toNat_le] at hspent
      exact absurd hspent (Nat.not_le.mpr this)
    · exact .inr (.inr (hfirst ▸ hlong))
    · rw [← hlast, show (0 : UInt32).toNat = 0 from rfl, hfirst] at hends
      rcases Nat.eq_zero_or_pos s.retryBaseDelayMs.toNat with hbase | hbase
      · exact .inl (hzero _ hbase)
      · exact .inr (.inl (hzero _ (by omega)))
  · intro hwaits draw n failedAt
    refine (decision_iff hjitter draw n failedAt).mpr (.inr ?_)
    have hle := failedAt.seconds_le
    have hcases : s.waitMillis n.toNat = 0 ∨ Retry.longestDelayMillis < s.waitMillis n.toNat := by
      rcases hwaits with hbase | hmax | hlong
      · exact .inl (by rw [waitMillis, hbase]; simp)
      · exact .inl (by rw [waitMillis, hmax]; simp)
      · exact .inr (Nat.lt_of_lt_of_le hlong (s.waitMillis_zero_le n.toNat))
    rcases hcases with hnone | hlong
    · rw [hnone, Instant.unixNanos, Instant.lastSecond]
      exact .inr (by omega)
    · exact .inl hlong

/-- The policy of settings without jitter comes to a decision about a failed attempt exactly if the
budget is spent, or the wait is too long to be added, or it ends before the calendar does; otherwise
it is the wait beyond the last instant that is at fault. If the settings can be run with, there are
such failures unless there is no wait at all, or none that is short enough to be added. -/
theorem decision_iff_inRange (hvalid : s.problem? = none) (hjitter : s.retryJitterFactor ≤ 0) :
    (∀ draw (n : UInt32) failedAt,
      ((∃ decision, s.retry.decide draw n.toNat failedAt = .ok decision)
        ↔ s.maxAttempts ≤ n ∨ Retry.longestDelayMillis < s.waitMillis n.toNat
          ∨ failedAt.unixNanos + s.waitMillis n.toNat * 1000000
            < (Instant.lastSecond + 1) * 1000000000)
      ∧ ∀ fault, s.retry.decide draw n.toNat failedAt = .error fault →
        fault = .beyondLastInstant)
    ∧ ((∀ draw (n : UInt32) failedAt, ∃ decision,
        s.retry.decide draw n.toNat failedAt = .ok decision)
      ↔ s.retryBaseDelayMs = 0 ∨ s.retryMaxDelayMs = 0
        ∨ Retry.longestDelayMillis < min s.retryBaseDelayMs.toNat s.retryMaxDelayMs.toNat) :=
  ⟨fun draw n failedAt => ⟨decision_iff hjitter draw n failedAt, fun _ => fault_of_undecided hjitter⟩,
    always_decided_iff hvalid hjitter⟩

/-- The settings that are taken if nothing is said come to a decision about a fifth failure at the
start of Unix time. -/
theorem decision_iff_inRange_default : ({} : Settings).problem? = none
    ∧ ({} : Settings).retryJitterFactor ≤ 0
    ∧ ∃ decision, ({} : Settings).retry.decide id 4 .epoch = .ok decision := by
  have hvalid : ({} : Settings).problem? = none := by decide +kernel
  have hjitter : ({} : Settings).retryJitterFactor ≤ 0 := by decide +kernel
  refine ⟨hvalid, hjitter, ?_⟩
  exact (((decision_iff_inRange hvalid hjitter).1 id 4 .epoch).1).mpr
    (.inr (.inr (by decide)))

/-- Settings with the longest wait that can be added. -/
def longestWait : Settings :=
  { retryBaseDelayMs := 9223372036854775807, retryMaxDelayMs := 9223372036854775807 }

/-- These settings can be run with, and still their policy comes to no decision about a first failure
at the start of Unix time. -/
theorem decision_missing : ¬ ∀ s : Settings, s.problem? = none → s.retryJitterFactor = 0 →
    ∀ (draw : Float → Float) (n : UInt32) (failedAt : Instant),
      ∃ decision, s.retry.decide draw n.toNat failedAt = .ok decision := by
  intro hall
  have hdecided := hall longestWait (by decide +kernel) rfl id 0 .epoch
  have hjitter : longestWait.retryJitterFactor ≤ 0 := by decide +kernel
  rcases (decision_iff hjitter id 0 .epoch).mp hdecided with hspent | hlong | hends
  · revert hspent
    decide
  · revert hlong
    decide
  · revert hends
    decide

end Settings

end WebhookDelivery
