import WebhookDelivery.Instant

/-!
# Retries

Each failed attempt doubles the wait before the next, up to a longest one, until the budget of
attempts is spent. The wait may be jittered: an offset drawn from a range around zero is added, in
floating-point seconds.
-/

namespace WebhookDelivery

namespace Retry

/-- How often and after which waits a message is tried again (`RetryPolicy`). -/
structure Policy where
  /-- Failed attempts after which a message is given up. -/
  maxAttempts : UInt32 := 5
  baseDelay : Duration := .ofSeconds 1
  maxDelay : Duration := .ofSeconds 3600
  /-- Share of the wait by which it may vary; none at or below zero. -/
  jitter : Float := 0
  deriving Inhabited

/-- Why a message is given up: the `reason` of `RetryDecision`, as far as `decide` has reasons. -/
inductive GiveUp where
  | budgetSpent (maxAttempts : UInt32)
  | delayOutOfRange
  deriving DecidableEq, Repr

/-- The reason in words. -/
def GiveUp.text : GiveUp → String
  | budgetSpent n => "maximum attempts (" ++ toString n.toNat ++ ") exceeded"
  | delayOutOfRange => "retry delay duration out of range"

/-- What becomes of a message after a failed attempt (`RetryDecision`). -/
inductive Decision where
  | retry (next : Instant) (delay : Duration)
  | giveUp (reason : GiveUp)
  deriving DecidableEq, Repr

/-- Why a decision cannot be reached. Here `decide` and `backoff_delay` panic. -/
inductive Fault where
  /-- The range to draw the offset from is not a range of numbers. -/
  | jitterNotANumber
  /-- The jittered wait is longer than any duration. -/
  | delayOverflow
  /-- The wait leads beyond the last instant. -/
  | beyondLastInstant
  deriving DecidableEq, Repr

/-- The longest wait that `decide` takes for a time difference at all: 2⁶³ − 1 milliseconds. -/
def longestDelayMillis : Nat := 9223372036854775807

namespace Policy

/-- The wait after so many earlier attempts, before jitter (`backoff_delay`): the base doubled for
each, at most thirty-one times, and cut at the longest wait. -/
def plainDelay (p : Policy) (attempts : Nat) : Duration :=
  (p.baseDelay.mulSaturating (Nat.pow 2 (min attempts 31))).min p.maxDelay

/-- Half the width of the range that the offset is drawn from. -/
def jitterRange (p : Policy) (delay : Duration) : Float :=
  let share := if 1 < p.jitter then 1 else p.jitter
  delay.toFloat * share

/-- A wait with an offset drawn from its range (`apply_jitter`). -/
def addJitter (p : Policy) (draw : Float → Float) (delay : Duration) : Except Fault Duration :=
  if p.jitter ≤ 0 then .ok delay
  else
    let range := p.jitterRange delay
    if range.isNaN then .error .jitterNotANumber
    else
      let seconds := delay.toFloat + draw range
      match Duration.ofFloat? (if seconds < 0 then 0 else seconds) with
      | some jittered => .ok jittered
      | none => .error .delayOverflow

/-- The wait before the next attempt (`backoff_delay`). Jitter never takes it beyond the longest
wait. -/
def delay (p : Policy) (draw : Float → Float) (attempts : Nat) : Except Fault Duration :=
  (p.addJitter draw (p.plainDelay attempts)).map (·.min p.maxDelay)

/-- The fate of a message that has just failed after so many earlier attempts (`decide`). The sum of
the failure's time and the wait is not checked: beyond the last instant there is no decision. -/
def decide (p : Policy) (draw : Float → Float) (attempts : Nat) (failedAt : Instant) :
    Except Fault Decision :=
  if p.maxAttempts.toNat ≤ attempts then .ok (.giveUp (.budgetSpent p.maxAttempts))
  else
    match p.delay draw attempts with
    | .error fault => .error fault
    | .ok delay =>
      if longestDelayMillis * 1000000 < delay.nanos then .ok (.giveUp .delayOutOfRange)
      else match failedAt.add? delay with
        | some next => .ok (.retry next delay)
        | none => .error .beyondLastInstant

end Policy

end Retry

end WebhookDelivery
