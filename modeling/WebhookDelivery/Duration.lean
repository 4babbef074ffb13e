import WebhookDelivery.Text.Decimal

/-!
# Durations

A span of time of unsigned 64-bit seconds and nanoseconds. It is held as the total number of
nanoseconds, bounded in the type, so that order and arithmetic are those of the natural numbers;
operations that would leave the range say so or stay at its end.

Jitter passes a duration through floating-point seconds and back. The way back is exact integer
arithmetic on the bits of the float: the nearest nanosecond, a tie going to the even one.
-/

namespace WebhookDelivery

/-- A span of time below 2⁶⁴ seconds. -/
structure Duration where
  /-- The whole span in nanoseconds. -/
  nanos : Nat
  nanos_lt : nanos < 18446744073709551616000000000
  deriving DecidableEq, Repr

namespace Duration

instance : Inhabited Duration := ⟨⟨0, by decide⟩⟩

@[ext] theorem ext' {a b : Duration} (h : a.nanos = b.nanos) : a = b := by
  cases a; cases b; simp_all

-- ---------------------------------------------------------------------------
-- Construction
-- ---------------------------------------------------------------------------

/-- No time at all. -/
def zero : Duration := ⟨0, by decide⟩

/-- The longest span. -/
def longest : Duration := ⟨18446744073709551615999999999, by decide⟩

/-- A span of so many nanoseconds, if it fits. -/
def ofNanos? (n : Nat) : Option Duration :=
  if h : n < 18446744073709551616000000000 then some ⟨n, h⟩ else none

/-- A span of so many nanoseconds, or the longest one. -/
def ofNanosSaturating (n : Nat) : Duration :=
  if h : n < 18446744073709551616000000000 then ⟨n, h⟩ else longest

/-- Whole seconds. -/
def ofSeconds (s : UInt64) : Duration :=
  ⟨s.toNat * 1000000000, Nat.mul_lt_mul_of_pos_right s.toNat_lt (by decide)⟩

/-- Whole milliseconds. -/
def ofMillis (ms : UInt64) : Duration :=
  ⟨ms.toNat * 1000000, by have := ms.toNat_lt; omega⟩

-- ---------------------------------------------------------------------------
-- Parts
-- ---------------------------------------------------------------------------

/-- Whole seconds of the span. -/
def seconds (d : Duration) : Nat := d.nanos / 1000000000

/-- Nanoseconds beyond the whole seconds. -/
def subsecNanos (d : Duration) : Nat := d.nanos % 1000000000

/-- Whole milliseconds of the span. -/
def millis (d : Duration) : Nat := d.nanos / 1000000

-- ---------------------------------------------------------------------------
-- Order and arithmetic
-- ---------------------------------------------------------------------------

instance : LE Duration := ⟨fun a b => a.nanos ≤ b.nanos⟩

instance (a b : Duration) : Decidable (a ≤ b) := inferInstanceAs (Decidable (a.nanos ≤ b.nanos))

/-- The shorter of two spans. -/
protected def min (a b : Duration) : Duration :=
  if a.nanos ≤ b.nanos then a else b

theorem nanos_min (a b : Duration) : (a.min b).nanos = min a.nanos b.nanos := by
  unfold Duration.min
  split <;> omega

/-- The sum, if it is in range. -/
def add? (a b : Duration) : Option Duration :=
  ofNanos? (a.nanos + b.nanos)

/-- The product with a count, or the longest span. -/
def mulSaturating (a : Duration) (n : Nat) : Duration :=
  ofNanosSaturating (a.nanos * n)

theorem nanos_mulSaturating (a : Duration) (n : Nat) :
    (a.mulSaturating n).nanos = min (a.nanos * n) longest.nanos := by
  unfold mulSaturating ofNanosSaturating
  split <;> simp only [longest] <;> omega

-- ---------------------------------------------------------------------------
-- Floating-point seconds
-- ---------------------------------------------------------------------------

/-- The span in seconds: whole seconds plus the rest divided by a milliard, each step rounded. -/
def toFloat (d : Duration) : Float :=
  (UInt64.ofNat d.seconds).toFloat + (UInt64.ofNat d.subsecNanos).toFloat / 1000000000

/-- The quotient rounded to the nearest whole number, a tie going to the even one. -/
def roundHalfEven (num den : Nat) : Nat :=
  let q := num / den
  let r := num % den
  if 2 * r < den then q
  else if 2 * r = den then q + q % 2
  else q + 1

/-- The nearest span to a number of seconds; `none` for what is negative, too large, infinite or
not a number. -/
def ofFloat? (x : Float) : Option Duration :=
  let bits := x.toBits.toNat
  let exponent := bits / 4503599627370496 % 2048
  let fraction := bits % 4503599627370496
  if exponent = 2047 then none
  else if x < 0 then none
  else
    let mantissa := if exponent = 0 then fraction else fraction + 4503599627370496
    let scale := max exponent 1
    -- the value is mantissa · 2 ^ (scale - 1075)
    if 1139 < scale then none
    else if 1075 ≤ scale then ofNanos? (mantissa * Nat.pow 2 (scale - 1075) * 1000000000)
    else ofNanos? (roundHalfEven (mantissa * 1000000000) (Nat.pow 2 (1075 - scale)))

-- ---------------------------------------------------------------------------
-- Text
-- ---------------------------------------------------------------------------

/-- A whole part and a fraction of so many digits, without trailing zeros. -/
def decimalText (whole fraction digits : Nat) : String :=
  match Decimal.trimZeros (Decimal.lowDigits digits fraction) with
  | [] => toString whole
  | shown => toString whole ++ "." ++ String.ofList shown

/-- The span in the largest unit of s, ms, µs and ns in which it is at least one. -/
def text (d : Duration) : String :=
  if 1000000000 ≤ d.nanos then decimalText d.seconds d.subsecNanos 9 ++ "s"
  else if 1000000 ≤ d.nanos then decimalText (d.nanos / 1000000) (d.nanos % 1000000) 6 ++ "ms"
  else if 1000 ≤ d.nanos then decimalText (d.nanos / 1000) (d.nanos % 1000) 3 ++ "µs"
  else toString d.nanos ++ "ns"

end Duration

end WebhookDelivery
