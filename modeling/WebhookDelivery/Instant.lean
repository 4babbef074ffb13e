import WebhookDelivery.Duration

/-!
# Instants

A point of UTC time to the nanosecond, within the years −262143 to 262142. A leap second is a second
whose fraction goes beyond one second; it lies after the whole of that second and before the next
one. Leap seconds are announced for the second 59 of a minute only, but nothing here asks for that:
a `DateTime<Utc>` takes such a fraction in any second (`with_nanosecond`).
-/

namespace WebhookDelivery

/-- A point of UTC time (`DateTime<Utc>`). -/
structure Instant where
  /-- Whole seconds since the Unix epoch, leap seconds not counted. -/
  seconds : Int
  /-- Nanoseconds into the second; from 10⁹ on they lie in a leap second. -/
  nanos : Nat
  seconds_ge : -8334601228800 ≤ seconds
  seconds_le : seconds ≤ 8210266876799
  nanos_lt : nanos < 2000000000
  deriving DecidableEq, Repr

namespace Instant

@[ext] theorem ext' {a b : Instant} (hs : a.seconds = b.seconds) (hn : a.nanos = b.nanos) : a = b := by
  cases a; cases b; simp_all

/-- The last second of the last year. -/
def lastSecond : Int := 8210266876799

/-- The start of Unix time. -/
def epoch : Instant :=
  ⟨0, 0, by decide, by decide, by decide⟩

instance : Inhabited Instant := ⟨epoch⟩

/-- An instant from its parts, if there is one. -/
def of? (seconds : Int) (nanos : Nat) : Option Instant :=
  if h : -8334601228800 ≤ seconds ∧ seconds ≤ 8210266876799 ∧ nanos < 2000000000 then
    some ⟨seconds, nanos, h.1, h.2.1, h.2.2⟩
  else none

/-- An instant is made of its own parts. -/
theorem of?_self (t : Instant) : of? t.seconds t.nanos = some t := by
  rw [of?, dif_pos ⟨t.seconds_ge, t.seconds_le, t.nanos_lt⟩]

-- ---------------------------------------------------------------------------
-- Order
-- ---------------------------------------------------------------------------

instance : LE Instant :=
  ⟨fun a b => a.seconds < b.seconds ∨ (a.seconds = b.seconds ∧ a.nanos ≤ b.nanos)⟩

instance (a b : Instant) : Decidable (a ≤ b) :=
  inferInstanceAs (Decidable (a.seconds < b.seconds ∨ (a.seconds = b.seconds ∧ a.nanos ≤ b.nanos)))

instance : LT Instant :=
  ⟨fun a b => a.seconds < b.seconds ∨ (a.seconds = b.seconds ∧ a.nanos < b.nanos)⟩

instance (a b : Instant) : Decidable (a < b) :=
  inferInstanceAs (Decidable (a.seconds < b.seconds ∨ (a.seconds = b.seconds ∧ a.nanos < b.nanos)))

theorem le_def {a b : Instant} :
    a ≤ b ↔ a.seconds < b.seconds ∨ (a.seconds = b.seconds ∧ a.nanos ≤ b.nanos) := Iff.rfl

theorem lt_def {a b : Instant} :
    a < b ↔ a.seconds < b.seconds ∨ (a.seconds = b.seconds ∧ a.nanos < b.nanos) := Iff.rfl

theorem le_trans {a b c : Instant} (hab : a ≤ b) (hbc : b ≤ c) : a ≤ c := by
  rw [le_def] at hab hbc ⊢
  omega

theorem le_total (a b : Instant) : a ≤ b ∨ b ≤ a := by
  rw [le_def, le_def]
  omega

-- ---------------------------------------------------------------------------
-- Later instants
-- ---------------------------------------------------------------------------

/-- The instant a span later; `none` beyond the last year. A leap second is left as soon as the
span reaches its end, and counts as no time once left. -/
def add? (t : Instant) (d : Duration) : Option Instant :=
  if 1000000000 ≤ t.nanos ∧ d.seconds = 0 ∧ t.nanos + d.subsecNanos < 2000000000 then
    of? t.seconds (t.nanos + d.subsecNanos)
  else
    let into := if 1000000000 ≤ t.nanos then t.nanos - 1000000000 else t.nanos
    let total := into + d.subsecNanos
    of? (t.seconds + d.seconds + (total / 1000000000 : Nat)) (total % 1000000000)

end Instant

end WebhookDelivery
