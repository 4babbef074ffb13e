import WebhookDelivery.Instant

/-!
# Manual clocks

A clock with two readings that is moved by hand: the time elapsed since it was made, which never
goes back, and the wall time, which may be set. The wall reading reaches much further than UTC
instants do, so turning it into one can fail.
-/

namespace WebhookDelivery

-- ---------------------------------------------------------------------------
-- Wall time
-- ---------------------------------------------------------------------------

/-- A reading of a wall clock (`SystemTime`): nanoseconds since the Unix epoch, with whole seconds
that fit a signed 64-bit word. -/
structure WallTime where
  nanos : Int
  nanos_ge : -9223372036854775808000000000 ≤ nanos
  nanos_lt : nanos < 9223372036854775808000000000
  deriving DecidableEq, Repr

namespace WallTime

/-- A reading, if it is in range. -/
def of? (nanos : Int) : Option WallTime :=
  if h : -9223372036854775808000000000 ≤ nanos ∧ nanos < 9223372036854775808000000000 then
    some ⟨nanos, h.1, h.2⟩
  else none

/-- So many seconds after the Unix epoch, if that is in range (`from_unix`). -/
def ofUnix? (seconds : Nat) : Option WallTime :=
  of? (seconds * 1000000000)

/-- The reading of a clock that shows UTC; a leap second reads as the second after it
(`starting_at`). -/
def ofInstant (t : Instant) : WallTime :=
  ⟨t.seconds * 1000000000 + t.nanos, by have := t.seconds_ge; omega, by
    have := t.seconds_le; have := t.nanos_lt; omega⟩

/-- The reading as a UTC instant, if its year is within the calendar's range. -/
def utc? (w : WallTime) : Option Instant :=
  Instant.of? (w.nanos / 1000000000) (w.nanos % 1000000000).toNat

end WallTime

-- ---------------------------------------------------------------------------
-- The clock
-- ---------------------------------------------------------------------------

/-- A clock that is moved by hand (`TestClock`). -/
structure Clock where
  /-- The machine's own monotonic reading when the clock was made. -/
  origin : Duration
  elapsed : Duration
  wall : WallTime
  deriving DecidableEq, Repr

namespace Clock

/-- A clock that has not moved yet (`with_start_time`). -/
def start (origin : Duration) (wall : WallTime) : Clock :=
  ⟨origin, .zero, wall⟩

/-- Moves both readings forward (`advance`). If one leaves its range the move breaks off there, with
the clock as it then stands: the elapsed time moves first. -/
def advance (c : Clock) (d : Duration) : Except Clock Clock :=
  match c.elapsed.add? d with
  | none => .error c
  | some elapsed =>
    let moved := { c with elapsed }
    match WallTime.of? (c.wall.nanos + d.nanos) with
    | none => .error moved
    | some wall => .ok { moved with wall }

/-- Sets the wall reading (`jump_to`). The elapsed time takes up a move forward and ignores a move
back. -/
def jumpTo (c : Clock) (wall : WallTime) : Except Clock Clock :=
  match c.elapsed.add? (.ofNanosSaturating (wall.nanos - c.wall.nanos).toNat) with
  | none => .error c
  | some elapsed => .ok { c with elapsed, wall }

/-- The UTC instant that the clock shows, if there is one (`now_utc`). -/
def utc? (c : Clock) : Option Instant :=
  c.wall.utc?

/-- The Unix second that the clock shows, if it shows an instant (`unix_timestamp`). -/
def unix? (c : Clock) : Option Int :=
  c.utc?.map (·.seconds)

/-- The time since the clock was made, if the machine's monotonic reading can hold it (`now`). -/
def monotonic? (c : Clock) : Option Duration :=
  if c.origin.nanos + c.elapsed.nanos < 9223372036854775808000000000 then some c.elapsed else none

end Clock

end WebhookDelivery
