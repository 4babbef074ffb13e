import WebhookDelivery.Clock

/-!
# The two readings of a clock and its clones

A clock that is moved by hand may be cloned. A clone keeps the origin and has the two readings in
common with the clock, so that a call on one of them is seen through all. A call that would move a
reading out of its range breaks off, and the clocks can be used on.

A jump moves one reading that can leave its range, and moves it first. A move forward has two of
them, one after the other: where the elapsed time has room for the move and the wall time has not,
the call breaks off in between, and the readings have come apart.

* `Clock.Move.apply_of_shown`, `apply_of_no_room`, `apply_of_not_shown` — how one call ends.
* `Clock.Clones.event_cases` — what one call does to the readings that the clones have in common.
* `Clock.Clones.readings_together_or_torn` — any number of calls on a clock and its clones.
* `Clock.Clones.torn_in_advance` — a call that breaks off in between.
-/

namespace WebhookDelivery.Clock

-- ---------------------------------------------------------------------------
-- One call on one clock
-- ---------------------------------------------------------------------------

/-- A call that moves a clock. -/
inductive Move where
  | advance (d : Duration)
  | sleep (d : Duration)
  | jumpTo (wall : WallTime)
  deriving DecidableEq, Repr

namespace Move

/-- A clock after a call, or as it stands where the call breaks off. A clock that is moved by hand
sleeps by moving forward. -/
def apply (c : Clock) : Move → Except Clock Clock
  | advance d => c.advance d
  | sleep d => c.advance d
  | jumpTo wall => c.jumpTo wall

/-- How far a call is to move the elapsed time, in nanoseconds, where the clock shows this wall
time: a jump moves it by the distance forward and, going back, not at all. -/
def passes (wall : WallTime) : Move → Nat
  | advance d => d.nanos
  | sleep d => d.nanos
  | jumpTo target => (target.nanos - wall.nanos).toNat

/-- What a call is to set the wall time to. -/
def shows (wall : WallTime) : Move → Int
  | advance d => wall.nanos + d.nanos
  | sleep d => wall.nanos + d.nanos
  | jumpTo target => target.nanos

/-- Whether the elapsed time has room for a call. -/
def HasRoom (elapsed : Duration) (wall : WallTime) (m : Move) : Prop :=
  elapsed.nanos + m.passes wall < 18446744073709551616000000000

/-- Whether the wall time can show what a call is to set it to. -/
def IsShown (wall : WallTime) (m : Move) : Prop :=
  m.shows wall < 9223372036854775808000000000

instance (elapsed : Duration) (wall : WallTime) (m : Move) : Decidable (m.HasRoom elapsed wall) :=
  inferInstanceAs (Decidable (_ < _))

instance (wall : WallTime) (m : Move) : Decidable (m.IsShown wall) :=
  inferInstanceAs (Decidable (_ < _))

variable {c : Clock} {m : Move}

theorem add?_of_room {a b : Duration} (h : a.nanos + b.nanos < 18446744073709551616000000000) :
    a.add? b = some ⟨a.nanos + b.nanos, h⟩ :=
  dif_pos h

theorem add?_of_no_room {a b : Duration}
    (h : ¬ a.nanos + b.nanos < 18446744073709551616000000000) : a.add? b = none :=
  dif_neg h

/-- The distance between two wall times is a duration. -/
theorem nanos_distance (a b : WallTime) :
    (Duration.ofNanosSaturating (a.nanos - b.nanos).toNat).nanos = (a.nanos - b.nanos).toNat := by
  have hb := b.nanos_ge
  have ha := a.nanos_lt
  rw [Duration.ofNanosSaturating, dif_pos (by omega)]

/-- A jump can show where it goes. -/
theorem isShown_jumpTo (wall target : WallTime) : (jumpTo target).IsShown wall :=
  target.nanos_lt

/-- Forward there is always a wall time, up to the last one. -/
theorem of?_of_shown {wall : WallTime} {d : Duration}
    (h : wall.nanos + d.nanos < 9223372036854775808000000000) :
    ∃ later, WallTime.of? (wall.nanos + d.nanos) = some later
      ∧ later.nanos = wall.nanos + d.nanos := by
  have hge := wall.nanos_ge
  exact ⟨⟨wall.nanos + d.nanos, by omega, h⟩, dif_pos ⟨by omega, h⟩, rfl⟩

/-- A clock after a call that moved both readings. -/
structure Moved (m : Move) (c c' : Clock) : Prop where
  origin : c'.origin = c.origin
  elapsed : c'.elapsed.nanos = c.elapsed.nanos + m.passes c.wall
  wall : c'.wall.nanos = m.shows c.wall

/-- An advance with room on both sides moves both readings. -/
theorem exists_advance {d : Duration} (hroom : (advance d).HasRoom c.elapsed c.wall)
    (hshown : (advance d).IsShown c.wall) :
    ∃ c', c.advance d = .ok c' ∧ (advance d).Moved c c' := by
  obtain ⟨later, hlater, hnanos⟩ := of?_of_shown hshown
  refine ⟨⟨c.origin, ⟨c.elapsed.nanos + d.nanos, hroom⟩, later⟩, ?_, rfl, rfl, hnanos⟩
  rw [Clock.advance, add?_of_room hroom, hlater]

/-- A call comes back where both readings stay in their range, and has moved both. -/
theorem apply_of_shown (hroom : m.HasRoom c.elapsed c.wall) (hshown : m.IsShown c.wall) :
    ∃ c', m.apply c = .ok c' ∧ m.Moved c c' := by
  cases m with
  | advance d => exact exists_advance hroom hshown
  | sleep d =>
    obtain ⟨c', happly, horigin, helapsed, hwall⟩ := exists_advance (d := d) hroom hshown
    exact ⟨c', happly, horigin, helapsed, hwall⟩
  | jumpTo wall =>
    -- a jump adds its distance to `elapsed`, which is what has to fit
    have hdistance := nanos_distance wall c.wall
    have hfits : c.elapsed.nanos
          + (Duration.ofNanosSaturating (wall.nanos - c.wall.nanos).toNat).nanos
        < 18446744073709551616000000000 := by
      rw [hdistance]
      exact hroom
    refine ⟨⟨c.origin, ⟨_, hfits⟩, wall⟩, ?_, rfl, congrArg (c.elapsed.nanos + ·) hdistance, rfl⟩
    rw [apply, Clock.jumpTo, add?_of_room hfits]

/-- A call breaks off at once where the elapsed time has no room for it. -/
theorem apply_of_no_room (hroom : ¬ m.HasRoom c.elapsed c.wall) : m.apply c = .error c := by
  cases m with
  | advance d => rw [apply, Clock.advance, add?_of_no_room hroom]
  | sleep d => rw [apply, Clock.advance, add?_of_no_room hroom]
  | jumpTo wall =>
    have hfits : ¬ c.elapsed.nanos
        + (Duration.ofNanosSaturating (wall.nanos - c.wall.nanos).toNat).nanos
        < 18446744073709551616000000000 := by
      rw [nanos_distance]
      exact hroom
    rw [apply, Clock.jumpTo, add?_of_no_room hfits]

/-- A clock after a call that broke off in between: the elapsed time is moved, the wall time is
not. -/
structure Torn (m : Move) (c c' : Clock) : Prop where
  origin : c'.origin = c.origin
  elapsed : c'.elapsed.nanos = c.elapsed.nanos + m.passes c.wall
  passes_pos : 0 < m.passes c.wall
  wall : c'.wall = c.wall

/-- An advance that the wall clock has no room for moves `elapsed` alone, and fails. -/
theorem exists_torn_advance {d : Duration} (hroom : (advance d).HasRoom c.elapsed c.wall)
    (hshown : ¬ (advance d).IsShown c.wall) :
    ∃ c', c.advance d = .error c' ∧ (advance d).Torn c c' := by
  have hnone : WallTime.of? (c.wall.nanos + d.nanos) = none := dif_neg fun h => hshown h.2
  have hpos : 0 < d.nanos := by
    have hlt := c.wall.nanos_lt
    simp only [IsShown, shows] at hshown
    omega
  refine ⟨⟨c.origin, ⟨c.elapsed.nanos + d.nanos, hroom⟩, c.wall⟩, ?_, rfl, rfl, hpos, rfl⟩
  rw [Clock.advance, add?_of_room hroom, hnone]

/-- A call breaks off in between where the elapsed time has room for it and the wall time cannot
show it. -/
theorem apply_of_not_shown (hroom : m.HasRoom c.elapsed c.wall) (hshown : ¬ m.IsShown c.wall) :
    ∃ c', m.apply c = .error c' ∧ m.Torn c c' := by
  cases m with
  | advance d => exact exists_torn_advance hroom hshown
  | sleep d =>
    obtain ⟨c', happly, horigin, helapsed, hpos, hwall⟩ :=
      exists_torn_advance (d := d) hroom hshown
    exact ⟨c', happly, horigin, helapsed, hpos, hwall⟩
  | jumpTo wall => exact absurd (isShown_jumpTo c.wall wall) hshown

end Move

-- ---------------------------------------------------------------------------
-- A clock and its clones
-- ---------------------------------------------------------------------------

/-- A clock and its clones: an origin for each, and the readings that they have in common. -/
structure Clones where
  origins : List Duration
  elapsed : Duration
  wall : WallTime
  deriving DecidableEq, Repr

/-- What is done with a clock, by its number among the clones. -/
inductive Use where
  | clone (i : Nat)
  | move (i : Nat) (m : Move)
  deriving DecidableEq, Repr

/-- A use of a clock: the clocks before and after it, and whether the call came back. -/
structure Event where
  use : Use
  before : Clones
  after : Clones
  returned : Bool
  deriving DecidableEq, Repr

namespace Clones

/-- A clock without clones. -/
def alone (c : Clock) : Clones :=
  ⟨[c.origin], c.elapsed, c.wall⟩

/-- What the clock of a number is, if there is one. -/
def clock? (cs : Clones) (i : Nat) : Option Clock :=
  cs.origins[i]?.map fun origin => ⟨origin, cs.elapsed, cs.wall⟩

/-- The clocks after a call on one of them has left it so. -/
def showing (cs : Clones) (c : Clock) : Clones :=
  { cs with elapsed := c.elapsed, wall := c.wall }

/-- A call that has ended: it came back, or it broke off and nothing was undone. -/
def ended (cs : Clones) (u : Use) : Except Clock Clock → Event
  | .ok c => ⟨u, cs, cs.showing c, true⟩
  | .error c => ⟨u, cs, cs.showing c, false⟩

/-- A use of the clock of a number, if there is one. -/
def event? (cs : Clones) : Use → Option Event
  | .clone i =>
    (cs.clock? i).map fun c =>
      ⟨.clone i, cs, { cs with origins := cs.origins ++ [c.origin] }, true⟩
  | .move i m => (cs.clock? i).map fun c => cs.ended (.move i m) (m.apply c)

/-- Uses one after the other; a clock that is not there is not used. -/
def events (cs : Clones) : List Use → List Event
  | [] => []
  | u :: rest =>
    match cs.event? u with
    | none => cs.events rest
    | some e => e :: e.after.events rest

end Clones

namespace Event

/-- What a use should do: a clone shows what the clock shows, and a call moves both readings or,
where one of them would leave its range, breaks off and leaves the clocks as they were. -/
inductive Lawful : Event → Prop where
  | cloned {i : Nat} {before : Clones} {c : Clock} (hclock : before.clock? i = some c) :
    Lawful ⟨.clone i, before, { before with origins := before.origins ++ [c.origin] }, true⟩
  | moved {i : Nat} {m : Move} {before after : Clones}
    (hroom : m.HasRoom before.elapsed before.wall) (hshown : m.IsShown before.wall)
    (horigins : after.origins = before.origins)
    (helapsed : after.elapsed.nanos = before.elapsed.nanos + m.passes before.wall)
    (hwall : after.wall.nanos = m.shows before.wall) :
    Lawful ⟨.move i m, before, after, true⟩
  | declined {i : Nat} {m : Move} {before : Clones}
    (hleaves : ¬ (m.HasRoom before.elapsed before.wall ∧ m.IsShown before.wall)) :
    Lawful ⟨.move i m, before, before, false⟩

/-- A call for which the elapsed time has room, and which the wall time cannot show. -/
def Overruns (e : Event) : Prop :=
  ∃ i m, e.use = .move i m ∧ m.HasRoom e.before.elapsed e.before.wall ∧ ¬ m.IsShown e.before.wall

/-- What such a call does: it breaks off with the elapsed time moved on and the wall time as it
was. -/
inductive Torn : Event → Prop where
  | midway {i : Nat} {m : Move} {before after : Clones} (horigins : after.origins = before.origins)
    (helapsed : after.elapsed.nanos = before.elapsed.nanos + m.passes before.wall)
    (hpasses : 0 < m.passes before.wall) (hwall : after.wall = before.wall) :
    Torn ⟨.move i m, before, after, false⟩

/-- The elapsed time is not moved back. -/
def Onward (e : Event) : Prop :=
  e.before.elapsed ≤ e.after.elapsed

variable {e : Event}

/-- Readings that have come apart are not what a call should leave. -/
theorem Torn.not_lawful (h : e.Torn) : ¬ e.Lawful := by
  intro hlawful
  cases h with
  | midway _ helapsed hpasses _ =>
    cases hlawful with
    | declined => omega

end Event

-- ---------------------------------------------------------------------------
-- One use
-- ---------------------------------------------------------------------------

namespace Clones

variable {cs : Clones} {u : Use} {e : Event} {c : Clock} {i : Nat} {m : Move}

/-- How a use ends: as it should, or torn, and torn exactly where the call overruns. -/
theorem event_cases (h : cs.event? u = some e) :
    (e.Lawful ∧ ¬ e.Overruns) ∨ (e.Torn ∧ e.Overruns) := by
  cases u with
  | clone i =>
    obtain ⟨c, hclock, rfl⟩ := Option.map_eq_some_iff.mp h
    refine .inl ⟨.cloned hclock, ?_⟩
    rintro ⟨i', m, huse, -⟩
    cases huse
  | move i m =>
    obtain ⟨c, hclock, rfl⟩ := Option.map_eq_some_iff.mp h
    -- What the clock shows are the readings in common.
    obtain ⟨origin, -, rfl⟩ := Option.map_eq_some_iff.mp hclock
    -- torn are only moves with room for `elapsed` and none for the wall
    by_cases hroom : m.HasRoom cs.elapsed cs.wall
    · by_cases hshown : m.IsShown cs.wall
      · obtain ⟨c', happly, hmoved⟩ := Move.apply_of_shown (c := ⟨origin, cs.elapsed, cs.wall⟩)
          hroom hshown
        rw [happly]
        refine .inl ⟨.moved hroom hshown rfl hmoved.elapsed hmoved.wall, ?_⟩
        rintro ⟨i', m', huse, -, hnot⟩
        cases huse
        exact hnot hshown
      · obtain ⟨c', happly, htorn⟩ := Move.apply_of_not_shown (c := ⟨origin, cs.elapsed, cs.wall⟩)
          hroom hshown
        rw [happly]
        exact .inr ⟨.midway rfl htorn.elapsed htorn.passes_pos htorn.wall,
          i, m, rfl, hroom, hshown⟩
    · rw [Move.apply_of_no_room (c := ⟨origin, cs.elapsed, cs.wall⟩) hroom]
      refine .inl ⟨.declined fun hfits => hroom hfits.1, ?_⟩
      rintro ⟨i', m', huse, hroom', -⟩
      cases huse
      exact hroom hroom'

/-- No use moves the elapsed time back. -/
theorem onward_of_event (h : cs.event? u = some e) : e.Onward := by
  obtain ⟨hlawful, -⟩ | ⟨htorn, -⟩ := event_cases h
  · cases hlawful with
    | cloned => exact Nat.le_refl _
    | moved _ _ _ helapsed _ => exact Nat.le.intro helapsed.symm
    | declined => exact Nat.le_refl _
  · cases htorn with
    | midway _ helapsed _ _ => exact Nat.le.intro helapsed.symm

/-- An event starts from the clones as they were. -/
theorem before_of_event (h : cs.event? u = some e) : e.before = cs := by
  cases u with
  | clone i =>
    obtain ⟨c, -, rfl⟩ := Option.map_eq_some_iff.mp h
    rfl
  | move i m =>
    obtain ⟨c, -, rfl⟩ := Option.map_eq_some_iff.mp h
    cases m.apply c <;> rfl

-- ---------------------------------------------------------------------------
-- Any number of uses
-- ---------------------------------------------------------------------------

/-- What is so of every use of the clocks is so of all in a row. -/
theorem forall_events {P : Event → Prop}
    (hevent : ∀ {cs : Clones} {u : Use} {e : Event}, cs.event? u = some e → P e) (cs : Clones)
    (uses : List Use) : ∀ e ∈ cs.events uses, P e := by
  induction uses generalizing cs with
  | nil => simp [events]
  | cons u rest ih =>
    rw [events]
    cases hu : cs.event? u with
    | none => exact ih cs
    | some first => exact List.forall_mem_cons.mpr ⟨hevent hu, ih first.after⟩

/-- From the first use on, the elapsed time has not gone back. -/
theorem elapsed_le_before (cs : Clones) (uses : List Use) :
    ∀ e ∈ cs.events uses, cs.elapsed ≤ e.before.elapsed := by
  induction uses generalizing cs with
  | nil => simp [events]
  | cons u rest ih =>
    rw [events]
    cases hu : cs.event? u with
    | none => exact ih cs
    | some first =>
      have hbefore := before_of_event hu
      have honward : cs.elapsed ≤ first.after.elapsed := hbefore ▸ onward_of_event hu
      refine List.forall_mem_cons.mpr ⟨Nat.le_of_eq (by rw [hbefore]), fun e he => ?_⟩
      exact Nat.le_trans honward (ih first.after e he)

/-- Later events never start from an earlier `elapsed`. -/
theorem pairwise_elapsed (cs : Clones) (uses : List Use) :
    (cs.events uses).Pairwise fun e f => e.after.elapsed ≤ f.before.elapsed := by
  induction uses generalizing cs with
  | nil => exact .nil
  | cons u rest ih =>
    rw [events]
    cases hu : cs.event? u with
    | none => exact ih cs
    | some first =>
      exact .cons (elapsed_le_before first.after rest) (ih first.after)

/-- Whatever is done with a clock and its clones, from whatever wall time, the elapsed time is never
moved back; and a call moves both readings as it should, or breaks off with the clocks as they
were, unless the elapsed time has room for it and the wall time cannot show it. Then it breaks off
with the elapsed time moved and the wall time not. -/
theorem readings_together_or_torn (origin : Duration) (wall : WallTime) (uses : List Use) :
    ((alone (.start origin wall)).events uses).Pairwise
        (fun e f => e.after.elapsed ≤ f.before.elapsed)
      ∧ ∀ e ∈ (alone (.start origin wall)).events uses,
          e.Onward ∧ (e.Lawful ↔ ¬ e.Overruns) ∧ (e.Overruns → e.Torn) := by
  refine ⟨pairwise_elapsed _ _, forall_events (fun {cs u e} hu => ?_) _ _⟩
  refine ⟨onward_of_event hu, ?_⟩
  obtain ⟨hlawful, hfits⟩ | ⟨htorn, hoverruns⟩ := event_cases hu
  · exact ⟨iff_of_true hlawful hfits, fun hoverruns => absurd hoverruns hfits⟩
  · exact ⟨iff_of_false htorn.not_lawful (not_not_intro hoverruns), fun _ => htorn⟩

/-- A clock at the start of Unix time. -/
def atEpoch : Clones :=
  alone (.start .zero (.ofInstant .epoch))

/-- As many seconds as the wall time has to its end, from the start of Unix time. -/
def tooLong : Duration :=
  .ofSeconds 9223372036854775808

/-- Moving it that far breaks off, with these seconds elapsed and the wall time where it was. -/
theorem torn_in_advance :
    ∃ e ∈ atEpoch.events [.move 0 (.advance tooLong)],
      e.returned = false ∧ e.after.elapsed = tooLong ∧ e.after.wall = atEpoch.wall
        ∧ ¬ e.Lawful := by
  refine ⟨⟨.move 0 (.advance tooLong), atEpoch, { atEpoch with elapsed := tooLong }, false⟩,
    by decide, rfl, rfl, rfl, ?_⟩
  exact Event.Torn.not_lawful (.midway rfl (by decide) (by decide) rfl)

end Clones

end WebhookDelivery.Clock
