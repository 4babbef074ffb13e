import Mathlib
import WebhookDelivery.Proofs.Phases
import WebhookDelivery.Proofs.SingleOwner

/-!
# The counters balance

Workers and sweepers count what they do, and between any two calls of one of them any calls of the
others may come. Still nothing is counted twice and nothing is forgotten.

Each actor has its own books: `Account` compares what its calls have done with what they have
counted, and the difference is what its round still owes (`Phase.debt`). A round that is over or has
broken down owes nothing. The counters are the sum of the books of all actors.

* `Account.next` — one call, one entry in the books.
* `Scene.Reachable.booked` — the books of all actors, in every reachable scene.
* `Scene.counters_balance` — what follows for the counters.
-/

namespace WebhookDelivery

-- ---------------------------------------------------------------------------
-- What is counted, and what ought to be
-- ---------------------------------------------------------------------------

namespace Moment

/-- What a call counts, if it counts anything. -/
def note? : Moment → Option Event
  | ⟨_, .note e, _⟩ => some e
  | _ => none

/-- The transition that a call has stored, if it is a write of one and has succeeded. -/
def stored? : Moment → Option Event
  | ⟨_, .updateMessage m, .ok _⟩ => m.status.transition?
  | ⟨_, .updateMessageStatus _ .failed, .ok _⟩ => some .rejected
  | _ => none

/-- Whether a call has marked a due message pending. -/
def requeues : Moment → Bool
  | ⟨_, .requeueMessage _ _, .ok requeued⟩ => requeued
  | _ => false

/-- How many requeued messages a call counts. -/
def reported : Moment → Nat
  | ⟨_, .note (.requeued n), _⟩ => n
  | _ => 0

/-- Whether a call reads the clock. -/
def isNow : Moment → Bool
  | ⟨_, .now, _⟩ => true
  | _ => false

/-- Whether a call neither counts anything nor does anything that is to be counted. -/
structure Uncounted (x : Moment) : Prop where
  note : x.note? = none
  stored : x.stored? = none
  requeues : x.requeues = false
  reported : x.reported = 0

/-- Whether a worker deals with an entry after a call, by whether it did before. It does from the
pop of an entry that names a message, until the message turns out to be missing or at its end, a
failure of the store ends the attempt, or the entry is counted as dealt with. -/
def serves (x : Moment) (before : Bool) : Bool :=
  match x with
  | ⟨_, .pop, .ok (some entry)⟩ => (MessageId.ofText? entry).isSome
  | ⟨_, .pop, _⟩ => false
  | ⟨_, .findMessage _, .ok m⟩ => before && !m.status.isTerminal
  | ⟨_, .findMessage _, .error _⟩ => false
  | ⟨_, .updateMessage _, .error _⟩ => false
  | ⟨_, .updateMessageStatus _ _, .error _⟩ => false
  | ⟨_, .note .processed, _⟩ => false
  | _ => before

end Moment

/-- How often an event was counted. -/
def notes (e : Event) (h : List Moment) : Nat :=
  h.countP (·.note? = some e)

/-- How many transitions of a kind were stored. -/
def stored (e : Event) (h : List Moment) : Nat :=
  h.countP (·.stored? = some e)

/-- How many messages were marked pending. -/
def requeues (h : List Moment) : Nat :=
  h.countP (·.requeues)

/-- How many requeued messages were counted. -/
def reported (h : List Moment) : Nat :=
  (h.map (·.reported)).sum

/-- Whether a request was counted as going out and not yet as answered. -/
def onWire (h : List Moment) : Bool :=
  notes .sent h < notes .sending h

/-- Whether an entry is being dealt with after some calls. -/
def serving (h : List Moment) : Bool :=
  h.foldr Moment.serves false

/-- The calls since the clock was read last. -/
def sinceNow (h : List Moment) : List Moment :=
  h.takeWhile (!·.isNow)

namespace Scene

/-- Whether an actor is between the count of a request that goes out and that of its answer. -/
def onWire (s : Scene) (i : Nat) : Bool :=
  WebhookDelivery.onWire (s.calls i)

/-- Whether an actor is inside the processing of an entry: it deals with one, and its round is
neither over nor broken down. -/
def processing (s : Scene) (i : Nat) : Bool :=
  serving (s.calls i) && (s.next? i).isSome

/-- The calls of an actor in a sweep that is under way. A sweep reads the clock first, and only
then. -/
def underway (s : Scene) (i : Nat) : List Moment :=
  match s.next? i with
  | none | some .now => []
  | some _ => sinceNow (s.calls i)

/-- How many messages the completed sweeps of an actor have marked pending. -/
def requeued (s : Scene) (i : Nat) : Nat :=
  requeues (s.calls i) - requeues (s.underway i)

/-- A sum over all actors. -/
def total (s : Scene) (f : Nat → Nat) : Nat :=
  ∑ i ∈ Finset.range s.actors.length, f i

end Scene

section Counting

variable {e : Event} {x : Moment} {h : List Moment}

theorem notes_cons : notes e (x :: h) = notes e h + if x.note? = some e then 1 else 0 := by
  simp [notes, List.countP_cons]

theorem stored_cons : stored e (x :: h) = stored e h + if x.stored? = some e then 1 else 0 := by
  simp [stored, List.countP_cons]

theorem requeues_cons : requeues (x :: h) = requeues h + if x.requeues then 1 else 0 := by
  simp [requeues, List.countP_cons]

theorem reported_cons : reported (x :: h) = x.reported + reported h := by
  simp [reported]

/-- A moment that notes an event has made just that call. -/
theorem Moment.call_of_note? (hnote : x.note? = some e) : x.call = .note e := by
  obtain ⟨w, c, answer⟩ := x
  cases c with
  | note e' => rw [Option.some.inj hnote]
  | _ => cases hnote

theorem serving_cons : serving (x :: h) = x.serves (serving h) :=
  rfl

theorem sinceNow_cons : sinceNow (x :: h) = if x.isNow then [] else x :: sinceNow h := by
  cases hnow : x.isNow <;> simp [sinceNow, hnow]

end Counting

-- ---------------------------------------------------------------------------
-- What counting does to the counters
-- ---------------------------------------------------------------------------

/-- The counters as the calls have it. -/
structure World.Counts (w : World) (h : List Moment) : Prop where
  processed : w.stats.processed = notes .processed h
  successful : w.stats.successful = notes .delivered h
  failed : w.stats.failed = notes .retryScheduled h
  deadLettered : w.stats.deadLettered = notes .deadLettered h
  rejected : w.stats.rejected = notes .rejected h
  requeued : w.stats.requeued = reported h
  inFlight : w.stats.inFlight + notes .sent h = notes .sending h

/-- Metrics and counters that agree. -/
structure Metrics.Agrees (m : Metrics) (s : Stats) : Prop where
  success : m.deliveredSuccess = s.successful
  failed : m.deliveredFailed = s.failed
  deadLetter : m.deliveredDeadLetter = s.deadLettered
  requeued : m.requeued = s.requeued
  samples : m.durationSamples = s.successful + s.failed + s.deadLettered

/-- Counting keeps them in agreement. -/
theorem Metrics.Agrees.count {m : Metrics} {s : Stats} (h : m.Agrees s) (e : Event) :
    (m.count e).Agrees (s.count e) := by
  obtain ⟨hsuccess, hfailed, hdead, hrequeued, hsamples⟩ := h
  cases e with
  | delivered | retryScheduled | deadLettered =>
    constructor <;> simp only [Metrics.count, Stats.count] <;> omega
  | requeued n => exact ⟨hsuccess, hfailed, hdead, congrArg (· + n) hrequeued, hsamples⟩
  | workers | sending | sent | processed | rejected | recovered | failure =>
    exact ⟨hsuccess, hfailed, hdead, hrequeued, hsamples⟩

namespace World

/-- Whether two worlds have the same counters. -/
structure SameCounters (w w' : World) : Prop where
  stats : w'.stats = w.stats
  metrics : w'.metrics = w.metrics

/-- A call of the store leaves the counters alone, if its operation does. -/
theorem sameCounters_storeCall {α : Type} (w : World) (op : StoreOperation)
    {run : Unit → Except StoreError α × World} (hrun : w.SameCounters (run ()).2) :
    w.SameCounters (w.storeCall op run).2 := by
  rcases w.storeCall_cases op run with ⟨e, planned, -, heq⟩ | ⟨-, heq⟩
  · rw [heq]
    exact ⟨rfl, rfl⟩
  · rw [heq]
    exact hrun

/-- Writing to the store leaves the counters alone. -/
theorem sameCounters_write {α : Type} {w w₀ : World} (r : Except StoreError (α × Store))
    (h : w.SameCounters w₀) : w.SameCounters (w₀.write r).2 := by
  cases r with
  | error e => exact h
  | ok result => exact ⟨h.stats, h.metrics⟩

/-- No call but a note changes a counter. -/
theorem sameCounters_perform (w : World) {c : Call} (hnote : ∀ e, c ≠ .note e) :
    w.SameCounters (w.perform c).2 := by
  have hasked : w.SameCounters { w with asked := w.asked + 1 } := ⟨rfl, rfl⟩
  cases c with
  | note e => exact absurd rfl (hnote e)
  | updateMessageStatus | requeueMessage | recordAttempt =>
    simp only [perform]
    exact sameCounters_storeCall w _ (sameCounters_write _ hasked)
  | updateMessage m =>
    simp only [perform]
    exact sameCounters_storeCall w _ (sameCounters_write _ ⟨rfl, rfl⟩)
  | createMessage | findMessage | findRetryReady | findPending | findAttempts
  | findSigningSecret =>
    simp only [perform]
    exact sameCounters_storeCall w _ ⟨rfl, rfl⟩
  | push entry =>
    rw [perform]
    split <;> exact ⟨rfl, rfl⟩
  | pop =>
    rw [perform]
    split
    · show w.SameCounters (w.plannedPop _).2
      rw [plannedPop]
      split
      · exact ⟨rfl, rfl⟩
      · exact ⟨rfl, rfl⟩
      · split <;> exact ⟨rfl, rfl⟩
    · exact ⟨rfl, rfl⟩
  | sleep d =>
    rw [perform]
    split <;> exact ⟨rfl, rfl⟩
  | queueLength | queueContains | now | send | drawOffset => exact ⟨rfl, rfl⟩

theorem Counts.same {w w' : World} {h : List Moment} (hcounts : w.Counts h)
    (hsame : w.SameCounters w') : w'.Counts h := by
  obtain ⟨hprocessed, hsuccessful, hfailed, hdead, hrejected, hrequeued, hflight⟩ := hcounts
  constructor <;> rw [hsame.stats] <;> assumption

/-- A call that counts nothing leaves the books as they are. -/
theorem Counts.silent {w w' : World} {h : List Moment} {x : Moment} (hcounts : w.Counts h)
    (hsame : w.SameCounters w') (hnote : x.note? = none) (hreported : x.reported = 0) :
    w'.Counts (x :: h) := by
  have hnotes : ∀ e, notes e (x :: h) = notes e h := by simp [notes_cons, hnote]
  have hrequeues : reported (x :: h) = reported h := by simp [reported_cons, hreported]
  obtain ⟨hprocessed, hsuccessful, hfailed, hdead, hrejected, hrequeued, hflight⟩ :=
    hcounts.same hsame
  constructor <;> simp only [hnotes, hrequeues] <;> assumption

/-- After every call the counters are as the calls have it, if no request comes back that is not
out. -/
theorem Counts.perform {w w' : World} {h : List Moment} {c : Call} {answer : c.Answer}
    (hcounts : w.Counts h) (hperform : w.perform c = (some answer, w'))
    (hsent : c = .note .sent → 0 < w.stats.inFlight) : w'.Counts (⟨w, c, answer⟩ :: h) := by
  have hw' : w' = (w.perform c).2 := by rw [hperform]
  by_cases hnote : ∃ e, c = .note e
  · obtain ⟨e, rfl⟩ := hnote
    obtain ⟨hprocessed, hsuccessful, hfailed, hdead, hrejected, hrequeued, hflight⟩ := hcounts
    subst hw'
    cases e with
    | sent =>
      -- the counter of requests in flight must not go below zero
      have hpos := hsent rfl
      constructor <;> simp [World.perform, Stats.count, notes_cons, reported_cons, Moment.note?,
        Moment.reported] <;> omega
    | _ =>
      constructor <;> simp [World.perform, Stats.count, notes_cons, reported_cons, Moment.note?,
        Moment.reported] <;> omega
  · have hsame := w.sameCounters_perform fun e he => hnote ⟨e, he⟩
    rw [← hw'] at hsame
    cases c with
    | note e => exact absurd ⟨e, rfl⟩ hnote
    | _ => exact hcounts.silent hsame rfl rfl

/-- Metrics and counters stay in agreement. -/
theorem agrees_perform {w w' : World} {c : Call} {answer? : Option c.Answer}
    (h : w.metrics.Agrees w.stats) (hperform : w.perform c = (answer?, w')) :
    w'.metrics.Agrees w'.stats := by
  obtain rfl : (w.perform c).2 = w' := by rw [hperform]
  by_cases hnote : ∃ e, c = .note e
  · obtain ⟨e, rfl⟩ := hnote
    exact h.count e
  · have hsame := w.sameCounters_perform fun e he => hnote ⟨e, he⟩
    rw [hsame.metrics, hsame.stats]
    exact h

end World

-- ---------------------------------------------------------------------------
-- The books of one actor
-- ---------------------------------------------------------------------------

/-- What the calls of one actor come to in a phase. -/
structure Account (h : List Moment) (φ : Phase) : Prop where
  wire : notes .sending h = notes .sent h + if φ.debt = .answer then 1 else 0
  stored : ∀ e ∈ Event.transitions,
    stored e h = notes e h + if φ.debt = .transition e then 1 else 0
  processed : notes .delivered h + notes .retryScheduled h + notes .deadLettered h
    + notes .rejected h = notes .processed h + if φ.debt = .entry then 1 else 0
  requeued : requeues h = reported h + φ.debt.uncounted
  serving : serving h = φ.serves
  sweep : φ ≠ .resting → requeues (sinceNow h) = φ.debt.uncounted

namespace Account

variable {h : List Moment} {φ φ' : Phase} {x : Moment}

/-- The account of an actor that has done nothing. -/
theorem start (h : φ = .away ∨ φ = .resting) : Account [] φ := by
  rcases h with rfl | rfl <;> exact ⟨rfl, fun e _ => rfl, rfl, rfl, rfl, fun _ => rfl⟩

/-- A request is on the wire exactly if its answer is owed. -/
theorem onWire_eq (haccount : Account h φ) : onWire h = decide (φ.debt = .answer) := by
  rw [WebhookDelivery.onWire, haccount.wire]
  split <;> simp [*]

/-- Requests begun are requests done and the one that is out. -/
theorem sending_eq (haccount : Account h φ) :
    notes .sending h = notes .sent h + (onWire h).toNat := by
  rw [haccount.onWire_eq, haccount.wire]
  split <;> simp [*]

/-- A call that neither counts nor stores anything leaves the debt as it is. -/
theorem silent (haccount : Account h φ) (hx : x.Uncounted) (hnow : x.isNow = false)
    (hdebt : φ'.debt = φ.debt) (hserves : x.serves φ.serves = φ'.serves)
    (hresting : φ = .resting → φ' = .resting) : Account (x :: h) φ' := by
  constructor
  · simpa [notes_cons, hx.note, hdebt] using haccount.wire
  · simpa [notes_cons, stored_cons, hx.note, hx.stored, hdebt] using haccount.stored
  · simpa [notes_cons, hx.note, hdebt] using haccount.processed
  · simpa [requeues_cons, reported_cons, hx.requeues, hx.reported, hdebt] using haccount.requeued
  · rw [serving_cons, haccount.serving, hserves]
  · intro hφ'
    rw [sinceNow_cons, hnow, if_neg Bool.false_ne_true, requeues_cons, hx.requeues, hdebt]
    exact haccount.sweep fun hφ => hφ' (hresting hφ)

/-- A reading of the clock begins a sweep, or falls in an attempt that owes nothing. -/
theorem clocked (haccount : Account h φ) (hx : x.Uncounted) (hnow : x.isNow = true)
    (hdebt : φ.debt = .nothing) (hdebt' : φ'.debt = .nothing)
    (hserves : x.serves φ.serves = φ'.serves) : Account (x :: h) φ' := by
  have hsame : φ'.debt = φ.debt := hdebt'.trans hdebt.symm
  constructor
  · simpa [notes_cons, hx.note, hsame] using haccount.wire
  · simpa [notes_cons, stored_cons, hx.note, hx.stored, hsame] using haccount.stored
  · simpa [notes_cons, hx.note, hsame] using haccount.processed
  · simpa [requeues_cons, reported_cons, hx.requeues, hx.reported, hsame] using haccount.requeued
  · rw [serving_cons, haccount.serving, hserves]
  · intro _
    rw [sinceNow_cons, if_pos hnow, hdebt']
    rfl

/-- A note settles a debt, or makes one: what it counts is what the debts differ by. -/
theorem noted {e : Event} {w : World} (haccount : Account h φ)
    (hwire : (if φ.debt = .answer then 1 else 0) + (if e = .sending then 1 else 0)
      = (if e = .sent then 1 else 0) + if φ'.debt = .answer then 1 else 0)
    (hstored : ∀ k ∈ Event.transitions, (if φ.debt = .transition k then 1 else 0)
      = (if e = k then 1 else 0) + if φ'.debt = .transition k then 1 else 0)
    (hprocessed : (if e ∈ Event.transitions then 1 else 0) + (if φ.debt = .entry then 1 else 0)
      = (if e = .processed then 1 else 0) + if φ'.debt = .entry then 1 else 0)
    (hrequeued : φ.debt.uncounted = Moment.reported ⟨w, .note e, ()⟩ + φ'.debt.uncounted)
    (hserves : Moment.serves ⟨w, .note e, ()⟩ φ.serves = φ'.serves)
    (hsweep : φ' ≠ .resting → φ ≠ .resting ∧ φ'.debt.uncounted = φ.debt.uncounted) :
    Account (⟨w, .note e, ()⟩ :: h) φ' := by
  -- a note adds to its own tally, stores nothing and requeues nothing
  have hnotes : ∀ k, notes k (⟨w, .note e, ()⟩ :: h) = notes k h + if e = k then 1 else 0 := by
    simp [notes_cons, Moment.note?]
  have hquiet : ∀ k, WebhookDelivery.stored k (⟨w, .note e, ()⟩ :: h)
      = WebhookDelivery.stored k h := by
    simp [stored_cons, Moment.stored?]
  have hrequeues : ∀ l, requeues (⟨w, .note e, ()⟩ :: l) = requeues l := by
    simp [requeues_cons, Moment.requeues]
  constructor
  · have hbooks := haccount.wire
    rw [hnotes, hnotes]
    omega
  · intro k hk
    have hbooks := haccount.stored k hk
    have hdebt := hstored k hk
    rw [hnotes, hquiet]
    omega
  · have hbooks := haccount.processed
    -- a transition is one of four events
    have hone : (if e ∈ Event.transitions then 1 else 0) = (if e = .delivered then 1 else 0)
        + (if e = .retryScheduled then 1 else 0) + (if e = .deadLettered then 1 else 0)
        + if e = .rejected then 1 else 0 := by
      cases e <;> rfl
    rw [hnotes, hnotes, hnotes, hnotes, hnotes]
    omega
  · have hbooks := haccount.requeued
    rw [hrequeues, reported_cons]
    omega
  · rw [serving_cons, haccount.serving, hserves]
  · intro hφ'
    obtain ⟨hφ, hdebt⟩ := hsweep hφ'
    show requeues (⟨w, .note e, ()⟩ :: sinceNow h) = φ'.debt.uncounted
    rw [hrequeues, hdebt]
    exact haccount.sweep hφ

/-- A transition that is stored is owed to the counters. -/
theorem wrote {e : Event} (haccount : Account h .serving) (hnote : x.note? = none)
    (hstored : x.stored? = some e) (hrequeues : x.requeues = false) (hreported : x.reported = 0)
    (hnow : x.isNow = false) (hserves : x.serves true = true) : Account (x :: h) (.stored e) := by
  constructor
  · simpa [notes_cons, hnote, Phase.debt, Debt.nothing] using haccount.wire
  · intro k hk
    rw [stored_cons, notes_cons, hnote, hstored, haccount.stored k hk]
    simp [Phase.debt, Debt.nothing]
  · simpa [notes_cons, hnote, Phase.debt, Debt.nothing] using haccount.processed
  · rw [requeues_cons, reported_cons, hrequeues, hreported, haccount.requeued, Nat.zero_add]
    rfl
  · rw [serving_cons, haccount.serving]
    exact hserves
  · intro _
    rw [sinceNow_cons, hnow, if_neg Bool.false_ne_true, requeues_cons, hrequeues]
    exact haccount.sweep (by simp)

/-- A message that a sweep marks pending is owed to the counters. -/
theorem requeue {n : Nat} (haccount : Account h (.sweeping n)) (hnote : x.note? = none)
    (hstored : x.stored? = none) (hreported : x.reported = 0) (hnow : x.isNow = false)
    (hserves : x.serves false = false) : Account (x :: h) (.sweeping (n + x.requeues.toNat)) := by
  have hone : (if x.requeues = true then 1 else 0) = x.requeues.toNat := by
    cases x.requeues <;> rfl
  constructor
  · simpa [notes_cons, hnote, Phase.debt] using haccount.wire
  · simpa [notes_cons, stored_cons, hnote, hstored, Phase.debt] using haccount.stored
  · simpa [notes_cons, hnote, Phase.debt] using haccount.processed
  · -- one more is requeued than reported, which the debt says
    have hbooks := haccount.requeued
    rw [requeues_cons, reported_cons, hreported, hone]
    simp only [Phase.debt, Debt.uncounted] at hbooks ⊢
    omega
  · rw [serving_cons, haccount.serving]
    exact hserves
  · intro _
    have hbooks := haccount.sweep (by simp)
    rw [sinceNow_cons, hnow, if_neg Bool.false_ne_true, requeues_cons, hone, hbooks]
    rfl

/-- One call, one entry in the books. -/
theorem next {w : World} {c : Call} {answer : c.Answer}
    (haccount : Account h φ) (hnext : φ.Next c answer φ') : Account (⟨w, c, answer⟩ :: h) φ' := by
  -- calls that no book mentions first, then the clock, the notes and the writes
  cases hnext with
  | pop hentry | popUnreadable hentry =>
    exact haccount.silent ⟨rfl, rfl, rfl, rfl⟩ rfl rfl hentry (by rintro ⟨⟩)
  | popNothing | popFailed | putBack | pause | loadFailed | secret | record | draw | writeFailed
  | rejectFailed | send | due | sweepPush | requeueFailed =>
    exact haccount.silent ⟨rfl, rfl, rfl, rfl⟩ rfl rfl rfl (by rintro ⟨⟩)
  | dueFailed => exact haccount.silent ⟨rfl, rfl, rfl, rfl⟩ rfl rfl rfl fun _ => rfl
  | load id hm | skip id hm =>
    refine haccount.silent ⟨rfl, rfl, rfl, rfl⟩ rfl rfl ?_ (by rintro ⟨⟩)
    simp [Moment.serves, Phase.serves, hm]
  | time | begin => exact haccount.clocked ⟨rfl, rfl, rfl, rfl⟩ rfl rfl rfl rfl
  | failure category =>
    have hother : ∀ k ∈ Event.transitions, Event.failure category ≠ k := by
      simp [Event.transitions]
    exact haccount.noted rfl (fun k hk => by simp [hother k hk]) rfl rfl rfl
      fun _ => ⟨by simp, rfl⟩
  | sending =>
    exact haccount.noted rfl (by decide) rfl rfl rfl fun _ => ⟨by simp, rfl⟩
  | sent =>
    exact haccount.noted rfl (by decide) rfl rfl rfl fun _ => ⟨by simp, rfl⟩
  | write hstatus => exact haccount.wrote rfl hstatus rfl rfl rfl rfl
  | reject => exact haccount.wrote rfl rfl rfl rfl rfl rfl
  | count he =>
    simp only [Event.transitions, List.mem_cons, List.not_mem_nil, or_false] at he
    rcases he with rfl | rfl | rfl | rfl
    all_goals exact haccount.noted rfl (by decide) rfl rfl rfl fun _ => ⟨by simp, rfl⟩
  | processed =>
    exact haccount.noted rfl (by decide) rfl rfl rfl fun _ => ⟨by simp, rfl⟩
  | requeue n id due requeued => exact haccount.requeue rfl rfl rfl rfl rfl
  | report n =>
    have hother : ∀ k ∈ Event.transitions, Event.requeued n ≠ k := by simp [Event.transitions]
    exact haccount.noted rfl (fun k hk => by simp [hother k hk, Phase.debt, Debt.nothing]) rfl rfl
      rfl fun h => absurd rfl h

end Account

/-- A round begins with the books of the one before. -/
theorem Account.rest {h : List Moment} {role : Role} {φ : Phase} (haccount : Account h φ)
    (hover : role.Over φ) : Account h role.phase := by
  have hsweep : φ = .resting ∨ φ = .sweeping 0 → Account h .resting := by
    rintro (rfl | rfl)
    · exact haccount
    · exact ⟨haccount.wire, haccount.stored, haccount.processed, haccount.requeued,
        haccount.serving, fun hne => absurd rfl hne⟩
  cases role with
  | worker w =>
    obtain rfl : φ = .away := hover
    exact haccount
  | sweeper | recovery | submission => exact hsweep hover

-- ---------------------------------------------------------------------------
-- Sums over actors
-- ---------------------------------------------------------------------------

/-- Counting over a range is summing over it. -/
theorem countP_range (n : Nat) (p : Nat → Bool) :
    (List.range n).countP p = ∑ i ∈ Finset.range n, (p i).toNat := by
  induction n with
  | zero => rfl
  | succ n ih =>
    rw [List.range_succ, List.countP_append, ih, Finset.sum_range_succ]
    cases hp : p n <;> simp [hp]

namespace Scene

/-- Whether every call of a scene was made by one of its actors. -/
def Known (s : Scene) : Prop :=
  ∀ x ∈ s.history, x.1 < s.actors.length

/-- What adds up over the calls of a scene adds up over its actors. -/
theorem Known.total {s : Scene} (h : s.Known) {f : List Moment → Nat} {g : Moment → Nat}
    (hnil : f [] = 0) (hcons : ∀ x h, f (x :: h) = g x + f h) :
    s.total (fun i => f (s.calls i)) = f (s.history.map Prod.snd) := by
  obtain ⟨world, actors, history⟩ := s
  have hknown : ∀ x ∈ history, x.1 < actors.length := h
  clear h
  induction history with
  | nil =>
    show ∑ i ∈ Finset.range actors.length, f [] = f []
    rw [hnil, Finset.sum_const_zero]
  | cons y rest ih =>
    obtain ⟨j, x⟩ := y
    obtain ⟨hj, hrest⟩ := List.forall_mem_cons.mp hknown
    -- the latest call is added to its actor, and to the whole
    have hcalls : ∀ i, f (calls ⟨world, actors, (j, x) :: rest⟩ i)
        = (if j = i then g x else 0) + f (calls ⟨world, actors, rest⟩ i) := by
      intro i
      rw [calls_cons ⟨world, actors, rest⟩]
      split
      · exact hcons x _
      · exact (Nat.zero_add _).symm
    have hsum : ∑ i ∈ Finset.range actors.length, f (calls ⟨world, actors, rest⟩ i)
        = f (rest.map Prod.snd) := ih hrest
    rw [Scene.total, Finset.sum_congr rfl fun i _ => hcalls i, Finset.sum_add_distrib,
      Finset.sum_ite_eq, if_pos (Finset.mem_range.mpr hj), hsum, List.map_cons, hcons]

/-- Who is not there yet has made no call. -/
theorem Known.calls_eq_nil {s : Scene} (h : s.Known) {i : Nat} (hi : s.actors.length ≤ i) :
    s.calls i = [] := by
  refine List.filterMap_eq_nil_iff.mpr fun x hx => if_neg ?_
  have hlt := h x hx
  omega

theorem Known.total_notes {s : Scene} (h : s.Known) (e : Event) :
    s.total (fun i => notes e (s.calls i)) = notes e (s.history.map Prod.snd) :=
  h.total rfl fun _ _ => by rw [notes_cons, Nat.add_comm]

theorem Known.total_stored {s : Scene} (h : s.Known) (e : Event) :
    s.total (fun i => stored e (s.calls i)) = stored e (s.history.map Prod.snd) :=
  h.total rfl fun _ _ => by rw [stored_cons, Nat.add_comm]

theorem Known.total_reported {s : Scene} (h : s.Known) :
    s.total (fun i => reported (s.calls i)) = reported (s.history.map Prod.snd) :=
  h.total rfl fun _ _ => reported_cons

-- ---------------------------------------------------------------------------
-- The books of a scene
-- ---------------------------------------------------------------------------

/-- The books of all actors, and the counters. -/
structure Booked (s : Scene) : Prop where
  known : s.Known
  actors : ∀ (i : Nat) (a : Actor), s.actors[i]? = some a → a.role.repeats = true
    ∧ ∃ φ, Account (s.calls i) φ ∧ φ.Allows a.task fun _ => a.role.Over
  counts : s.world.Counts (s.history.map Prod.snd)
  agrees : s.world.metrics.Agrees s.world.stats
  outgoing : ∀ x ∈ s.history, x.2.note? = some .sent → 0 < x.2.world.stats.inFlight

/-- Every actor has an account, in the phase it is in. -/
theorem Booked.account {s : Scene} (h : s.Booked) {i : Nat} (hi : i < s.actors.length) :
    ∃ a φ, s.actors[i]? = some a ∧ Account (s.calls i) φ
      ∧ φ.Allows a.task fun _ => a.role.Over := by
  have hactor := List.getElem?_eq_getElem hi
  obtain ⟨-, φ, haccount, hallows⟩ := h.actors i _ hactor
  exact ⟨_, φ, hactor, haccount, hallows⟩

/-- The requests in flight are those on the wire. -/
theorem Booked.inFlight {s : Scene} (h : s.Booked) :
    s.world.stats.inFlight = (List.range s.actors.length).countP s.onWire := by
  have hsum : s.total (fun i => notes .sending (s.calls i))
      = s.total (fun i => notes .sent (s.calls i)) + s.total fun i => (s.onWire i).toNat := by
    rw [total, total, total, ← Finset.sum_add_distrib]
    refine Finset.sum_congr rfl fun i hi => ?_
    obtain ⟨a, φ, -, haccount, -⟩ := h.account (Finset.mem_range.mp hi)
    exact haccount.sending_eq
  have hbooks := h.counts.inFlight
  rw [h.known.total_notes, h.known.total_notes] at hsum
  rw [countP_range]
  rw [total] at hsum
  omega

/-- No request comes back that is not in flight. -/
theorem Booked.inFlight_pos {s : Scene} (h : s.Booked) {i : Nat} (hi : i < s.actors.length)
    {φ : Phase} (haccount : Account (s.calls i) φ) (hφ : φ.debt = .answer) :
    0 < s.world.stats.inFlight := by
  rw [h.inFlight, List.countP_pos_iff]
  exact ⟨i, List.mem_range.mpr hi, haccount.onWire_eq.trans (decide_eq_true hφ)⟩

/-- An actor may be replaced by one with the same role whose books are right. -/
theorem Booked.replace {s t : Scene} (h : s.Booked) {i : Nat} {a b : Actor}
    (hi : s.actors[i]? = some a) (ht : t.actors = s.actors.set i b) (hrole : b.role = a.role)
    (hothers : ∀ j, i ≠ j → t.calls j = s.calls j)
    (hbooks : ∃ φ, Account (t.calls i) φ ∧ φ.Allows b.task fun _ => a.role.Over) :
    ∀ (j : Nat) (c : Actor), t.actors[j]? = some c → c.role.repeats = true
      ∧ ∃ φ, Account (t.calls j) φ ∧ φ.Allows c.task fun _ => c.role.Over := by
  intro j c hj
  rw [ht] at hj
  by_cases hij : i = j
  · subst hij
    obtain ⟨hlt, -⟩ := List.getElem?_eq_some_iff.mp hi
    rw [List.getElem?_set_self hlt] at hj
    obtain rfl := Option.some.inj hj
    exact ⟨hrole ▸ (h.actors i a hi).1, hrole ▸ hbooks⟩
  · rw [List.getElem?_set_ne hij] at hj
    rw [hothers j hij]
    exact h.actors j c hj

/-- The books survive a step of any actor. -/
theorem Booked.act {s : Scene} (h : s.Booked) (i : Nat) : (s.act i).Booked := by
  cases hactor : s.actors[i]? with
  | none =>
    rw [Scene.act, hactor]
    exact h
  | some a =>
    have hlt := (List.getElem?_eq_some_iff.mp hactor).1
    obtain ⟨hrole, φ, haccount, hallows⟩ := h.actors i a hactor
    have hknown : ∀ b, ∀ x ∈ s.history, x.1 < (s.actors.set i b).length := by
      intro b
      rw [List.length_set]
      exact h.known
    rw [Scene.act, hactor]
    rcases act_cases a s.world with ⟨hact, hmoment⟩ | ⟨⟨u, htask⟩, hact, hmoment⟩
      | ⟨c, next, answer, w', htask, hperform, hact, hmoment⟩
      | ⟨c, next, w', htask, hperform, hact, hmoment⟩
    all_goals simp only [hact, hmoment]
    · refine ⟨hknown a, h.replace hactor rfl rfl (fun _ _ => rfl) ⟨φ, haccount, hallows⟩, h.counts,
        h.agrees, h.outgoing⟩
    · rw [htask] at hallows
      refine ⟨hknown _, h.replace hactor rfl rfl (fun _ _ => rfl)
        ⟨a.role.phase, haccount.rest hallows, Role.allows_round hrole⟩, h.counts, h.agrees,
        h.outgoing⟩
    · rw [htask] at hallows
      obtain ⟨φ', hnext, hrest⟩ := hallows answer
      have hsent : c = .note .sent → 0 < s.world.stats.inFlight := by
        rintro rfl
        -- the account of this actor owes the end of a request
        refine h.inFlight_pos hlt haccount ?_
        cases hnext with
        | sent => rfl
        | count hmem => exact absurd hmem (by decide)
      show Booked ⟨w', s.actors.set i { a with task := next answer },
        (i, ⟨s.world, c, answer⟩) :: s.history⟩
      refine ⟨?_, h.replace hactor rfl rfl (fun j hij => ?_) ⟨φ', ?_, hrest⟩,
        h.counts.perform hperform hsent, World.agrees_perform h.agrees hperform, ?_⟩
      · exact List.forall_mem_cons.mpr ⟨by rwa [List.length_set], hknown _⟩
      · rw [calls_cons, if_neg hij]
      · rw [calls_cons, if_pos rfl]
        exact haccount.next hnext
      · exact List.forall_mem_cons.mpr ⟨fun hnote => hsent (Moment.call_of_note? hnote), h.outgoing⟩
    · rw [htask] at hallows
      -- without an answer the actor breaks down, and still owes what it owed
      obtain ⟨answer⟩ := World.nonempty_answer hperform
      obtain ⟨φ', hnext, -⟩ := hallows answer
      have hsame : s.world.SameCounters w' := by
        have hperformed := s.world.sameCounters_perform (c := c) (by
          rintro e rfl
          cases (Prod.mk.inj hperform).1)
        rwa [hperform] at hperformed
      exact ⟨hknown _, h.replace hactor rfl rfl (fun _ _ => rfl)
        ⟨φ, haccount, hnext.debt_of_unanswered hperform⟩, h.counts.same hsame,
        World.agrees_perform h.agrees hperform, h.outgoing⟩

/-- Who joins begins with empty books. -/
theorem Booked.join {s : Scene} (h : s.Booked) {role : Role} (hrole : role.repeats = true) :
    (s.join role).Booked := by
  have hlength : (s.join role).actors.length = s.actors.length + 1 := List.length_append
  refine ⟨fun x hx => ?_, fun i a hi => ?_, h.counts, h.agrees, h.outgoing⟩
  · rw [hlength]
    exact Nat.lt_succ_of_lt (h.known x hx)
  · have hi : (s.actors ++ [Actor.ofRole role])[i]? = some a := hi
    rcases Nat.lt_or_ge i s.actors.length with hlt | hge
    · rw [List.getElem?_append_left hlt] at hi
      exact h.actors i a hi
    · rw [List.getElem?_append_right hge] at hi
      obtain rfl := List.mem_singleton.mp (List.mem_of_getElem? hi)
      have hcalls : (s.join role).calls i = [] := h.known.calls_eq_nil hge
      rw [hcalls]
      exact ⟨hrole, role.phase, .start role.phase_eq, Role.allows_round hrole⟩

/-- The books are right in every reachable scene. -/
theorem Reachable.booked {start : World} (hstats : start.stats = {}) (hmetrics : start.metrics = {})
    {s : Scene} (h : Reachable (·.repeats = true) World.SameCounters { world := start } s) :
    s.Booked := by
  refine h.invariant ?_ fun s t hs hstep => ?_
  · refine ⟨by rintro x ⟨⟩, by simp, ?_, ?_, by rintro x ⟨⟩⟩
    · constructor <;> rw [hstats] <;> rfl
    · rw [hstats, hmetrics]
      exact ⟨rfl, rfl, rfl, rfl, rfl⟩
  · cases hstep with
    | act i => exact hs.act i
    | join role hrole => exact hs.join hrole
    | outside w hw =>
      refine ⟨hs.known, hs.actors, hs.counts.same hw, ?_, hs.outgoing⟩
      rw [hw.metrics, hw.stats]
      exact hs.agrees

-- ---------------------------------------------------------------------------
-- The counters
-- ---------------------------------------------------------------------------

/-- What an actor has counted as requeued is what its completed sweeps have marked pending. -/
theorem Booked.requeued_eq {s : Scene} (h : s.Booked) {i : Nat} (hi : i < s.actors.length) :
    s.requeued i = reported (s.calls i) := by
  obtain ⟨a, φ, hactor, haccount, hallows⟩ := h.account hi
  have hbooks := haccount.requeued
  -- with nothing owed all that was requeued is reported
  have hidle : φ.debt = .nothing → requeues (s.calls i) = reported (s.calls i) := by
    intro hdebt
    rw [hdebt] at hbooks
    exact hbooks
  cases hnext : s.next? i with
  | none =>
    rw [requeued, underway, hnext]
    exact hidle (debt_of_next? hactor hallows hnext)
  | some c =>
    by_cases hnow : c = .now
    · subst hnow
      obtain ⟨φ', hmove⟩ := next_of_next? hactor hallows hnext default
      rw [requeued, underway, hnext]
      exact hidle hmove.debt_of_now
    · -- in the middle of a sweep its requeues are not reported yet
      have hunderway : s.underway i = sinceNow (s.calls i) := by
        rw [underway, hnext]
        split
        · rename_i heq
          cases heq
        · rename_i heq
          exact absurd (Option.some.inj heq) hnow
        · rfl
      -- A sweeper that rests reads the clock next.
      have hsweeping : φ ≠ .resting := by
        rintro rfl
        obtain ⟨answer⟩ := c.nonempty_answer
        obtain ⟨φ', hmove⟩ := next_of_next? hactor hallows hnext answer
        cases hmove
        exact hnow rfl
      rw [requeued, hunderway, haccount.sweep hsweeping, hbooks, Nat.add_sub_cancel]

/-- An actor that is not inside the processing of an entry owes at most a sweep's messages. -/
theorem Booked.debt_of_idle {s : Scene} (h : s.Booked) {i : Nat} (hi : i < s.actors.length)
    (hidle : s.processing i = false) :
    ∃ φ n, Account (s.calls i) φ ∧ φ.debt = .requeued n := by
  obtain ⟨a, φ, hactor, haccount, hallows⟩ := h.account hi
  refine ⟨φ, φ.debt.uncounted, haccount, ?_⟩
  rw [processing, haccount.serving, Bool.and_eq_false_iff] at hidle
  rcases hidle with hserves | hnext
  · cases φ with
    | serving | onWire | stored | counted => cases hserves
    | away | resting | reading | sweeping => rfl
  · rw [Option.isSome_eq_false_iff, Option.isNone_iff_eq_none] at hnext
    rw [debt_of_next? hactor hallows hnext]
    rfl

/-- Counters that balance. -/
structure Balanced (s : Scene) : Prop where
  /-- The requests in flight are those between the count of their going out and that of their coming
  back. -/
  inFlight : s.world.stats.inFlight = (List.range s.actors.length).countP s.onWire
  /-- None was counted as coming back while none was in flight. -/
  outgoing : ∀ x ∈ s.history, x.2.note? = some .sent → 0 < x.2.world.stats.inFlight
  requeued : s.world.stats.requeued = s.total s.requeued
  metrics : s.world.metrics.Agrees s.world.stats
  /-- While no entry is being processed, all are accounted for. -/
  settled : (∀ i, s.processing i = false) →
    s.world.stats.processed = s.world.stats.successful + s.world.stats.failed
      + s.world.stats.deadLettered + s.world.stats.rejected
    ∧ s.world.stats.successful = stored .delivered (s.history.map Prod.snd)
    ∧ s.world.stats.failed = stored .retryScheduled (s.history.map Prod.snd)
    ∧ s.world.stats.deadLettered = stored .deadLettered (s.history.map Prod.snd)
    ∧ s.world.stats.rejected = stored .rejected (s.history.map Prod.snd)

/-- Counters with right books balance. -/
theorem Booked.balanced {s : Scene} (h : s.Booked) : s.Balanced := by
  refine ⟨h.inFlight, h.outgoing, ?_, h.agrees, fun hidle => ?_⟩
  · rw [h.counts.requeued, ← h.known.total_reported, total, total]
    exact Finset.sum_congr rfl fun i hi => (h.requeued_eq (Finset.mem_range.mp hi)).symm
  · -- no actor at work means no debt, so all that was stored is noted
    have hstored : ∀ e ∈ Event.transitions,
        notes e (s.history.map Prod.snd) = stored e (s.history.map Prod.snd) := by
      intro e he
      rw [← h.known.total_notes, ← h.known.total_stored, total, total]
      refine Finset.sum_congr rfl fun i hi => ?_
      obtain ⟨φ, n, haccount, hdebt⟩ := h.debt_of_idle (Finset.mem_range.mp hi) (hidle i)
      rw [haccount.stored e he, hdebt, if_neg (by simp), Nat.add_zero]
    have hprocessed : notes .processed (s.history.map Prod.snd)
        = notes .delivered (s.history.map Prod.snd) + notes .retryScheduled (s.history.map Prod.snd)
          + notes .deadLettered (s.history.map Prod.snd)
          + notes .rejected (s.history.map Prod.snd) := by
      simp only [← h.known.total_notes, total, ← Finset.sum_add_distrib]
      refine Finset.sum_congr rfl fun i hi => ?_
      obtain ⟨φ, n, haccount, hdebt⟩ := h.debt_of_idle (Finset.mem_range.mp hi) (hidle i)
      rw [haccount.processed, hdebt, if_neg (by simp), Nat.add_zero]
    obtain ⟨hp, hs, hf, hd, hr, -, -⟩ := h.counts
    refine ⟨?_, ?_, ?_, ?_, ?_⟩
    · rw [hp, hs, hf, hd, hr, hprocessed]
    · rw [hs, hstored _ (by decide)]
    · rw [hf, hstored _ (by decide)]
    · rw [hd, hstored _ (by decide)]
    · rw [hr, hstored _ (by decide)]

/-- However workers and sweepers interleave, and whatever the outside does to the rest of the world
in between, counters that started at zero balance. -/
theorem counters_balance {start : World} (hstats : start.stats = {}) (hmetrics : start.metrics = {})
    {s : Scene} (h : Reachable (·.repeats = true) World.SameCounters { world := start } s) :
    s.Balanced :=
  (h.booked hstats hmetrics).balanced

-- A worker makes an attempt that fails, and when its retry is due a sweep requeues the message.

/-- The worker has dealt with the entry. -/
def tended : Scene :=
  ((({ world := .submitted } : Scene).join (.worker .plain)).join (.sweeper {})).acts
    [0, 0, 0, 0, 0, 0, 0, 0, 0, 0, 0]

/-- Two seconds later the sweep is over. -/
def swept : Scene :=
  acts { tended with world := (tended.world.perform (.sleep (.ofSeconds 2))).2 } [1, 1, 1, 1, 1]

/-- The scene after a sweep is reached from a submitted message. -/
theorem reachable_swept :
    Reachable (·.repeats = true) World.SameCounters { world := .submitted } swept := by
  have hworker : Reachable (·.repeats = true) World.SameCounters { world := .submitted } _ :=
    Reachable.refl.step (.join { world := .submitted } (.worker .plain) rfl)
  have htended : Reachable (·.repeats = true) World.SameCounters { world := .submitted } tended :=
    (hworker.step (.join _ (.sweeper {}) rfl)).trans (reachable_acts _ _ _ _)
  have hlater : tended.world.SameCounters (tended.world.perform (.sleep (.ofSeconds 2))).2 :=
    World.sameCounters_perform _ (by rintro _ ⟨⟩)
  exact (htended.step (.outside tended _ hlater)).trans (reachable_acts _ _ _ _)

/-- One entry, one transition and one requeued message are counted. -/
theorem counters_balance_swept :
    swept.world.stats.processed = 1 ∧ stored .retryScheduled (swept.history.map Prod.snd) = 1
      ∧ swept.world.stats.failed = 1 ∧ swept.world.stats.requeued = 1
      ∧ swept.total swept.requeued = 1 ∧ swept.world.stats.inFlight = 0 := by
  have hbalanced : swept.Balanced :=
    counters_balance (by decide +kernel) (by decide +kernel) reachable_swept
  -- neither actor is processing, and there is no third
  have hidle : ∀ i, swept.processing i = false := by
    intro i
    by_cases hi : i < 2
    · have hall : ∀ j : Fin 2, swept.processing j.val = false := by decide +kernel
      exact hall ⟨i, hi⟩
    · have hlength : swept.actors.length = 2 := by decide +kernel
      rw [processing, next?, List.getElem?_eq_none (by omega), Option.bind_none, Option.isSome_none,
        Bool.and_false]
  obtain ⟨hprocessed, hsuccessful, hfailed, hdead, hrejected⟩ := hbalanced.settled hidle
  have hone : stored .retryScheduled (swept.history.map Prod.snd) = 1 := by decide +kernel
  have hrequeued : swept.total swept.requeued = 1 := by decide +kernel
  refine ⟨?_, hone, ?_, ?_, hrequeued, ?_⟩
  · rw [hprocessed, hsuccessful, hfailed, hdead, hrejected]
    decide +kernel
  · rw [hfailed, hone]
  · rw [hbalanced.requeued, hrequeued]
  · rw [hbalanced.inFlight]
    decide +kernel

end Scene

end WebhookDelivery
