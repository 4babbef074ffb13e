import WebhookDelivery.Queue

/-!
# Waiting pops

A pop that finds nothing waits for a push to wake it. A push appends its entry first and wakes a
waiting pop second; if none waits, it leaves a permit, of which there is never more than one. A pop
looks at the entries first, and if there are none it registers second: it takes the permit if there
is one, and waits otherwise. Each of these acts happens at once, and between any two of them those
of other pushes and pops may come. `step` is one such act, `run` a row of them.

These are `push` and `pop` of `MemoryWorkQueue`, cut where they may be interrupted: between
`push_back` and `notify_one`, and between the look at `entries` and the wait for `notified`.
-/

namespace WebhookDelivery

namespace Handoff

/-- Where a pop stands. -/
inductive Pop where
  /-- About to look at the entries, for the first time or after it was woken. -/
  | looking
  /-- Has found nothing and is about to register. -/
  | unregistered
  /-- Waits to be woken. -/
  | parked
  /-- Over, with the entry it took or with none. -/
  | ended (entry : Option String)
  deriving DecidableEq, Repr

/-- Where a push stands. -/
inductive Push where
  /-- About to append its entry. -/
  | starting (entry : String)
  /-- Has appended its entry and is about to wake a pop. -/
  | appended
  | ended
  deriving DecidableEq, Repr

/-- An act of a pop or push, which is named by its number. -/
inductive Move where
  | beginPop
  | look (pop : Nat)
  | register (pop : Nat)
  /-- A waiting pop gives up. -/
  | timeOut (pop : Nat)
  | beginPush (entry : String)
  | append (push : Nat)
  /-- Wakes the chosen pop, or leaves a permit if none waits. -/
  | wake (push : Nat) (chosen : Option Nat)
  deriving DecidableEq, Repr

end Handoff

/-- A queue with the pops and pushes on it. -/
structure Handoff where
  entries : List String := []
  /-- What `notify_one` leaves where no pop waits. -/
  permit : Bool := false
  pops : List Handoff.Pop := []
  pushes : List Handoff.Push := []
  deriving DecidableEq, Repr

namespace Handoff

/-- A pop has moved on. -/
def setPop (h : Handoff) (i : Nat) (p : Pop) : Handoff :=
  { h with pops := h.pops.set i p }

/-- A push has moved on. -/
def setPush (h : Handoff) (i : Nat) (p : Push) : Handoff :=
  { h with pushes := h.pushes.set i p }

/-- A pop looks at the entries (`pop_front`). -/
def look (h : Handoff) (i : Nat) : Handoff :=
  match h.entries with
  | [] => h.setPop i .unregistered
  | entry :: rest => { h with entries := rest }.setPop i (.ended (some entry))

/-- A pop registers (`notified`): it takes the permit if there is one, and is parked otherwise. -/
def register (h : Handoff) (i : Nat) : Handoff :=
  if h.permit then { h with permit := false }.setPop i .looking else h.setPop i .parked

/-- One act, unless it cannot come now. -/
def step (h : Handoff) : Move → Option Handoff
  | .beginPop => some { h with pops := h.pops ++ [.looking] }
  | .look i => if h.pops[i]? = some .looking then some (h.look i) else none
  | .register i => if h.pops[i]? = some .unregistered then some (h.register i) else none
  | .timeOut i => if h.pops[i]? = some .parked then some (h.setPop i (.ended none)) else none
  | .beginPush entry => some { h with pushes := h.pushes ++ [.starting entry] }
  | .append i =>
    match h.pushes[i]? with
    | some (.starting entry) =>
      some ({ h with entries := h.entries ++ [entry] }.setPush i .appended)
    | _ => none
  | .wake i chosen =>
    if h.pushes[i]? = some .appended then
      match chosen with
      | some j =>
        if h.pops[j]? = some .parked then some ((h.setPush i .ended).setPop j .looking) else none
      | none =>
        if h.pops.contains .parked then none else some ({ h with permit := true }.setPush i .ended)
    else none

/-- A row of acts, unless one of them cannot come when it is its turn. -/
def run : List Move → Handoff → Option Handoff
  | [], h => some h
  | m :: rest, h => (h.step m).bind (run rest)

/-- What a pop has ended with; nothing while it has not. -/
def taken (h : Handoff) (i : Nat) : Option String :=
  match h.pops[i]? with
  | some (.ended entry) => entry
  | _ => none

end Handoff

namespace Queue

/-- The acts of a pop, and of a push that comes some time after the pop has begun. -/
def lateMoves (q : Queue) (entry : String) (after : Duration) : List Handoff.Move :=
  let push (woken : Option Nat) : List Handoff.Move := [.beginPush entry, .append 0, .wake 0 woken]
  if !q.entries.isEmpty then [.beginPop, .look 0] ++ push none
  else if after ≤ q.settings.popTimeout then
    [.beginPop, .look 0, .register 0] ++ push (some 0) ++ [.look 0]
  else [.beginPop, .look 0, .register 0, .timeOut 0] ++ push none

/-- A pop, and a push some time after the pop has begun: what the pop takes, and the queue then. -/
def popThenPush (q : Queue) (entry : String) (after : Duration) : Option String × Queue :=
  if q.rejecting then q.pop
  else
    match Handoff.run (q.lateMoves entry after) { entries := q.entries } with
    | some h => (h.taken 0, { q with entries := h.entries })
    | none => (none, q)

end Queue

end WebhookDelivery
