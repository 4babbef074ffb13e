import WebhookDelivery.Pipeline.World

/-!
# Tasks

What a part of the pipeline does, as a tree of calls: it is over, or it breaks down, or it makes a
call and goes on as the answer says. A task can be run in one go, or one call at a time among
others.
-/

namespace WebhookDelivery

/-- A piece of work that ends with an `α`. Calls are the places where an `async` function may wait.
-/
inductive Task (α : Type) where
  | done (a : α)
  | call (c : Call) (next : c.Answer → Task α)
  /-- An unforeseen end: a panic. -/
  | breakdown

/-- A call that was made and answered, and the world that it met. -/
structure Moment where
  world : World
  call : Call
  answer : call.Answer

namespace Task

/-- One task after another. -/
def bind {α β : Type} : Task α → (α → Task β) → Task β
  | done a, f => f a
  | call c next, f => call c fun answer => (next answer).bind f
  | breakdown, _ => breakdown

instance : Monad Task where
  pure := done
  bind := bind

/-- A single call. -/
def perform (c : Call) : Task c.Answer :=
  call c done

/-- Goes on with a value, or breaks down if there is none. -/
def ofOption {α : Type} : Option α → Task α
  | some a => done a
  | none => breakdown

/-- Makes all calls in a row. Nothing comes of a task that breaks down, and what it had changed by
then stays changed. -/
def run {α : Type} : Task α → World → Option α × World
  | done a, w => (some a, w)
  | breakdown, w => (none, w)
  | call c next, w =>
    match w.perform c with
    | (some answer, w) => (next answer).run w
    | (none, w) => (none, w)

/-- Makes one call, if there is one to make. -/
def step {α : Type} : Task α → World → Task α × World
  | done a, w => (done a, w)
  | breakdown, w => (breakdown, w)
  | call c next, w =>
    match w.perform c with
    | (some answer, w) => (next answer, w)
    | (none, w) => (breakdown, w)

/-- The call that the task makes next, if it makes one and gets an answer. -/
def moment? {α : Type} : Task α → World → Option Moment
  | call c _, w => (w.perform c).1.map fun answer => ⟨w, c, answer⟩
  | _, _ => none

/-- The calls that the task makes in a row, the latest first. -/
def moments {α : Type} : Task α → World → List Moment
  | done _, _ => []
  | breakdown, _ => []
  | call c next, w =>
    match w.perform c with
    | (some answer, w') => (next answer).moments w' ++ [⟨w, c, answer⟩]
    | (none, _) => []

/-- Running two tasks in a row runs the second where the first has ended. -/
theorem run_bind {α β : Type} (t : Task α) (f : α → Task β) (w : World) :
    (t.bind f).run w =
      match t.run w with
      | (some a, w) => (f a).run w
      | (none, w) => (none, w) := by
  induction t generalizing w with
  | done a => rfl
  | breakdown => rfl
  | call c next ih =>
    simp only [bind, run]
    rcases w.perform c with ⟨_ | answer, w'⟩
    · rfl
    · exact ih answer w'

/-- Running a task makes its first call and runs the rest. -/
theorem run_step {α : Type} (t : Task α) (w : World) :
    (t.step w).1.run (t.step w).2 = t.run w := by
  cases t with
  | done a => rfl
  | breakdown => rfl
  | call c next =>
    simp only [step, run]
    rcases w.perform c with ⟨_ | answer, w'⟩ <;> rfl

end Task

end WebhookDelivery
