import WebhookDelivery.Pipeline.Submission
import WebhookDelivery.Pipeline.Sweep
import WebhookDelivery.Pipeline.Worker

/-!
# Scenes

Workers, sweeps, recoveries and submissions at work on one world. Each is an actor with a task, and
an act is one call of one actor: between two calls of an actor any calls of the others may come.
Nothing is said of who comes next, so what holds after every row of acts holds however the actors
are scheduled. A scene keeps a record of the calls made in it. Between acts actors may join, and the
outside may change the world as far as it is allowed to.

`Scene.Step` is one of these changes, and `Scene.Reachable` any number of them.
-/

namespace WebhookDelivery

-- ---------------------------------------------------------------------------
-- Actors
-- ---------------------------------------------------------------------------

/-- What an actor is there for. -/
inductive Role where
  | worker (w : Worker)
  | sweeper (s : SweepSettings)
  | recovery (s : SweepSettings)
  | submission (d : Draft)

namespace Role

/-- One round of the role's work, whatever comes of it. -/
def round : Role → Task Unit
  | worker w => w.round
  | sweeper s => do
    let _ ← s.sweep
    return ()
  | recovery s => do
    let _ ← s.recover
    return ()
  | submission d => do
    let _ ← submit d
    return ()

/-- Whether another round follows each. -/
def repeats : Role → Bool
  | worker _ | sweeper _ => true
  | recovery _ | submission _ => false

end Role

/-- Someone at work. -/
structure Actor where
  role : Role
  /-- What is left of the present round. -/
  task : Task Unit

namespace Actor

/-- An actor about to begin its first round. -/
def ofRole (role : Role) : Actor :=
  ⟨role, role.round⟩

/-- The actor's next call, or the beginning of its next round. -/
def act (a : Actor) (w : World) : Actor × World :=
  match a.task with
  | .done () => (if a.role.repeats then ofRole a.role else a, w)
  | task => ({ a with task := (task.step w).1 }, (task.step w).2)

/-- A call is one step of the actor's task. -/
theorem act_of_call (a : Actor) (w : World) {c : Call} {next : c.Answer → Task Unit}
    (h : a.task = .call c next) :
    a.act w = ({ a with task := (a.task.step w).1 }, (a.task.step w).2) := by
  simp only [act, h]

end Actor

-- ---------------------------------------------------------------------------
-- Scenes
-- ---------------------------------------------------------------------------

/-- A world and those at work on it. -/
structure Scene where
  world : World
  actors : List Actor := []
  /-- The calls that were answered, each with the number of the actor who made it, the latest
  first. -/
  history : List (Nat × Moment) := []

namespace Scene

/-- One act of an actor; nothing happens if there is no such actor. -/
def act (s : Scene) (i : Nat) : Scene :=
  match s.actors[i]? with
  | some a =>
    { world := (a.act s.world).2
      actors := s.actors.set i (a.act s.world).1
      history := (a.task.moment? s.world).toList.map (i, ·) ++ s.history }
  | none => s

/-- A further actor. -/
def join (s : Scene) (role : Role) : Scene :=
  { s with actors := s.actors ++ [Actor.ofRole role] }

/-- A row of acts. -/
def acts (s : Scene) (turns : List Nat) : Scene :=
  turns.foldl act s

/-- A change of a scene, where actors have allowed roles and the outside makes allowed changes. -/
inductive Step (roles : Role → Prop) (outside : World → World → Prop) : Scene → Scene → Prop where
  | act (s : Scene) (i : Nat) : Step roles outside s (s.act i)
  | join (s : Scene) (role : Role) (h : roles role) : Step roles outside s (s.join role)
  | outside (s : Scene) (w : World) (h : outside s.world w) :
    Step roles outside s { s with world := w }

/-- The scenes that a scene can turn into. -/
inductive Reachable (roles : Role → Prop) (outside : World → World → Prop) (start : Scene) :
    Scene → Prop where
  | refl : Reachable roles outside start start
  | step {s t : Scene} : Reachable roles outside start s → Step roles outside s t →
    Reachable roles outside start t

/-- An invariant of every change holds in every reachable scene. -/
theorem Reachable.invariant {roles : Role → Prop} {outside : World → World → Prop} {start : Scene}
    {P : Scene → Prop} (h0 : P start)
    (hstep : ∀ s t, P s → Step roles outside s t → P t) {s : Scene}
    (h : Reachable roles outside start s) : P s := by
  induction h with
  | refl => exact h0
  | step _ hs ih => exact hstep _ _ ih hs

/-- What a reachable scene can turn into is reachable. -/
theorem Reachable.trans {roles : Role → Prop} {outside : World → World → Prop}
    {start s t : Scene} (h : Reachable roles outside start s) (h' : Reachable roles outside s t) :
    Reachable roles outside start t := by
  induction h' with
  | refl => exact h
  | step _ hs ih => exact ih.step hs

/-- A row of acts is reachable. -/
theorem reachable_acts (roles : Role → Prop) (outside : World → World → Prop) (s : Scene)
    (turns : List Nat) : Reachable roles outside s (s.acts turns) := by
  suffices h : ∀ t, Reachable roles outside s t → Reachable roles outside s (t.acts turns) from
    h s .refl
  induction turns with
  | nil =>
    intro t ht
    exact ht
  | cons i rest ih =>
    intro t ht
    exact ih _ (ht.step (.act t i))

end Scene

end WebhookDelivery
