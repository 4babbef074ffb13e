import WebhookDelivery.Pipeline.Scene

/-!
# Sequences of rounds

The work of a pipeline in which one round comes after another: each is over, or has broken down,
before the next begins. Between two rounds the outside may change the world as far as it is allowed
to. All calls made in a sequence are kept on record.
-/

namespace WebhookDelivery

/-- The worlds that rounds of allowed roles lead to, one after another, and the calls made on the
way, the latest first. -/
inductive Sequence (roles : Role → Prop) (outside : World → World → Prop) (start : World) :
    World → List Moment → Prop where
  | start : Sequence roles outside start start []
  | round {w : World} {h : List Moment} (role : Role) (allowed : roles role) :
    Sequence roles outside start w h →
    Sequence roles outside start (role.round.run w).2 (role.round.moments w ++ h)
  | outside {w w' : World} {h : List Moment} (change : outside w w') :
    Sequence roles outside start w h → Sequence roles outside start w' h

end WebhookDelivery
