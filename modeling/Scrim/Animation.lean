import Scrim.Callback
import Scrim.Color
import Scrim.Curve
import Scrim.Layer
import Scrim.Time

/-!
# Animations

At most one animation runs per layer. An `Animation` holds everything needed to sample it:
where it leads from and to, its timing, and the registration that was active when it began.
Cancelling drops it without a trace; retargeting moves its end and shifts its start by the
same amount, so the motion keeps its shape. A step samples every begun animation and reports
the ones that reached their end.
-/

namespace Scrim

structure Look where
  alpha : Float32
  tint : Color
deriving BEq, Repr, Inhabited

/-- A running change of one layer. -/
structure Animation where
  start : Look
  stop : Look
  /-- When the animation was set up. -/
  startTime : Nat
  /-- How long it holds back before it begins. -/
  delay : Nat
  duration : Nat
  registration : Option Registration
deriving Repr

namespace Animation

def begins (animation : Animation) : Nat :=
  animation.startTime + animation.delay

def hasBegun (animation : Animation) (now : Nat) : Bool :=
  animation.begins ≤ now

/-- Linear progress at `now`, from zero before the beginning to one at the end. An animation
without duration is always at its end. -/
def progress (animation : Animation) (now : Nat) : Float32 :=
  if animation.duration = 0 then 1
  else
    let elapsed : Nat := now - animation.begins
    let share := (Time.seconds elapsed / Time.seconds animation.duration).toFloat32
    if share < 1 then share else 1

def sample (animation : Animation) (progress : Float32) : Look :=
  -- opacity and tint run along the same curve
  let amount := Curve.decelerate progress
  { alpha := Curve.constrain (Curve.lerp animation.start.alpha animation.stop.alpha amount) 0 1
    tint := animation.start.tint.blend animation.stop.tint amount }

def look (animation : Animation) (now : Nat) : Look :=
  animation.sample (animation.progress now)

/-- Whether the step at `now` shows the end of the animation. -/
def isOver (animation : Animation) (now : Nat) : Bool :=
  animation.hasBegun now && animation.progress now ≥ 1

/-- Moves the end and shifts the start along. -/
def retarget (animation : Animation) (stop : Look) : Animation :=
  let shift := stop.alpha - animation.stop.alpha
  { animation with
    start := { animation.start with alpha := animation.start.alpha + shift }
    stop := stop }

end Animation

structure Frame where
  layer : Layer
  look : Look
deriving BEq, Repr

/-- An animation that ran to its end. -/
structure Completion where
  layer : Layer
  registration : Option Registration
deriving Repr

structure Animations where
  running : PerLayer (Option Animation) := .splat none
deriving Repr

namespace Animations

def get? (animations : Animations) (layer : Layer) : Option Animation :=
  animations.running.get layer

def start (animations : Animations) (layer : Layer) (animation : Animation) : Animations :=
  ⟨animations.running.set layer (some animation)⟩

def cancel (animations : Animations) (layer : Layer) : Animations :=
  ⟨animations.running.set layer none⟩

def isAnimating (animations : Animations) (layer : Layer) : Bool :=
  (animations.get? layer).isSome

def anyAnimating (animations : Animations) : Bool :=
  Layer.all.any animations.isAnimating

/-- Moves the end of the animation of a layer; the answer is its look at `now`, if one runs. -/
def retarget (animations : Animations) (layer : Layer) (stop : Look) (now : Nat) :
    Animations × Option Look :=
  match animations.get? layer with
  | none => (animations, none)
  | some animation =>
    let moved := animation.retarget stop
    (animations.start layer moved, some (moved.look now))

def frames (animations : Animations) (now : Nat) : List Frame :=
  Layer.all.filterMap fun layer =>
    match animations.get? layer with
    | some animation => if animation.hasBegun now then some ⟨layer, animation.look now⟩ else none
    | none => none

def completions (animations : Animations) (now : Nat) : List Completion :=
  Layer.all.filterMap fun layer =>
    match animations.get? layer with
    | some animation => if animation.isOver now then some ⟨layer, animation.registration⟩ else none
    | none => none

/-- The animation left on a layer after the step at `now`. -/
def keep? (now : Nat) : Option Animation → Option Animation
  | some animation => if animation.isOver now then none else some animation
  | none => none

def advance (animations : Animations) (now : Nat) : Animations :=
  let running := animations.running
  ⟨⟨keep? now running.front, keep? now running.behind, keep? now running.notifications,
    keep? now running.auxiliary⟩⟩

@[simp] theorem get?_start_self (animations : Animations) (layer : Layer)
    (animation : Animation) : (animations.start layer animation).get? layer = some animation := by
  simp [get?, start]

@[simp] theorem get?_cancel_self (animations : Animations) (layer : Layer) :
    (animations.cancel layer).get? layer = none := by
  simp [get?, cancel]

@[simp] theorem get?_advance (animations : Animations) (layer : Layer) (now : Nat) :
    (animations.advance now).get? layer = keep? now (animations.get? layer) := by
  cases layer <;> rfl

end Animations

end Scrim
