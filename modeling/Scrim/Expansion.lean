import Scrim.Curve
import Scrim.Error
import Scrim.Catalog

/-!
# Gestures

While the shade or quick settings are dragged, the behind layer follows the drag instead of
the state's own opacity. In a darkening state it follows the eased shade fraction towards the
default opacity; in a revealing state it moves between the dragged-away look and the state's
own, and quick settings pull it on towards the default opacity. States of neither group are
left alone.
-/

namespace Scrim

/-- The gesture in progress and how it counts. -/
structure Expansion where
  /-- How far the shade is pulled; one before the first gesture. -/
  panel : Float32 := 1
  quickSettings : Float32 := 0
  /-- Darken rather than reveal while dragging on a secured lock screen. -/
  darkenWhileDragging : Bool
  affectsAlpha : Bool := true
  tracking : Bool := false
deriving Repr

structure Targets where
  alpha : PerLayer Float32
  tint : PerLayer Color
deriving Repr

namespace Targets

/-- The error of a state whose front or behind opacity is NaN. -/
def nanError? (targets : Targets) (state : State) : Option Error :=
  if targets.alpha.front.isNaN || targets.alpha.behind.isNaN then
    some (.nanOpacity state targets.alpha.front targets.alpha.behind)
  else none

end Targets

namespace Expansion

/-- The exponent under which the darkening states take the eased fraction. -/
def darkenExponent : Float := (0.8 : Float32).toFloat

/-- Sets the shade fraction; NaN is refused. The flag says whether the value changed. -/
def setPanel (gesture : Expansion) (fraction : Float32) : Except Error (Expansion × Bool) :=
  if fraction.isNaN then .error (.invalidArgument .nanFraction)
  else if gesture.panel == fraction then .ok (gesture, false)
  else .ok ({ gesture with panel := fraction }, true)

/-- Sets the quick settings fraction; NaN is ignored. The flag says whether the value
changed. -/
def setQuickSettings (gesture : Expansion) (fraction : Float32) : Expansion × Bool :=
  if fraction.isNaN || gesture.quickSettings == fraction then (gesture, false)
  else ({ gesture with quickSettings := fraction }, true)

/-- A drag began; it darkens unless the lock screen can be dismissed. -/
def startTracking (gesture : Expansion) (canDismissLockScreen : Bool) : Expansion :=
  { gesture with tracking := true, darkenWhileDragging := !canDismissLockScreen }

def finishExpanding (gesture : Expansion) : Expansion :=
  { gesture with tracking := false }

def eased (gesture : Expansion) : Float32 :=
  Curve.ease gesture.panel

def darkenedAlpha (gesture : Expansion) (catalog : Catalog) : Float32 :=
  (gesture.eased.toFloat.pow darkenExponent).toFloat32 * catalog.defaultAlpha

def revealedAlpha (gesture : Expansion) (state : State) (catalog : Catalog) : Float32 :=
  let start := if gesture.darkenWhileDragging then catalog.defaultAlpha else 0
  let shade := Curve.lerp start (catalog.behindAlpha state) gesture.eased
  if gesture.quickSettings > 0 then
    Curve.lerp shade catalog.defaultAlpha gesture.quickSettings
  else shade

def revealedTint (gesture : Expansion) (state : State) : Color :=
  let shade := (Catalog.behindTint .bouncer).blend (Catalog.behindTint state) gesture.eased
  if gesture.quickSettings > 0 then
    shade.blend (Catalog.behindTint .shadeLocked) gesture.quickSettings
  else shade

def overlay (gesture : Expansion) (state : State) (catalog : Catalog) (targets : Targets) :
    Targets :=
  if state.darkens then
    { targets with
      alpha := { targets.alpha with front := 0, behind := gesture.darkenedAlpha catalog } }
  else if state.reveals then
    { alpha := { targets.alpha with
        front := catalog.frontAlpha state, behind := gesture.revealedAlpha state catalog }
      tint := { targets.tint with behind := gesture.revealedTint state } }
  else targets

/-- The targets under the gesture, and the error if an opacity came out as NaN. A gesture that
does not affect opacity changes nothing and finds no error. -/
def apply (gesture : Expansion) (state : State) (catalog : Catalog) (targets : Targets) :
    Targets × Option Error :=
  if gesture.affectsAlpha then
    let overlaid := gesture.overlay state catalog targets
    (overlaid, overlaid.nanError? state)
  else (targets, none)

/-- The opacity of the notifications layer: none while the bottom of the panel is off screen,
then that of the shade in the unlocked states and that of quick settings in all others. -/
def notificationsAlpha (gesture : Expansion) (state : State) (fraction : Float32)
    (panelBottom : Int) : Float32 :=
  if panelBottom ≤ 0 then 0
  else
    let amount := match state with
      | .unlocked | .shadeLocked => gesture.eased
      | _ => fraction
    Curve.lerp 0 1 amount

end Expansion

end Scrim
