import Scrim.Decimal.Layout
import Scrim.Layer
import Scrim.State

/-!
# Controller errors

Why an operation of the controller is refused. Each cause is a defect of the caller or of the
configured opacities; none is corrected silently.
-/

namespace Scrim

inductive BadArgument where
  | nanSettings
  | uninitializedTarget
  | nanFraction
  | nanAodFrontAlpha
  | nanKeyguardAlpha
deriving DecidableEq, Repr

def BadArgument.message : BadArgument → String
  | .nanSettings => "scrim alpha should not be NaN"
  | .uninitializedTarget => "cannot transition to the uninitialized state"
  | .nanFraction => "fraction should not be NaN"
  | .nanAodFrontAlpha => "AOD front alpha should not be NaN"
  | .nanKeyguardAlpha => "keyguard alpha should not be NaN"

inductive Error where
  | invalidArgument (argument : BadArgument)
  /-- The opacities composed for a state hold NaN. -/
  | nanOpacity (state : State) (front behind : Float32)
  /-- A layer was addressed that the host never attached. -/
  | layerNotAttached (layer : Layer)
deriving Repr

def Error.message : Error → String
  | .invalidArgument argument => s!"invalid argument: {argument.message}"
  | .nanOpacity state front behind =>
    s!"scrim opacity is NaN for state {state.name}: "
      ++ s!"front={plainText front}, behind={plainText behind}"
  | .layerNotAttached layer => s!"{layer.name} is not attached to the controller"

end Scrim
