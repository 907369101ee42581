import Scrim.Color
import Scrim.Layer
import Scrim.State
import Scrim.Visibility

/-!
# Frame traces

A `TraceFrame` is what a simulated frame rendered. Two frames have the same output if they
differ at most in their time; a collapsed trace leaves out every frame whose output is that
of the frame kept before it.
-/

namespace Scrim

structure LayerSample where
  layer : Layer
  alpha : Float32
  tint : Color
deriving BEq, Repr

structure TraceFrame where
  timeMs : Nat
  state : State
  layers : List LayerSample
  visibility : Option Visibility
  wakeLockHeld : Bool
deriving Repr

namespace TraceFrame

/-- Whether two frames rendered the same. Opacities are compared as numbers, so NaN differs
even from itself. -/
def sameOutput (a b : TraceFrame) : Bool :=
  a.state = b.state && a.layers == b.layers && a.visibility = b.visibility
    && a.wakeLockHeld = b.wakeLockHeld

/-- The frames after a kept one whose output differs from the one kept last. -/
def collapseAfter (kept : TraceFrame) : List TraceFrame → List TraceFrame
  | [] => []
  | frame :: rest =>
    if kept.sameOutput frame then collapseAfter kept rest else frame :: collapseAfter frame rest

/-- The first frame and every frame that renders something new. -/
def collapse : List TraceFrame → List TraceFrame
  | [] => []
  | first :: rest => first :: collapseAfter first rest

end TraceFrame

end Scrim
