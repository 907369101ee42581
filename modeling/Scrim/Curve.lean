/-!
# Curves

Single-precision interpolation shared by animations and gestures. Every opacity is a
`Float32`; the order of the operations below is part of the result, because each of them
rounds.
-/

namespace Scrim

namespace Curve

/-- The point `amount` of the way from `start` to `stop`; outside `[0, 1]` it extrapolates. -/
def lerp (start stop amount : Float32) : Float32 :=
  start + (stop - start) * amount

/-- The nearest value of `[low, high]`. NaN and a signed zero on the border pass unchanged. -/
def constrain (value low high : Float32) : Float32 :=
  if value < low then low else if value > high then high else value

/-- Ease-out, `1 - (1 - t)²`: fast at the start and slow at the end. -/
def decelerate (t : Float32) : Float32 :=
  1 - (1 - t) * (1 - t)

/-- The constant next to π that fixes where darkening ends. -/
def easingPi : Float := (3.14159 : Float32).toFloat

/-- How far the shade looks pulled for a raw drag fraction: nothing over the first sixth of
the drag, then `1 - (1 - cos (π d²)) / 2` with `d` the distance left to the full drag. -/
def ease (fraction : Float32) : Float32 :=
  let pulled := fraction * 1.2 - 0.2
  if pulled ≤ 0 then 0
  else
    let distance := (1 - pulled).toFloat
    (1 - 0.5 * (1 - (easingPi * (distance * distance)).cos)).toFloat32

end Curve

end Scrim
