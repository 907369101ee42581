/-!
# Visibility

A coarse category of what the front and behind layers show together. Only changes of the
category are reported.
-/

namespace Scrim

/-- What the front and behind layers show together. -/
inductive Visibility where
  /-- Nothing is drawn. -/
  | transparent
  /-- Something shines through. -/
  | semiTransparent
  /-- One of the layers hides all below it. -/
  | solid
deriving DecidableEq, Repr

namespace Visibility

def name : Visibility → String
  | .transparent => "transparent"
  | .semiTransparent => "semi-transparent"
  | .solid => "opaque"

def ofName? (word : String) : Option Visibility :=
  [transparent, semiTransparent, solid].find? fun visibility => visibility.name = word

def key : Visibility → String
  | .transparent => "transparent"
  | .semiTransparent => "semi_transparent"
  | .solid => "opaque"

def classify (front behind : Float32) : Visibility :=
  if front == 1 || behind == 1 then .solid
  else if front == 0 && behind == 0 then .transparent
  else .semiTransparent

/-- The category to report, if it is not the one reported last. -/
def change? (last : Option Visibility) (front behind : Float32) : Option Visibility :=
  let seen := classify front behind
  if last = some seen then none else some seen

theorem change?_eq_none_iff {last : Option Visibility} {front behind : Float32} :
    change? last front behind = none ↔ last = some (classify front behind) := by
  simp [change?]

end Visibility

end Scrim
