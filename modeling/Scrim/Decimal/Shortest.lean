import Scrim.Decimal.Binary

/-!
# Shortest decimals

The decimal with the fewest digits that reads back as a given float. Every decimal between
the midpoints to the two neighbouring floats reads back as the float, the midpoints
themselves exactly if its mantissa is even. A grid of `n` digits holds such a decimal only
if one of the two grid points around the float is one, so it is enough to try these two for
`n = 1, 2, …`; of two hits on one grid the nearer wins.
-/

namespace Scrim.Decimal

/-- A decimal `digits * 10 ^ exponent`. -/
structure Scaled where
  digits : Nat
  exponent : Int
deriving DecidableEq, Repr

/-- Which of two equally near decimals is taken. -/
inductive Tie where
  | up
  | toEven
deriving DecidableEq, Repr

/-- Drops the final zeros of the digits; `fuel` bounds their number. -/
def Scaled.trim : Nat → Scaled → Scaled
  | 0, value => value
  | fuel + 1, value =>
    if value.digits ≠ 0 && value.digits % 10 = 0 then
      trim fuel ⟨value.digits / 10, value.exponent + 1⟩
    else value

/-- The least `k` with `value < 10 ^ k`, for a value above zero. -/
def Quarters.magnitude (value : Quarters) : Int :=
  if value.denominator ≤ value.numerator then
    digitCount (value.numerator / value.denominator)
  else
    let ceiling := (value.denominator + value.numerator - 1) / value.numerator
    1 - (digitCount (ceiling - 1) : Int)

/-- Whether to take the grid point above when both neighbours read back: `excess` parts of
`whole` lie between the grid point below and the value. -/
def Tie.above (tie : Tie) (below excess whole : Nat) : Bool :=
  match compare (2 * excess) whole with
  | .lt => false
  | .gt => true
  | .eq => match tie with
    | .up => true
    | .toEven => below % 2 = 1

/-- The decimal of at most `count` digits nearest to the value, if it reads back. -/
def candidate? (tie : Tie) (value : Binary) (count : Nat) : Option Scaled :=
  let q := value.quarters
  let exponent := q.magnitude - count
  let scale := Nat.pow 10 (-exponent).toNat
  let point := q.numerator * scale
  let step := q.denominator * Nat.pow 10 exponent.toNat
  -- the value lies between the grid points `below` and `below + 1`
  let below := point / step
  let excess := point % step
  -- how far the float's own interval reaches to either side
  let lowGap := (if value.narrowBelow then 1 else 2) * q.quarter * scale
  let highGap := 2 * q.quarter * scale
  let inclusive := value.mantissa % 2 = 0
  let lowHit := excess < lowGap || (inclusive && excess = lowGap)
  let highHit := step - excess < highGap || (inclusive && step - excess = highGap)
  match lowHit, highHit with
  | true, true => some ⟨if tie.above below excess step then below + 1 else below, exponent⟩
  | true, false => some ⟨below, exponent⟩
  | false, true => some ⟨below + 1, exponent⟩
  | false, false => none

/-- The shortest decimal of a magnitude. Seventeen digits always suffice for a double and
nine for a single. -/
def shortest (tie : Tie) (value : Binary) : Scaled :=
  if value.mantissa = 0 then ⟨0, 0⟩
  else
    let hit := (List.range 17).findSome? fun i => candidate? tie value (i + 1)
    (hit.getD ⟨0, 0⟩).trim 17

end Scrim.Decimal
