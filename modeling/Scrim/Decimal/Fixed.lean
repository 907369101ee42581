import Scrim.Decimal.Binary

/-!
# Fixed decimal places

A float rounded to a given number of decimal places. The exact value is rounded, and a value
halfway between two results goes to the even one.
-/

namespace Scrim.Decimal

/-- The whole number nearest to `numerator / denominator`, halves to even. -/
def roundDiv (numerator denominator : Nat) : Nat :=
  let below := numerator / denominator
  match compare (2 * (numerator % denominator)) denominator with
  | .lt => below
  | .gt => below + 1
  | .eq => if below % 2 = 0 then below else below + 1

/-- `value / 10 ^ places` with exactly `places` digits after the point. -/
def placePoint (places value : Nat) : String :=
  let digits := toString value
  let padded := "".pushn '0' (places + 1 - digits.length) ++ digits
  let whole := padded.length - places
  let chars := padded.toList
  if places = 0 then padded
  else String.ofList (chars.take whole) ++ "." ++ String.ofList (chars.drop whole)

def fixed (places : Nat) : Reading → String
  | .notANumber => "NaN"
  | .infinite negative => if negative then "-inf" else "inf"
  | .finite negative magnitude =>
    let q := magnitude.quarters
    let value := roundDiv (q.numerator * Nat.pow 10 places) q.denominator
    (if negative then "-" else "") ++ placePoint places value

end Scrim.Decimal
