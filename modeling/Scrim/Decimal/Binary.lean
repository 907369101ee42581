/-!
# Binary floating-point values

What the bits of a float say: not a number, an infinity, or a sign with a magnitude
`mantissa * 2 ^ exponent`. The magnitude also keeps whether the next smaller float is only
half as far away as the next larger one, which decides which decimals read back as it.
-/

namespace Scrim.Decimal

/-- A finite magnitude `mantissa * 2 ^ exponent`. -/
structure Binary where
  mantissa : Nat
  exponent : Int
  /-- The gap to the next smaller float is half the gap to the next larger one. -/
  narrowBelow : Bool
deriving DecidableEq, Repr

inductive Reading where
  | notANumber
  | infinite (negative : Bool)
  | finite (negative : Bool) (magnitude : Binary)
deriving DecidableEq, Repr

/-- Reads the three fields of an IEEE float with `fractionBits` stored mantissa bits and an
exponent field of at most `topField`. -/
def Reading.ofFields (fractionBits topField : Nat) (negative : Bool) (field fraction : Nat) :
    Reading :=
  let least : Int := 1 - (topField / 2 + fractionBits : Nat)
  if field = topField then
    if fraction = 0 then .infinite negative else .notANumber
  else if field = 0 then .finite negative ⟨fraction, least, false⟩
  else .finite negative
    ⟨Nat.pow 2 fractionBits + fraction, least + (field - 1 : Nat), fraction = 0 && field != 1⟩

def Reading.ofFloat32 (value : Float32) : Reading :=
  let bits := value.toBits.toNat
  .ofFields 23 255 (bits >>> 31 = 1) (bits >>> 23 % 0x100) (bits % 0x800000)

def Reading.ofFloat (value : Float) : Reading :=
  let bits := value.toBits.toNat
  .ofFields 52 2047 (bits >>> 63 = 1) (bits >>> 52 % 0x800) (bits % 0x10000000000000)

/-- A magnitude as a fraction of whole numbers, in quarters of its last binary place. -/
structure Quarters where
  numerator : Nat
  /-- A quarter of the last place, over the same denominator. -/
  quarter : Nat
  denominator : Nat

/-- The numerator counts four quarters per unit of the last place, so that the midpoints to
both neighbours are whole as well. -/
def Binary.quarters (value : Binary) : Quarters :=
  let power := value.exponent - 2
  let quarter := Nat.pow 2 power.toNat
  ⟨4 * value.mantissa * quarter, quarter, Nat.pow 2 (-power).toNat⟩

/-- The number of decimal digits of a whole number; zero has none. -/
def digitCount (n : Nat) : Nat :=
  if n = 0 then 0 else (Nat.toDigits 10 n).length

end Scrim.Decimal
