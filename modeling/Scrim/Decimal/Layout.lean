import Scrim.Decimal.Shortest

/-!
# Float layouts

How the shortest decimal of a float is written: where the point goes, when an exponent is
used instead, and how zero, infinities and NaN look. One record per place that writes floats.
-/

namespace Scrim.Decimal

structure Layout where
  /-- Whether a decimal `0.d₁d₂… * 10 ^ k` is written with a point rather than an exponent. -/
  positional : Int → Bool
  /-- Whether a whole number ends in `.0`. -/
  pointZero : Bool
  /-- Whether an exponent of zero or more has a plus sign. -/
  plusSign : Bool
  tie : Tie

/-- Messages and dumps: always positional, a whole number without a point. -/
def Layout.plain : Layout := ⟨fun _ => true, false, false, .up⟩

/-- Values inside printed events: positional from `1e-4` to below `1e16`. -/
def Layout.event : Layout := ⟨fun k => -4 < k && k ≤ 16, true, false, .up⟩

/-- JSON numbers of single-precision values: positional from `1e-6` to below `1e13`. -/
def Layout.json : Layout := ⟨fun k => -6 < k && k ≤ 13, true, true, .toEven⟩

private def zeros (count : Nat) : String :=
  "".pushn '0' count

/-- The digits with the point after the first `k` of them. -/
def Layout.writePositional (layout : Layout) (digits : String) (k : Int) : String :=
  if k ≤ 0 then "0." ++ zeros (-k).toNat ++ digits
  else if digits.length ≤ k.toNat then
    digits ++ zeros (k.toNat - digits.length) ++ (if layout.pointZero then ".0" else "")
  else
    String.ofList (digits.toList.take k.toNat) ++ "." ++ String.ofList (digits.toList.drop k.toNat)

/-- One digit before the point, then the exponent. -/
def Layout.writeScientific (layout : Layout) (digits : String) (k : Int) : String :=
  let mark := if 0 ≤ k - 1 && layout.plusSign then "e+" else "e"
  match digits.toList with
  | [] => ""
  | [lead] => lead.toString ++ mark ++ toString (k - 1)
  | lead :: rest => lead.toString ++ "." ++ String.ofList rest ++ mark ++ toString (k - 1)

/-- Writes the shortest decimal that reads back. -/
def Layout.write (layout : Layout) : Reading → String
  | .notANumber => "NaN"
  | .infinite negative => if negative then "-inf" else "inf"
  | .finite negative magnitude =>
    let sign := if negative then "-" else ""
    let value := shortest layout.tie magnitude
    if value.digits = 0 then sign ++ (if layout.pointZero then "0.0" else "0")
    else
      let digits := toString value.digits
      let k := digits.length + value.exponent
      sign ++ if layout.positional k then layout.writePositional digits k
        else layout.writeScientific digits k

end Scrim.Decimal

namespace Scrim

/-- A single-precision value as messages and dumps write it. -/
def plainText (value : Float32) : String :=
  Decimal.Layout.plain.write (.ofFloat32 value)

/-- A single-precision value inside a printed event. -/
def eventText (value : Float32) : String :=
  Decimal.Layout.event.write (.ofFloat32 value)

/-- A double-precision value as messages write it. -/
def plainDouble (value : Float) : String :=
  Decimal.Layout.plain.write (.ofFloat value)

end Scrim
