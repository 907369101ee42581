import Scrim.Curve

/-!
# Colors

Packed ARGB colors, their blends and their contrast, and the palette that a theme gives to
every surface. A blend works channel by channel and truncates, so at ratio zero it is the
first color and at ratio one the second.
-/

namespace Scrim

/-- Four 8-bit channels packed as alpha, red, green, blue from the high byte down. -/
structure Color where
  argb : UInt32
deriving DecidableEq, Repr, Inhabited

namespace Color

def transparent : Color := ⟨0x00000000⟩

def black : Color := ⟨0xff000000⟩

def white : Color := ⟨0xffffffff⟩

def ofChannels (alpha red green blue : UInt8) : Color :=
  ⟨alpha.toUInt32 <<< 24 ||| red.toUInt32 <<< 16 ||| green.toUInt32 <<< 8 ||| blue.toUInt32⟩

def alpha (color : Color) : UInt8 := (color.argb >>> 24).toUInt8

def red (color : Color) : UInt8 := (color.argb >>> 16).toUInt8

def green (color : Color) : UInt8 := (color.argb >>> 8).toUInt8

def blue (color : Color) : UInt8 := color.argb.toUInt8

/-- One channel of a blend; a sum outside the byte range saturates. -/
def mixChannel (a b : UInt8) (ratio : Float32) : UInt8 :=
  (a.toFloat32 * (1 - ratio) + b.toFloat32 * ratio).toUInt8

def blend (a b : Color) (ratio : Float32) : Color :=
  ofChannels (mixChannel a.alpha b.alpha ratio) (mixChannel a.red b.red ratio)
    (mixChannel a.green b.green ratio) (mixChannel a.blue b.blue ratio)

/-- The linear light of one sRGB channel. -/
def linearChannel (channel : UInt8) : Float :=
  let c := channel.toFloat / 255
  if c < 0.03928 then c / 12.92 else ((c + 0.055) / 1.055).pow 2.4

/-- Relative luminance; alpha does not count. -/
def luminance (color : Color) : Float :=
  0.2126 * linearChannel color.red + 0.7152 * linearChannel color.green
    + 0.0722 * linearChannel color.blue

def contrast (a b : Color) : Float :=
  let la := a.luminance + 0.05
  let lb := b.luminance + 0.05
  if la < lb then lb / la else la / lb

private def hexDigit (n : UInt32) : Char :=
  if n < 10 then Char.ofNat (48 + n.toNat) else Char.ofNat (87 + n.toNat)

def hex (color : Color) : String :=
  let shifts : List UInt32 := [28, 24, 20, 16, 12, 8, 4, 0]
  let digits := shifts.map fun shift => hexDigit ((color.argb >>> shift) &&& 0xf)
  "0x" ++ String.ofList digits

end Color

structure Palette where
  mainColor : Color
  secondaryColor : Color
  supportsDarkText : Bool
deriving DecidableEq, Repr, Inhabited

namespace Palette

/-- The least contrast of the main color with white for dark text. -/
def darkTextContrast : Float := 4.5

def ofTheme (background accent : Color) : Palette where
  mainColor := background
  secondaryColor := accent
  supportsDarkText := background.contrast Color.white > darkTextContrast

end Palette

end Scrim
