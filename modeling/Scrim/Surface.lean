import Scrim.Color

/-!
# Surfaces

A surface is what a layer is drawn on. It keeps the last opacity, tint and palette it was
given, every opacity ever written to it, and whether it announces its next frame.
-/

namespace Scrim

structure Surface where
  alpha : Float32 := 0
  tint : Color := Color.transparent
  palette : Palette := default
  /-- Whether the last palette was faded in. -/
  paletteFaded : Bool := false
  /-- Whether the controller wants to hear of the next frame. -/
  preDrawListener : Bool := false
  /-- Every opacity written, newest first. -/
  alphaHistory : List Float32 := []
deriving Repr, Inhabited

namespace Surface

def setAlpha (surface : Surface) (alpha : Float32) : Surface :=
  { surface with alpha := alpha, alphaHistory := alpha :: surface.alphaHistory }

def setTint (surface : Surface) (tint : Color) : Surface :=
  { surface with tint := tint }

def setPalette (surface : Surface) (palette : Palette) (fade : Bool) : Surface :=
  { surface with palette := palette, paletteFaded := fade }

def listen (surface : Surface) : Surface :=
  { surface with preDrawListener := true }

def unlisten (surface : Surface) : Surface :=
  { surface with preDrawListener := false }

end Surface

end Scrim
