import Scrim.Color
import Scrim.Layer
import Scrim.State
import Scrim.Time

/-!
# The state catalog

What every state asks of the layers. Tints, plain opacities and durations are fixed; facts
about the device (`Doze`) and about the moment (`Overrides`) change some of them. A
`Descriptor` is the answer for one state as entered from another: leaving the always-on
display into the lock screen takes longer and may blank the display, and unlocking from it
fades out of black.
-/

namespace Scrim

structure Doze where
  /-- The always-on display is enabled. -/
  alwaysOn : Bool := false
  /-- The panel shows artifacts when it switches power mode and has to be blanked first. -/
  displayNeedsBlanking : Bool := false
  /-- The scrims fade the screen off themselves. -/
  controlsScreenOff : Bool := true
  /-- How long an ambient wallpaper stays visible in the always-on display. -/
  wallpaperAodDuration : Nat := Time.ofMillis 60000
  /-- How long that wallpaper takes to fade away. -/
  wallpaperFadeOutDuration : Nat := Time.ofMillis 400
deriving DecidableEq, Repr

structure Overrides where
  wallpaperSupportsAmbient : Bool := false
  screenSensorActive : Bool := false
  keyguardFadingAway : Bool := false
  keyguardFadingAwayDuration : Nat := 0
  hasBackdrop : Bool := false
  /-- Front opacity in the always-on display, lowered in dark surroundings. -/
  aodFrontAlpha : Float32 := 0
  docked : Bool := false
  launchingWithPreview : Bool := false
deriving Repr

/-- What one state asks of the layers. -/
structure Descriptor where
  state : State
  /-- Opacity per layer; the notifications layer follows quick settings instead of its entry. -/
  alpha : PerLayer Float32
  tint : PerLayer Color
  duration : Nat
  animates : Bool
  blanksScreen : Bool
  lowPower : Bool
deriving BEq, Repr

/-- The opacities, device facts and momentary facts from which descriptors are resolved. -/
structure Catalog where
  defaultAlpha : Float32
  keyguardAlpha : Float32
  doze : Doze
  overrides : Overrides := {}
deriving Repr

namespace Catalog

def changeDuration : Nat := Time.ofMillis 220

def longDuration : Nat := Time.ofMillis 1000

/-- Duration of the reveal of the lock screen out of the always-on display. -/
def wakeUpDuration : Nat := Time.ofMillis 500

/-- Duration of the unlock fade when the lock screen does not fade away by itself. -/
def unlockDuration : Nat := Time.ofMillis 300

def sensorAlpha : Float32 := 0.6

def expandedAuxiliaryAlpha : Float32 := 0.6

/-- The front opacity set for the always-on display counts only while it stays on. -/
def staysOn (catalog : Catalog) : Bool :=
  catalog.doze.alwaysOn || catalog.overrides.docked

def frontAlpha (catalog : Catalog) : State → Float32
  | .bouncerScrimmed => catalog.defaultAlpha
  | .aod => if catalog.staysOn then catalog.overrides.aodFrontAlpha else 1
  | .pulsing => catalog.overrides.aodFrontAlpha
  | _ => 0

/-- The wallpaper shows through the always-on display only if it is ambient and uncovered. -/
def aodBehindAlpha (catalog : Catalog) : Float32 :=
  if catalog.overrides.wallpaperSupportsAmbient && !catalog.overrides.hasBackdrop then 0 else 1

def behindAlpha (catalog : Catalog) : State → Float32
  | .keyguard => catalog.keyguardAlpha
  | .bouncer | .shadeLocked | .auxiliaryExpanded => catalog.defaultAlpha
  | .aod => catalog.aodBehindAlpha
  | .pulsing => if catalog.overrides.screenSensorActive then sensorAlpha else catalog.aodBehindAlpha
  | _ => 0

def auxiliaryAlpha : State → Float32
  | .auxiliaryExpanded => expandedAuxiliaryAlpha
  | _ => 0

def behindTint : State → Color
  | .keyguard | .shadeLocked | .aod | .pulsing | .unlocked => Color.black
  | _ => Color.transparent

/-- The front tint of a state; an unlock is black only out of the always-on display. -/
def frontTint (state previous : State) : Color :=
  match state with
  | .keyguard | .aod | .pulsing => Color.black
  | .unlocked => if previous = .aod then Color.black else Color.transparent
  | _ => Color.transparent

def auxiliaryTint (state previous : State) : Color :=
  match state with
  | .keyguard | .aod | .auxiliaryExpanded => Color.black
  | .unlocked => if previous = .aod then Color.black else Color.transparent
  | _ => Color.transparent

def duration (catalog : Catalog) (state previous : State) : Nat :=
  match state with
  | .keyguard => if previous = .aod then wakeUpDuration else changeDuration
  | .aod => longDuration
  | .pulsing => if catalog.overrides.screenSensorActive then longDuration else changeDuration
  | .unlocked =>
    if catalog.overrides.keyguardFadingAway then catalog.overrides.keyguardFadingAwayDuration
    else unlockDuration
  | _ => changeDuration

def animates (catalog : Catalog) : State → Bool
  | .aod => catalog.doze.controlsScreenOff
  | .unlocked => !catalog.overrides.launchingWithPreview
  | _ => true

def blanksScreen (catalog : Catalog) (state previous : State) : Bool :=
  match state with
  | .keyguard => previous = .aod && catalog.doze.displayNeedsBlanking
  | .aod | .pulsing => catalog.doze.displayNeedsBlanking
  | .unlocked => previous = .aod
  | _ => false

def descriptor (catalog : Catalog) (state previous : State) : Descriptor where
  state := state
  alpha := ⟨catalog.frontAlpha state, catalog.behindAlpha state, 0, auxiliaryAlpha state⟩
  tint := ⟨frontTint state previous, behindTint state, Color.transparent,
    auxiliaryTint state previous⟩
  duration := catalog.duration state previous
  animates := catalog.animates state
  blanksScreen := catalog.blanksScreen state previous
  lowPower := state.isLowPower

end Catalog

end Scrim
