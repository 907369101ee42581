import Scrim.Controller

/-!
# The configuration

Every setting may be left out and then takes its default; the settings of a controller and
the frame interval of a simulation are resolved from what is left.
-/

namespace Scrim

structure DozeConfig where
  alwaysOn : Option Bool := none
  displayNeedsBlanking : Option Bool := none
  controlsScreenOff : Option Bool := none
  wallpaperAodDurationMs : Option Nat := none
  wallpaperFadeOutDurationMs : Option Nat := none
deriving DecidableEq, Repr

structure Config where
  /-- Use a solid scrim behind the bouncer and the shade. -/
  solidShade : Option Bool := none
  keyguardBehindAlpha : Option Float32 := none
  darkenWhileDragging : Option Bool := none
  /-- The frame interval of the simulated display. -/
  frameIntervalMs : Option Nat := none
  doze : DozeConfig := {}
deriving Repr

namespace DozeConfig

def resolve (config : DozeConfig) : Doze where
  alwaysOn := config.alwaysOn.getD false
  displayNeedsBlanking := config.displayNeedsBlanking.getD false
  controlsScreenOff := config.controlsScreenOff.getD true
  wallpaperAodDuration := Time.ofMillis (config.wallpaperAodDurationMs.getD 60000)
  wallpaperFadeOutDuration := Time.ofMillis (config.wallpaperFadeOutDurationMs.getD 400)

end DozeConfig

namespace Config

/-- Behind opacity of the bouncer and shade states. A scrim that is not solid still keeps the
text on it legible. -/
def defaultAlpha (config : Config) : Float32 :=
  if config.solidShade.getD false then 1 else 0.6

def frameInterval (config : Config) : Nat :=
  Time.ofMillis (config.frameIntervalMs.getD 16)

def settings (config : Config) : Settings where
  defaultAlpha := config.defaultAlpha
  keyguardAlpha := config.keyguardBehindAlpha.getD 0.2
  darkenWhileDragging := config.darkenWhileDragging.getD true
  doze := config.doze.resolve

end Config

end Scrim
