import Scrim.Controller.Environment

/-!
# Operations

Every request that a host or a user can make of the controller. Running one gives the world
after it and, if it was refused, the reason.
-/

namespace Scrim

inductive Operation where
  | transition (state : State) (callback : Option Callback)
  | panelExpansion (fraction : Float32)
  | quickSettings (fraction : Float32) (panelBottom : Int)
  | trackingStarted (canDismissLockScreen : Bool)
  | expandingFinished
  | expansionAffectsAlpha (affects : Bool)
  | aodFrontAlpha (alpha : Float32)
  | screenSensor (active : Bool)
  | backdrop (visible : Bool)
  | ambientWallpaper (supported : Bool)
  | keyguardOccluded (occluded : Bool)
  | keyguardFadingAway (fadingAway : Bool) (duration : Nat)
  | launchingAffordance (withPreview : Bool)
  | docked (inDock : Bool)
  | alwaysOn (enabled : Bool)
  | slowUnlock (enabled : Bool)
  | keyguardAlpha (alpha : Float32)
  /-- The host's wake lock is wired up. -/
  | wakeLock
  /-- The host takes another theme and says so. -/
  | theme (palette : Palette)
  | themeChanged
  | keyguardVisibility (showing : Bool)
  | screenOn
  | screenOff
  /-- The wallpaper has had its time. -/
  | wallpaperTimeout
deriving Repr

namespace Operation

def run (operation : Operation) (world : World) : Outcome :=
  match operation with
  | .transition state callback => world.transition state callback
  | .panelExpansion fraction => world.setPanelExpansion fraction
  | .quickSettings fraction panelBottom => world.setQuickSettings fraction panelBottom
  | .trackingStarted canDismiss =>
    { world := { world with
        controller.expansion := world.controller.expansion.startTracking canDismiss } }
  | .expandingFinished =>
    { world := { world with controller.expansion := world.controller.expansion.finishExpanding } }
  | .expansionAffectsAlpha affects => world.setExpansionAffectsAlpha affects
  | .aodFrontAlpha alpha => world.setAodFrontAlpha alpha
  | .screenSensor active => world.setScreenSensor active
  | .backdrop visible => world.setBackdrop visible
  | .ambientWallpaper supported =>
    { world := world.override fun facts => { facts with wallpaperSupportsAmbient := supported } }
  | .keyguardOccluded occluded => { world := world.setKeyguardOccluded occluded }
  | .keyguardFadingAway fadingAway duration =>
    { world := world.override fun facts => { facts with
        keyguardFadingAway := fadingAway, keyguardFadingAwayDuration := duration } }
  | .launchingAffordance withPreview =>
    { world := world.override fun facts => { facts with launchingWithPreview := withPreview } }
  | .docked inDock => { world := world.override fun facts => { facts with docked := inDock } }
  | .alwaysOn enabled => { world := { world with controller.catalog.doze.alwaysOn := enabled } }
  | .slowUnlock enabled => { world := { world with controller.slowUnlock := enabled } }
  | .keyguardAlpha alpha => world.setKeyguardAlpha alpha
  | .wakeLock =>
    { world := { world with controller.wakeGuard := world.controller.wakeGuard.setLock () } }
  | .theme palette => { world := { world with host.theme := palette }.themeChanged }
  | .themeChanged => { world := world.themeChanged }
  | .keyguardVisibility showing => { world := world.keyguardVisibilityChanged showing }
  | .screenOn => { world := world.screenTurnedOn }
  | .screenOff => { world := world.screenTurnedOff }
  | .wallpaperTimeout => { world := world.hideWallpaper }

end Operation

namespace World

/-- A controller wired to a fresh host, with its first update done. -/
def attach (settings : Settings) (theme : Palette) (auxiliary wakeLock : Bool) :
    Except Error World :=
  if settings.defaultAlpha.isNaN || settings.keyguardAlpha.isNaN then
    .error (.invalidArgument .nanSettings)
  else
    let catalog : Catalog :=
      { defaultAlpha := settings.defaultAlpha
        keyguardAlpha := settings.keyguardAlpha
        doze := settings.doze }
    let initial := catalog.descriptor .uninitialized .uninitialized
    let world : World :=
      { controller :=
          { catalog
            expansion := { darkenWhileDragging := settings.darkenWhileDragging }
            wakeGuard := { lock := if wakeLock then some () else none }
            targets := ⟨initial.alpha, initial.tint⟩
            animationDuration := initial.duration }
        host :=
          { surfaces := { auxiliary := if auxiliary then some {} else none }
            theme } }
    let updated := world.readTheme.update
    .ok (updated.debug
      s!"Scrim controller attached (auxiliary layer: {updated.hasLayer .auxiliary})")

end World

end Scrim
