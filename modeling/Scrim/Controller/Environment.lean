import Scrim.Controller.Gesture

/-!
# Facts about the surroundings

Facts such as a backdrop, a dark room or an activity over the lock screen. Some change what
shows right away; the others are picked up by the next transition.
-/

namespace Scrim.World

/-- Takes over a change of the facts of the moment. -/
def override (world : World) (change : Overrides → Overrides) : World :=
  { world with controller.catalog.overrides := change world.controller.catalog.overrides }

/-- Whether the front opacity set for the always-on display shows at present. -/
def showsAodFrontAlpha (world : World) : Bool :=
  match world.controller.state with
  | .aod => world.controller.catalog.staysOn
  | .pulsing => true
  | _ => false

/-- Sets the front opacity of the always-on display and, where it shows, applies it. -/
def setAodFrontAlpha (world : World) (alpha : Float32) : Outcome :=
  if alpha.isNaN then ⟨world, some (.invalidArgument .nanAodFrontAlpha)⟩
  else
    let applies := world.controller.targets.alpha.front != alpha && world.showsAodFrontAlpha
    let changed := world.override fun overrides => { overrides with aodFrontAlpha := alpha }
    if applies then
      let targets := changed.controller.targets
      { world := { changed with
          controller.targets.alpha := { targets.alpha with front := alpha } }.update }
    else { world := changed }

/-- Takes the behind opacity of the active state from the catalog again. -/
def refreshBehind (world : World) : Outcome :=
  let controller := world.controller
  let behind := controller.catalog.behindAlpha controller.state
  if behind == controller.targets.alpha.behind then { world := world }
  else
    let changed := { world with
      controller.targets.alpha := { controller.targets.alpha with behind := behind } }
    match changed.controller.targets.nanError? controller.state with
    | some error => ⟨changed, some error⟩
    | none => { world := changed.update }

def setScreenSensor (world : World) (active : Bool) : Outcome :=
  let changed := world.override fun overrides => { overrides with screenSensorActive := active }
  if changed.controller.state = .pulsing then changed.refreshBehind else { world := changed }

/-- The backdrop may arrive after the state was applied. -/
def setBackdrop (world : World) (visible : Bool) : Outcome :=
  let changed := world.override fun overrides => { overrides with hasBackdrop := visible }
  if changed.controller.state.isLowPower then changed.refreshBehind else { world := changed }

def setKeyguardOccluded (world : World) (occluded : Bool) : World :=
  { world with controller.keyguardOccluded := occluded }.update

def setKeyguardAlpha (world : World) (alpha : Float32) : Outcome :=
  if alpha.isNaN then ⟨world, some (.invalidArgument .nanKeyguardAlpha)⟩
  else { world := { world with controller.catalog.keyguardAlpha := alpha }.scheduleUpdate }

/-- Reads the palette of the host's theme; the surfaces get it with the next update. -/
def readTheme (world : World) : World :=
  { world with controller.palette := world.host.theme, controller.paletteStale := true }

def themeChanged (world : World) : World :=
  world.readTheme.scheduleUpdate

def keyguardVisibilityChanged (world : World) (showing : Bool) : World :=
  let logged := world.debug s!"Keyguard visibility changed: showing={showing}"
  { logged with controller.paletteStale := true }.scheduleUpdate

/-- The screen is on: an awaited reveal need not wait any longer. -/
def screenTurnedOn (world : World) : World :=
  let lit := { world with controller.screenOn := true }
  match lit.controller.blanking.expediteReveal lit.host.scheduler with
  | (_, false) => lit
  | (scheduler, true) =>
    let cleared := { lit with host.scheduler := scheduler }
    (cleared.debug "Shorter blanking because screen turned on").reveal

def screenTurnedOff (world : World) : World :=
  { world with controller.screenOn := false }

end Scrim.World
