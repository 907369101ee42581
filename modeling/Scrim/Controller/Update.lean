import Scrim.Controller

/-!
# Bringing targets to the surfaces

An update hands stale palettes on, forces the behind layer to cover what dozing hides, and
then brings every layer to its target: at once, or by starting an animation. If the display
has to be blanked first, the front layer turns black instead and everything else waits. Once
nothing runs any more the transition *settles*: the wake lock goes, the callback is finished,
and an unlock drops the black it faded out of.
-/

namespace Scrim.World

/-! ## Single layers -/

/-- Draws an attached layer with an opacity, brought into `[0, 1]`, and a tint. -/
def draw (world : World) (layer : Layer) (look : Look) : World :=
  if world.hasLayer layer then
    let drawn := { world with
      host.surfaces := world.host.surfaces.modify layer fun surface =>
        (surface.setTint look.tint).setAlpha (Curve.constrain look.alpha 0 1) }
    drawn.dispatchVisibility
  else world

/-- Hands the palette to an attached layer. It fades in only where it can be seen and the
display is not about to be blanked. -/
def applyPalette (world : World) (layer : Layer) : World :=
  let controller := world.controller
  { world with
    host.surfaces := world.host.surfaces.modify layer fun surface =>
      surface.setPalette controller.palette (surface.alpha != 0 && !controller.blankScreen) }

def target (world : World) (layer : Layer) : Look :=
  ⟨world.controller.targets.alpha.get layer, world.controller.targets.tint.get layer⟩

def startAnimation (world : World) (layer : Layer) (current : Look) : World :=
  let controller := world.controller
  let animation : Animation :=
    { start := current
      stop := world.target layer
      startTime := world.now
      delay := controller.animationDelay
      duration := controller.animationDuration
      registration := controller.callback }
  { world with
    controller.animations := controller.animations.start layer animation
    host.scheduler := world.host.scheduler.requestFrame }

def blankDisplay (world : World) : World :=
  let covered := world.draw .front ⟨1, Color.black⟩
  let (phase, scheduler) := Blanking.begin covered.host.scheduler
  let waiting := { covered with controller.blanking := phase, host.scheduler := scheduler }
  waiting.debug s!"Blanking display before revealing {waiting.controller.state.name}"

/-- No blanking is needed: tells the callback, once, that new content may show. -/
def notifyBlankedOnce (world : World) : World :=
  if !world.controller.blankedNotified && world.controller.callback.isSome then
    let told := world.notifyActive .displayBlanked
    { told with controller.blankedNotified := true }
  else world

def moveToTarget (world : World) (layer : Layer) (current : Look) : World :=
  let target := world.target layer
  if target.alpha != current.alpha || current.tint ≠ target.tint then
    if world.controller.animateChange then world.startAnimation layer current
    else world.draw layer target
  else world

def stopAnimation (world : World) (layer : Layer) : World :=
  { world with controller.animations := world.controller.animations.cancel layer }

/-- Updates one layer. Its running animation is dropped first, since a state that no
transition asked for would come out of two at once; nothing else happens behind a held black
frame. -/
def updateLayer (world : World) (layer : Layer) : World :=
  match world.surface? layer with
  | none => world
  | some surface =>
    let stopped := world.stopAnimation layer
    -- the first layer that gets here blanks the display, and the others find it pending
    if stopped.controller.blanking.isPending then stopped
    else if stopped.controller.blankScreen then stopped.blankDisplay
    else
      let told := stopped.notifyBlankedOnce
      let announced :=
        if layer = .behind then told.dispatchState (told.target .behind).alpha else told
      announced.moveToTarget layer ⟨surface.alpha, surface.tint⟩

/-! ## Settling -/

/-- Drops the black that an unlock out of the always-on display fades from. -/
def dropUnlockTint (world : World) : World :=
  let tint := world.controller.targets.tint
  let cleared := { world with controller.targets.tint := { tint with
    front := Color.transparent
    behind := Catalog.behindTint .unlocked
    auxiliary := Color.transparent } }
  [Layer.front, .behind, .auxiliary].foldl (fun w layer => w.draw layer (w.target layer)) cleared

def finishRegistration (world : World) (registration : Registration) : World :=
  let told := world.terminate registration .finished
  if told.isActive registration then { told with controller.callback := none } else told

/-- Called when something that belongs to `registration` came to rest. While a black frame is
held nothing settles. While animations run, only a registration that was replaced is
finished; the active one waits for all of them. -/
def settle (world : World) (registration : Option Registration) : World :=
  if world.controller.blanking.isPending then world
  else if world.controller.animations.anyAnimating then
    match registration with
    | none => world
    | some registration =>
      if world.isActive registration then world else world.terminate registration .finished
  else
    let released := world.releaseWakeLock
    let finished := match registration with
      | none => released
      | some registration => released.finishRegistration registration
    if finished.controller.state = .unlocked then finished.dropUnlockTint else finished

/-! ## The update -/

/-- Hands a stale palette to the main layers and announces the state with it. -/
def refreshPalette (world : World) : World :=
  if world.controller.paletteStale then
    let fresh := { world with controller.paletteStale := false }
    let applied := ((fresh.applyPalette .front).applyPalette .behind).applyPalette .notifications
    applied.dispatchState applied.host.surfaces.behind.alpha
  else world

/-- While dozing, an overdue wallpaper and an activity over the lock screen are hidden. -/
def hideBehind (world : World) : World :=
  let controller := world.controller
  let hides := controller.wallpaperTimedOut || controller.keyguardOccluded
  if controller.state.isLowPower && hides then
    { world with controller.targets.alpha := { controller.targets.alpha with behind := 1 } }
  else world

def updateLayers (world : World) : World :=
  let ready := world.refreshPalette.hideBehind
  -- in this order, since the front layer decides on blanking
  let main := ((ready.updateLayer .front).updateLayer .behind).updateLayer .notifications
  (main.applyPalette .auxiliary).updateLayer .auxiliary

def update (world : World) : World :=
  let all := world.updateLayers
  (all.settle all.controller.callback).dispatchVisibility

/-- Has the targets applied before the next frame. -/
def scheduleUpdate (world : World) : World :=
  if world.controller.updatePending then world
  else { world with
    controller.updatePending := true
    host.surfaces := world.host.surfaces.modify .behind Surface.listen }

/-- Ends an awaited blanking and shows the real targets. -/
def reveal (world : World) : World :=
  match world.controller.blanking.reveal with
  | (_, false) => world
  | (phase, true) =>
    { world with controller.blanking := phase, controller.blankScreen := false }.update

end Scrim.World
