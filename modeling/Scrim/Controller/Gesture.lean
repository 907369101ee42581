import Scrim.Controller.Transition

/-!
# Following gestures

Gestures do not wait for a frame: they move the ends of running animations, and draw the
layers that do not run, so the scrims follow the finger. Only while an update is pending do
they leave the drawing to it.
-/

namespace Scrim.World

/-- Draws a layer at its target, or moves the end of its animation there. -/
def followTarget (world : World) (layer : Layer) : World :=
  if world.hasLayer layer then
    match world.controller.animations.retarget layer (world.target layer) world.now with
    | (_, none) => world.draw layer (world.target layer)
    | (animations, some look) =>
      { world with controller.animations := animations }.draw layer look
  else world

/-- Expanding brings the wallpaper back, so its time starts over. -/
def restoreWallpaper (world : World) : World :=
  if world.controller.wallpaperTimedOut then
    { world with
      controller.wallpaperTimedOut := false
      host.scheduler := world.host.scheduler.post .scheduleWallpaperTimeout }
  else world

def followGesture (world : World) : World :=
  -- targets were laid over already, so only the drawing is left
  let moved := [Layer.behind, .notifications, .front, .auxiliary].foldl followTarget world
  (moved.dispatchState moved.host.surfaces.behind.alpha).restoreWallpaper

/-- Lays the gesture over the targets and draws them, unless an update is pending. -/
def applyGesture (world : World) : Outcome :=
  match world.overlayGesture with
  | ⟨overlaid, some error⟩ => ⟨overlaid, some error⟩
  | ⟨overlaid, none⟩ =>
    if overlaid.controller.updatePending then { world := overlaid }
    else { world := overlaid.followGesture }

def setPanelExpansion (world : World) (fraction : Float32) : Outcome :=
  match world.controller.expansion.setPanel fraction with
  | .error error => ⟨world, some error⟩
  | .ok (_, false) => { world := world }
  | .ok (expansion, true) =>
    let moved := { world with controller.expansion := expansion }
    if moved.controller.state.tracksPanel && expansion.affectsAlpha then moved.applyGesture
    else { world := moved }

/-- Draws the notifications layer for a quick settings fraction. It is never animated. -/
def followNotifications (world : World) (fraction : Float32) (panelBottom : Int) : World :=
  let controller := world.controller
  let alpha := controller.expansion.notificationsAlpha controller.state fraction panelBottom
  if alpha != controller.targets.alpha.notifications then
    { world with
      controller.targets.alpha := { controller.targets.alpha with notifications := alpha }
      host.surfaces := world.host.surfaces.modify .notifications (·.setAlpha alpha) }
  else world

/-- Quick settings were pulled to `fraction`; NaN is ignored. -/
def setQuickSettings (world : World) (fraction : Float32) (panelBottom : Int) : Outcome :=
  if fraction.isNaN then { world := world }
  else
    let followed := world.followNotifications fraction panelBottom
    match followed.controller.expansion.setQuickSettings fraction with
    | (_, false) => { world := followed }
    | (expansion, true) =>
      let moved := { followed with controller.expansion := expansion }
      if moved.controller.state.tracksQuickSettings && expansion.affectsAlpha then
        moved.applyGesture
      else { world := moved }

/-- Sets whether gestures count. When they begin to, they are laid over the targets. -/
def setExpansionAffectsAlpha (world : World) (affects : Bool) : Outcome :=
  let changed := { world with controller.expansion.affectsAlpha := affects }
  if affects then changed.applyGesture else { world := changed }

end Scrim.World
