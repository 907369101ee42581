import Scrim.Controller.HostEvent

/-!
# Transitions

Moving to another state cancels the callback of the transition before, resolves the new
targets, lays the gesture over them, and has them applied before the next frame. Around the
always-on display there may be no next frame to wait for, so there they are applied at once.
-/

namespace Scrim.World

/-- The active state is asked for again: a callback that is not registered with it is
finished on the spot. -/
def confirm (world : World) (callback : Option Callback) : World :=
  match callback with
  | none => world
  | some callback =>
    let registered := match world.controller.callback with
      | none => false
      | some active => active.wraps callback
    if registered then world else world.deliver none callback .finished

/-- Cancels the callback of the transition before and registers the new one. -/
def replaceCallback (world : World) (callback : Option Callback) : World :=
  let cancelled := match world.controller.callback with
    | none => world
    | some active => world.terminate active .cancelled
  match callback with
  | none => { cancelled with controller.callback := none }
  | some callback =>
    let (registration, registry) := cancelled.controller.registry.register callback
    { cancelled with controller.callback := some registration, controller.registry := registry }

/-- The targets of a descriptor. The notifications layer follows quick settings, so it keeps
its own. -/
def descriptorTargets (world : World) (descriptor : Descriptor) : Targets :=
  let targets := world.controller.targets
  { alpha := { descriptor.alpha with notifications := targets.alpha.notifications }
    tint := { descriptor.tint with notifications := targets.tint.notifications } }

def enter (world : World) (state : State) (callback : Option Callback) : World :=
  let controller := world.controller
  -- resolved from the state that is left
  let descriptor := controller.catalog.descriptor state controller.state
  let logged := world.debug s!"State changed to: {state.name}"
  let entered := { logged with controller.state := state }.replaceCallback callback
  { entered with controller := { entered.controller with
    blankedNotified := false
    animationDelay := 0
    blankScreen := descriptor.blanksScreen
    animateChange := descriptor.animates
    animationDuration := descriptor.duration
    targets := entered.descriptorTargets descriptor } }

/-- Lays the gesture over the targets. The error is that of a NaN opacity. -/
def overlayGesture (world : World) : Outcome :=
  let controller := world.controller
  let (targets, error) :=
    controller.expansion.apply controller.state controller.catalog controller.targets
  ⟨{ world with controller.targets := targets }, error⟩

def fadesWallpaper (world : World) : Bool :=
  let catalog := world.controller.catalog
  catalog.overrides.wallpaperSupportsAmbient && world.controller.state = .aod && catalog.staysOn

def abandonBlanking (world : World) : World :=
  let (phase, scheduler) := Blanking.cancel world.host.scheduler
  { world with controller.blanking := phase, host.scheduler := scheduler }

/-- Starts the time of the wallpaper over, or ends it. -/
def restartWallpaper (world : World) : World :=
  let task :=
    if world.fadesWallpaper then Task.scheduleWallpaperTimeout else .cancelWallpaperTimeout
  { world with
    controller.wallpaperTimedOut := false
    host.scheduler := world.host.scheduler.post task }

/-- Whether the targets of a state entered from `previous` are applied without waiting for a
frame, because the display is about to change its power mode. -/
def appliesAtOnce (world : World) (previous : State) : Bool :=
  let state := world.controller.state
  let doze := world.controller.catalog.doze
  (previous = .aod && (!doze.alwaysOn || state = .unlocked))
    || (state = .aod && !doze.displayNeedsBlanking)

/-- Has the new targets applied: an unlock may be held back, and a change of power mode does
not wait. -/
def applyTransition (world : World) (previous : State) : World :=
  if world.controller.slowUnlock && world.controller.state = .unlocked then
    { world with controller.animationDelay := Time.ofMillis 100 }.scheduleUpdate
  else if world.appliesAtOnce previous then world.preDraw
  else world.scheduleUpdate

/-- The rest of a transition, once the targets are known to be sound. -/
def completeTransition (world : World) (previous : State) : World :=
  let abandoned := world.abandonBlanking
  let state := abandoned.controller.state
  let marked := { abandoned with controller.paletteStale := state ≠ State.brightnessMirror }
  let awake := if state.isLowPower then marked.holdWakeLock else marked
  -- an update at once may settle and let go of the wake lock again
  let applied := awake.restartWallpaper.applyTransition previous
  applied.dispatchState applied.host.surfaces.behind.alpha

/-- Moves to a state. Asking for the active state does not restart it. -/
def transition (world : World) (state : State) (callback : Option Callback) : Outcome :=
  if state = .uninitialized then ⟨world, some (.invalidArgument .uninitializedTarget)⟩
  else if state = world.controller.state then { world := world.confirm callback }
  else
    let entered := world.enter state callback
    match entered.controller.targets.nanError? state with
    | some error => ⟨entered, some error⟩
    | none =>
      match entered.overlayGesture with
      | ⟨overlaid, some error⟩ => ⟨overlaid, some error⟩
      | ⟨overlaid, none⟩ => { world := overlaid.completeTransition world.controller.state }

end Scrim.World
