import Scrim.Controller.Update

/-!
# Host events

What the event loop delivers: the notice before a frame is drawn, animation frames, tasks
that came due, and the wallpaper alarm. None of them can be refused.
-/

namespace Scrim

inductive HostEvent where
  /-- A frame is about to be drawn. -/
  | preDraw
  | animationFrame
  | task (task : Task)
deriving DecidableEq, Repr

namespace World

def preDraw (world : World) : World :=
  let ready := { world with
    controller.updatePending := false
    host.surfaces := world.host.surfaces.modify .behind Surface.unlisten }
  (ready.notifyActive .start).update

/-- Shows every begun animation at the present time and drops the ones that are over. -/
def showAnimations (world : World) : World :=
  let animations := world.controller.animations
  let stepped := { world with controller.animations := animations.advance world.now }
  (animations.frames world.now).foldl (fun w frame => w.draw frame.layer frame.look) stepped

def settleAll (world : World) (completions : List Completion) : World :=
  completions.foldl
    (fun w completion => (w.settle completion.registration).dispatchVisibility) world

/-- Shows every begun animation at the present time, then settles the ones that are over. -/
def animationFrame (world : World) : World :=
  -- ended animations are gone before anything settles
  let settled := world.showAnimations.settleAll
    (world.controller.animations.completions world.now)
  if settled.controller.animations.anyAnimating then
    { settled with host.scheduler := settled.host.scheduler.requestFrame }
  else settled

/-- The black frame is on the display: the callback may change the power mode now. -/
def frameCommitted (world : World) : World :=
  let controller := world.controller
  match controller.blanking.commitFrame world.host.scheduler controller.screenOn with
  | (_, _, none) => world
  | (phase, scheduler, some delay) =>
    let waiting := { world with controller.blanking := phase, host.scheduler := scheduler }
    let told :=
      if waiting.controller.callback.isSome then
        let told := waiting.notifyActive .displayBlanked
        { told with controller.blankedNotified := true }
      else waiting
    told.debug s!"Fading out scrims with delay: {Time.text delay}"

def armAlarm (world : World) : World :=
  let delay := world.controller.catalog.doze.wallpaperAodDuration
  { world with host.alarm := (world.host.alarm.schedule world.now delay .keep).1 }

def runTask (world : World) : Task → World
  | .pendingFrame => world.frameCommitted
  | .blankingTransition => world.reveal
  | .scheduleWallpaperTimeout => world.armAlarm
  | .cancelWallpaperTimeout => { world with host.alarm := world.host.alarm.cancel }

/-- The wallpaper alarm went off: while dozing, the wallpaper fades away behind a solid
layer. -/
def hideWallpaper (world : World) : World :=
  if world.controller.state.isLowPower then
    let held := world.holdWakeLock
    let controller := held.controller
    { held with controller := { controller with
      wallpaperTimedOut := true
      animateChange := true
      animationDuration := controller.catalog.doze.wallpaperFadeOutDuration } }.scheduleUpdate
  else world

end World

def HostEvent.run (event : HostEvent) (world : World) : World :=
  match event with
  | .preDraw => world.preDraw
  | .animationFrame => world.animationFrame
  | .task due => world.runTask due

end Scrim
