import Scrim.Animation
import Scrim.Blanking
import Scrim.Expansion
import Scrim.Host

/-!
# The controller and its world

The `Controller` owns the active state, the targets of every layer, the running animations
and the flags that say what is still to be done. A `World` is a controller together with the
host that it drives. Everything the controller does is a function on worlds.
-/

namespace Scrim

structure Settings where
  /-- Behind opacity of the bouncer and shade states. -/
  defaultAlpha : Float32 := 0.6
  /-- Behind opacity on the lock screen. -/
  keyguardAlpha : Float32 := 0.2
  /-- Darken instead of reveal while dragging, until a drag says otherwise. -/
  darkenWhileDragging : Bool := true
  doze : Doze := {}
deriving Repr

structure Controller where
  state : State := .uninitialized
  catalog : Catalog
  expansion : Expansion
  animations : Animations := {}
  blanking : Blanking := .idle
  wakeGuard : WakeGuard Unit
  /-- The category reported last. -/
  visibility : Option Visibility := none
  palette : Palette := default
  targets : Targets
  animationDuration : Nat
  animationDelay : Nat := 0
  /-- The registration that is told how the current transition goes. -/
  callback : Option Registration := none
  registry : Registry := {}
  /-- The display has to be blanked before the targets may show. -/
  blankScreen : Bool := false
  animateChange : Bool := false
  screenOn : Bool := false
  /-- An activity is shown over the lock screen. -/
  keyguardOccluded : Bool := false
  /-- The targets are to be applied before the next frame. -/
  updatePending : Bool := false
  /-- The wallpaper has had its time in the always-on display. -/
  wallpaperTimedOut : Bool := false
  /-- The palette has yet to be handed to the surfaces. -/
  paletteStale : Bool := false
  /-- The callback of the current transition knows that the old content is gone. -/
  blankedNotified : Bool := false
  /-- The next unlock starts with a delay. -/
  slowUnlock : Bool := false
deriving Repr

structure World where
  controller : Controller
  host : Host
  journal : Journal := {}
deriving Repr

/-- The world after an operation and, if the operation was refused, why. A refused operation
may have begun its work. -/
structure Outcome where
  world : World
  error : Option Error := none
deriving Repr

namespace World

def now (world : World) : Nat := world.host.scheduler.now

def surface? (world : World) (layer : Layer) : Option Surface :=
  world.host.surfaces.get? layer

def hasLayer (world : World) (layer : Layer) : Bool :=
  world.host.surfaces.has layer

def renderedAlpha (world : World) (layer : Layer) : Except Error Float32 :=
  match world.surface? layer with
  | some surface => .ok surface.alpha
  | none => .error (.layerNotAttached layer)

def renderedTint (world : World) (layer : Layer) : Except Error Color :=
  match world.surface? layer with
  | some surface => .ok surface.tint
  | none => .error (.layerNotAttached layer)

/-! ## Telling the host -/

def debug (world : World) (message : String) : World :=
  { world with journal.log := ⟨.debug, message⟩ :: world.journal.log }

/-- Announces the active state with the opacity of the behind layer. -/
def dispatchState (world : World) (behindAlpha : Float32) : World :=
  { world with journal.dispatches :=
      ⟨Time.stamp world.now, world.controller.state, behindAlpha⟩ :: world.journal.dispatches }

/-- Announces the category of what the front and behind layers show, if it changed. -/
def dispatchVisibility (world : World) : World :=
  let front := world.host.surfaces.front.alpha
  let behind := world.host.surfaces.behind.alpha
  match Visibility.change? world.controller.visibility front behind with
  | none => world
  | some seen =>
    let told := { world with
      controller.visibility := some seen
      journal.visibilityChanges := seen :: world.journal.visibilityChanges }
    told.debug s!"Scrims are now {seen.name}"

/-! ## Telling callbacks -/

/-- An animation runs or a black frame is held. -/
def isBusy (world : World) : Bool :=
  world.controller.animations.anyAnimating || world.controller.blanking.isPending

/-- Hands a notification to a callback, through a registration if it has one. -/
def deliver (world : World) (registration : Option Nat) (callback : Callback)
    (kind : Notification) : World :=
  let event : CallbackEvent :=
    ⟨Time.stamp world.now, registration, callback.label, kind, world.isBusy⟩
  { world with journal.callbackEvents := event :: world.journal.callbackEvents }

/-- Hands a progress notification to the callback of a registration that is still open. -/
def notify (world : World) (registration : Registration) (kind : Notification) : World :=
  if world.controller.registry.isTerminated registration then world
  else world.deliver (some registration.id) registration.callback kind

def terminate (world : World) (registration : Registration) (kind : Notification) : World :=
  match world.controller.registry.terminate registration with
  | (_, false) => world
  | (registry, true) =>
    { world with controller.registry := registry }.deliver (some registration.id)
      registration.callback kind

/-- Hands a progress notification to the callback of the current transition, if any. -/
def notifyActive (world : World) (kind : Notification) : World :=
  match world.controller.callback with
  | none => world
  | some registration => world.notify registration kind

def isActive (world : World) (registration : Registration) : Bool :=
  match world.controller.callback with
  | none => false
  | some active => active.id = registration.id

/-! ## The wake lock -/

/-- Takes over a guard and makes the call it asks for. -/
def applyGuard (world : World) (step : WakeGuard Unit × GuardResult Unit) : World :=
  { world with
    controller.wakeGuard := step.1
    journal.lockCalls := step.2.calls ++ world.journal.lockCalls
    journal.log := WakeGuard.lines step.2 ++ world.journal.log }

def holdWakeLock (world : World) : World :=
  world.applyGuard world.controller.wakeGuard.hold

def releaseWakeLock (world : World) : World :=
  world.applyGuard world.controller.wakeGuard.release

end World

end Scrim
