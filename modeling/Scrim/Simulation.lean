import Scrim.Controller.Operation
import Scrim.Trace

/-!
# Simulations

A `Simulation` puts a world on a virtual display: it plays the event loop, and draws a frame
at a fixed interval whenever the controller owes one. Time moves only when it is told to.
-/

namespace Scrim

structure SimulationOptions where
  frameInterval : Nat := Time.ofMillis 16
  /-- Attach the auxiliary layer. -/
  auxiliary : Bool := true
  /-- Wire a wake lock. -/
  wakeLock : Bool := true
  /-- Report the screen as on from the start. -/
  screenOn : Bool := true
deriving DecidableEq, Repr

structure Simulation where
  world : World
  frameInterval : Nat
  /-- When the last frame was drawn. -/
  lastFrame : Option Nat := none
  /-- The number of the next callback. -/
  nextCallback : Nat := 0
  /-- The frames drawn so far, newest first. -/
  trace : List TraceFrame := []
deriving Repr

namespace Simulation

def defaultTheme : Palette := Palette.ofTheme ⟨0xff202124⟩ ⟨0xff8ab4f8⟩

def create (settings : Settings) (options : SimulationOptions) : Except Error Simulation :=
  match World.attach settings defaultTheme options.auxiliary options.wakeLock with
  | .error error => .error error
  | .ok world =>
    .ok
      { world := if options.screenOn then world.screenTurnedOn else world
        frameInterval := options.frameInterval }

def now (simulation : Simulation) : Nat := simulation.world.now

/-- A new callback, different from all before. -/
def newCallback (simulation : Simulation) (label : String) : Callback × Simulation :=
  (⟨simulation.nextCallback, label⟩,
    { simulation with nextCallback := simulation.nextCallback + 1 })

def perform (simulation : Simulation) (operation : Operation) : Simulation × Option Error :=
  let outcome := operation.run simulation.world
  ({ simulation with world := outcome.world }, outcome.error)

def alpha (simulation : Simulation) (layer : Layer) : Float32 :=
  match simulation.world.surface? layer with
  | some surface => surface.alpha
  | none => 0

def tint (simulation : Simulation) (layer : Layer) : Color :=
  match simulation.world.surface? layer with
  | some surface => surface.tint
  | none => Color.transparent

/-- How many notifications of a kind reached callbacks of a label. -/
def callbackCount (simulation : Simulation) (label : String) (kind : Notification) : Nat :=
  simulation.world.journal.callbackEvents.countP fun event =>
    event.label = label && event.kind = kind

/-- Whether the last call on the wake lock acquired it. -/
def lockHeld (simulation : Simulation) : Bool :=
  simulation.world.journal.lockCalls.head? = some .acquire

/-- Whether the host owes the controller a frame. -/
def needsFrame (simulation : Simulation) : Bool :=
  let host := simulation.world.host
  host.scheduler.frameRequested || host.surfaces.behind.preDrawListener

/-- Nothing is to be done; an armed alarm does not count. -/
def isIdle (simulation : Simulation) : Bool :=
  !simulation.needsFrame && simulation.world.host.scheduler.nextDue.isNone

end Simulation

end Scrim
