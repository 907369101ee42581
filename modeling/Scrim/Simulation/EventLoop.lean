import Scrim.Simulation

/-!
# The event loop

Events happen at the due time of a task, at the deadline of the alarm, or when a frame is
due. Frames fall on multiples of the frame interval, at most one per instant. `advance` moves
the clock over a span and delivers everything in it; `runUntilIdle` stops as soon as nothing
is left to do.

A loop may have no end, for instance if frames take no time. It is given a number of rounds,
and there is no answer if these are too few. Otherwise a round handles all that is due by its
instant and leaves later events only, so the instants increase, and a span of `d` nanoseconds
takes at most `d + 1` rounds, which is what a loop is given if nothing else is said.

The frame clock counts in 64 bits: what does not fit is cut off, and an interval of which
nothing is left breaks the loop off where a frame is due.
-/

namespace Scrim.Simulation

/-- An interval on the frame clock. -/
def ticks (interval : Nat) : UInt64 :=
  (max interval 1).toUInt64

/-- A quotient, rounded up. -/
def divCeil (time ticks : UInt64) : UInt64 :=
  if time % ticks > 0 then time / ticks + 1 else time / ticks

/-- The first multiple of an interval at or after `time`, on the frame clock. -/
def alignUp (time : Nat) (ticks : UInt64) : Nat :=
  (divCeil time.toUInt64 ticks * ticks).toNat

def frameTime (simulation : Simulation) : Nat :=
  let frame := alignUp simulation.now (ticks simulation.frameInterval)
  -- an instant that had its frame waits for the next one
  match simulation.lastFrame with
  | some last => if frame ≤ last then last + simulation.frameInterval else frame
  | none => frame

def nextFrameTime (simulation : Simulation) : Option Nat :=
  if ticks simulation.frameInterval = 0 then none else some simulation.frameTime

def nextEventTime (simulation : Simulation) : Option (Option Nat) := do
  let host := simulation.world.host
  let frame ← if simulation.needsFrame then simulation.nextFrameTime.map some else some none
  return [frame, host.scheduler.nextDue, host.alarm.deadline].reduceOption.min?

/-- Moves the clock without delivering anything. -/
def moveClock (simulation : Simulation) (time : Nat) : Simulation :=
  { simulation with world.host.scheduler := simulation.world.host.scheduler.advanceTo time }

/-! ## One round -/

def runTasks : Nat → World → World
  | 0, world => world
  | fuel + 1, world =>
    match world.host.scheduler.popDue with
    | none => world
    | some (task, scheduler) =>
      runTasks fuel ({ world with host.scheduler := scheduler }.runTask task)

/-- Runs every due task. Running one posts none that is due at once, so there are no more of
them than the queue is long. -/
def runDueTasks (world : World) : World :=
  runTasks world.host.scheduler.queue.length world

def fireAlarm (world : World) : World :=
  match world.host.alarm.fireIfDue world.now with
  | (_, false) => world
  | (alarm, true) => { world with host.alarm := alarm }.hideWallpaper

def snapshot (simulation : Simulation) : TraceFrame :=
  let world := simulation.world
  { timeMs := Time.stamp simulation.now
    state := world.controller.state
    layers := Layer.all.filterMap fun layer =>
      (world.surface? layer).map fun surface => ⟨layer, surface.alpha, surface.tint⟩
    visibility := world.controller.visibility
    wakeLockHeld := world.controller.wakeGuard.held }

def answerFrameRequest (world : World) : World :=
  match world.host.scheduler.takeFrameRequest with
  | (false, _) => world
  | (true, scheduler) => { world with host.scheduler := scheduler }.animationFrame

/-- Tells a controller that listens that the frame is about to be drawn. -/
def announceFrame (world : World) : World :=
  if world.host.surfaces.behind.preDrawListener then world.preDraw else world

/-- Draws a frame: animations move first, then pending updates run. -/
def runFrame (simulation : Simulation) : Simulation :=
  let drawn := { simulation with
    lastFrame := some simulation.now
    world := announceFrame (answerFrameRequest simulation.world) }
  { drawn with trace := drawn.snapshot :: drawn.trace }

/-- Handles everything that is due but the frame. -/
def deliver (simulation : Simulation) : Simulation :=
  { simulation with world := fireAlarm (runDueTasks simulation.world) }

/-- Handles everything that is due: the tasks, the alarm, and a frame. -/
def processDue (simulation : Simulation) : Option Simulation :=
  let delivered := simulation.deliver
  -- tasks and the alarm may have asked for the frame just now
  if delivered.needsFrame then
    delivered.nextFrameTime.map fun frame =>
      if frame ≤ delivered.now then delivered.runFrame else delivered
  else some delivered

/-! ## The loop -/

/-- Plays every event up to `limit` while the simulation is to go on. -/
def playWhile (goesOn : Simulation → Bool) (limit rounds : Nat) (simulation : Simulation) :
    Option Simulation :=
  if goesOn simulation then
    match simulation.nextEventTime with
    | none => none
    | some none => some simulation
    | some (some next) =>
      if limit < next then some simulation
      else
        match rounds with
        | 0 => none
        | more + 1 => (simulation.moveClock next).processDue.bind (playWhile goesOn limit more)
  else some simulation

/-- Moves the clock forward by `duration` and delivers everything that comes due. -/
def advance (simulation : Simulation) (duration : Nat) (rounds : Nat := duration + 1) :
    Option Simulation :=
  let limit := simulation.now + duration
  (playWhile (fun _ => true) limit rounds simulation).map fun played => played.moveClock limit

/-- Advances until nothing is left to do, over at most `duration`. -/
def runUntilIdle (simulation : Simulation) (duration : Nat) (rounds : Nat := duration + 1) :
    Option Simulation :=
  playWhile (fun simulation => !simulation.isIdle) (simulation.now + duration) rounds simulation

end Scrim.Simulation
