import Scrim.Proofs.Checked.Operation
import Scrim.Proofs.Steady

/-!
# The event loop with its checks

A simulation is created, and its event loop played, over the functions of `World.Checked`. An
event that failed would break off a round, and with it whatever was to be delivered after it.

The tasks, the alarm and the notice of a frame cannot fail whatever the world. For animation frames
the agenda has to be steady, which it stays from one round to the next (`Leads.steady`), so a loop
that begins with a steady agenda delivers everything that it would deliver without the checks
(`Checked.advance_eq`, `Checked.runUntilIdle_eq`). A loop that does not come to an end answers
neither way.
-/

namespace Scrim

def HostEvent.checked (event : HostEvent) (world : World) : Except Error World :=
  match event with
  | .preDraw => World.Checked.preDraw world
  | .animationFrame => World.Checked.animationFrame world
  | .task due => World.Checked.runTask world due

/-- A host event does not fail where every animation has its layer. -/
theorem HostEvent.checked_eq {world : World} (h : world.agenda.Attached) (event : HostEvent) :
    event.checked world = pure (event.run world) := by
  cases event with
  | preDraw => exact World.Checked.preDraw_eq world
  | animationFrame => exact World.Checked.animationFrame_eq h
  | task due => exact World.Checked.runTask_eq world due

namespace Simulation.Checked

open World (Leads)

/-! ## Creation -/

def create (settings : Settings) (options : SimulationOptions) : Except Error Simulation := do
  let attached ← World.Checked.attach settings defaultTheme options.auxiliary options.wakeLock
  let world ← if options.screenOn then World.Checked.screenTurnedOn attached else pure attached
  return { world, frameInterval := options.frameInterval }

theorem create_eq (settings : Settings) (options : SimulationOptions) :
    create settings options = Simulation.create settings options := by
  unfold create Simulation.create
  rw [World.Checked.attach_eq]
  rcases World.attach settings defaultTheme options.auxiliary options.wakeLock with error | world
  · rfl
  · dsimp only
    cases options.screenOn with
    | true =>
        show (World.Checked.screenTurnedOn world >>= _) = _
        rw [World.Checked.screenTurnedOn_eq, pure_bind]
        rfl
    | false => rfl

/-! ## One round -/

def runTasks : Nat → World → Except Error World
  | 0, world => return world
  | fuel + 1, world =>
    match world.host.scheduler.popDue with
    | none => return world
    | some (task, scheduler) => do
      let ran ← World.Checked.runTask { world with host.scheduler := scheduler } task
      runTasks fuel ran

@[simp] theorem runTasks_eq (fuel : Nat) (world : World) :
    runTasks fuel world = pure (Simulation.runTasks fuel world) := by
  induction fuel generalizing world with
  | zero => rfl
  | succ fuel ih =>
      unfold runTasks Simulation.runTasks
      cases world.host.scheduler.popDue with
      | none => rfl
      | some popped =>
          dsimp only
          rw [World.Checked.runTask_eq, pure_bind, ih]

def runDueTasks (world : World) : Except Error World :=
  runTasks world.host.scheduler.queue.length world

@[simp] theorem runDueTasks_eq (world : World) :
    runDueTasks world = pure (Simulation.runDueTasks world) :=
  runTasks_eq _ world

def fireAlarm (world : World) : Except Error World :=
  match world.host.alarm.fireIfDue world.now with
  | (_, false) => return world
  | (alarm, true) => World.Checked.hideWallpaper { world with host.alarm := alarm }

@[simp] theorem fireAlarm_eq (world : World) :
    fireAlarm world = pure (Simulation.fireAlarm world) := by
  unfold fireAlarm Simulation.fireAlarm
  rcases world.host.alarm.fireIfDue world.now with ⟨alarm, _ | _⟩
  · rfl
  · exact World.Checked.hideWallpaper_eq _

def answerFrameRequest (world : World) : Except Error World :=
  match world.host.scheduler.takeFrameRequest with
  | (false, _) => return world
  | (true, scheduler) => World.Checked.animationFrame { world with host.scheduler := scheduler }

theorem answerFrameRequest_eq {world : World} (h : world.agenda.Attached) :
    answerFrameRequest world = pure (Simulation.answerFrameRequest world) := by
  unfold answerFrameRequest Simulation.answerFrameRequest
  rcases world.host.scheduler.takeFrameRequest with ⟨_ | _, scheduler⟩
  · rfl
  · refine World.Checked.animationFrame_eq ?_
    exact h

def announceFrame (world : World) : Except Error World :=
  if world.host.surfaces.behind.preDrawListener then World.Checked.preDraw world else return world

@[simp] theorem announceFrame_eq (world : World) :
    announceFrame world = pure (Simulation.announceFrame world) := by
  unfold announceFrame Simulation.announceFrame
  split
  · exact World.Checked.preDraw_eq world
  · rfl

def runFrame (simulation : Simulation) : Except Error Simulation := do
  let answered ← answerFrameRequest simulation.world
  let world ← announceFrame answered
  let drawn := { simulation with lastFrame := some simulation.now, world }
  return { drawn with trace := drawn.snapshot :: drawn.trace }

theorem runFrame_eq {simulation : Simulation} (h : simulation.world.agenda.Attached) :
    runFrame simulation = pure simulation.runFrame := by
  rw [runFrame, answerFrameRequest_eq h, pure_bind, announceFrame_eq, pure_bind]
  rfl

def deliver (simulation : Simulation) : Except Error Simulation := do
  let ran ← runDueTasks simulation.world
  let world ← fireAlarm ran
  return { simulation with world }

@[simp] theorem deliver_eq (simulation : Simulation) :
    deliver simulation = pure simulation.deliver := by
  rw [deliver, runDueTasks_eq, pure_bind, fireAlarm_eq, pure_bind]
  rfl

def processDue (simulation : Simulation) : ExceptT Error Option Simulation := do
  let delivered ← deliver simulation
  if delivered.needsFrame then
    let frame ← delivered.nextFrameTime
    if frame ≤ delivered.now then runFrame delivered else return delivered
  else return delivered

theorem processDue_eq {simulation : Simulation} (h : simulation.world.agenda.Steady) :
    processDue simulation = ExceptT.lift simulation.processDue := by
  have hDelivered := (handed_deliver simulation).leads.steady h
  unfold processDue Simulation.processDue
  rw [deliver_eq]
  generalize simulation.deliver = delivered at hDelivered ⊢
  show (if delivered.needsFrame = true then _ else _ : ExceptT Error Option Simulation) = _
  dsimp only
  split
  · cases delivered.nextFrameTime with
    | none => rfl
    | some frame =>
        show (if frame ≤ delivered.now then _ else _ : ExceptT Error Option Simulation) =
          some (.ok (if frame ≤ delivered.now then delivered.runFrame else delivered))
        split
        · rw [runFrame_eq hDelivered.attached]
          rfl
        · rfl
  · rfl

/-! ## The loop -/

def playWhile (goesOn : Simulation → Bool) (limit rounds : Nat) (simulation : Simulation) :
    ExceptT Error Option Simulation :=
  if goesOn simulation then
    match simulation.nextEventTime with
    | none => ExceptT.lift none
    | some none => return simulation
    | some (some next) =>
      if limit < next then return simulation
      else
        match rounds with
        | 0 => ExceptT.lift none
        | more + 1 => do
          let processed ← processDue (simulation.moveClock next)
          playWhile goesOn limit more processed
  else return simulation

theorem playWhile_eq (goesOn : Simulation → Bool) (limit rounds : Nat) {simulation : Simulation}
    (h : simulation.world.agenda.Steady) : playWhile goesOn limit rounds simulation =
      ExceptT.lift (simulation.playWhile goesOn limit rounds) := by
  induction rounds generalizing simulation with
  | zero =>
      rw [playWhile, Simulation.playWhile]
      split
      · rcases simulation.nextEventTime with _ | _ | next
        · rfl
        · rfl
        · dsimp only
          split
          · rfl
          · rfl
      · rfl
  | succ rounds ih =>
      rw [playWhile, Simulation.playWhile]
      split
      · rcases simulation.nextEventTime with _ | _ | next
        · rfl
        · rfl
        · have hMoved := (leads_moveClock simulation next).steady h
          dsimp only
          split
          · rfl
          · rw [processDue_eq hMoved]
            cases hAfter : (simulation.moveClock next).processDue with
            | none => rfl
            | some after => exact ih ((handed_processDue hAfter).leads.steady hMoved)
      · rfl

def advance (simulation : Simulation) (duration : Nat) (rounds : Nat := duration + 1) :
    ExceptT Error Option Simulation := do
  let limit := simulation.now + duration
  let played ← playWhile (fun _ => true) limit rounds simulation
  return played.moveClock limit

theorem advance_eq {simulation : Simulation} (h : simulation.world.agenda.Steady)
    (duration rounds : Nat) :
    advance simulation duration rounds = ExceptT.lift (simulation.advance duration rounds) := by
  unfold advance Simulation.advance
  dsimp only
  rw [playWhile_eq _ _ _ h]
  cases Simulation.playWhile (fun _ => true) (simulation.now + duration) rounds simulation with
  | none => rfl
  | some played => rfl

def runUntilIdle (simulation : Simulation) (duration : Nat) (rounds : Nat := duration + 1) :
    ExceptT Error Option Simulation :=
  playWhile (fun simulation => !simulation.isIdle) (simulation.now + duration) rounds simulation

theorem runUntilIdle_eq {simulation : Simulation} (h : simulation.world.agenda.Steady)
    (duration rounds : Nat) : runUntilIdle simulation duration rounds =
      ExceptT.lift (simulation.runUntilIdle duration rounds) :=
  playWhile_eq _ _ _ h

end Simulation.Checked

end Scrim
