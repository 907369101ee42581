import Scrim.Scenario
import Scrim.Simulation.EventLoop

/-!
# Replaying scenarios

Steps are applied in order of time, those of one instant in the order of the script. The
clock stands at the time of a step when it is applied. The first refused step ends the
replay. There is no answer where the event loop gives none.
-/

namespace Scrim

/-- The step that was refused: its number in order of time, its time, and the reason. -/
structure StepFailure where
  number : Nat
  atMs : Nat
  error : Error
deriving Repr

def StepFailure.message (failure : StepFailure) : String :=
  s!"Scenario step {failure.number} at {failure.atMs} ms failed: {failure.error.message}"

def Scenario.sortedSteps (scenario : Scenario) : List ScenarioStep :=
  scenario.steps.mergeSort fun a b => a.atMs ≤ b.atMs

namespace Simulation

def applyStep (simulation : Simulation) (number : Nat) (step : ScenarioStep) :
    Option (Simulation × Option StepFailure) := do
  let reached ← simulation.advance (Time.ofMillis step.atMs - simulation.now)
  let (callback, prepared) := reached.newCallback s!"step-{number}"
  match prepared.perform (step.event.operation callback) with
  | (applied, some error) => return (applied, some ⟨number, step.atMs, error⟩)
  | (applied, none) =>
    let line := s!"t={step.atMs}ms applied {step.event.describe}"
    return ({ applied with world := applied.world.debug line }, none)

/-- Applies steps up to the first that is refused, the first of them with a given number. -/
def applySteps (simulation : Simulation) (number : Nat) :
    List ScenarioStep → Option (Simulation × Option StepFailure)
  | [] => some (simulation, none)
  | step :: rest => do
    match ← simulation.applyStep number step with
    | (failed, some failure) => return (failed, some failure)
    | (applied, none) => applied.applySteps (number + 1) rest

/-- Replays a scenario, then keeps running for its settle time. -/
def replay (simulation : Simulation) (scenario : Scenario) :
    Option (Simulation × Option StepFailure) := do
  match ← simulation.applySteps 1 scenario.sortedSteps with
  | (failed, some failure) => return (failed, some failure)
  | (applied, none) =>
    let settled ← applied.advance (Time.ofMillis scenario.settleMs)
    return (settled, none)

end Simulation

end Scrim
