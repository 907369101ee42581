import Scrim.Proofs.Checked.EventLoop
import Scrim.Proofs.Replay

/-!
# A replay with its checks

A script is replayed over the functions of `Simulation.Checked`, so that two things can break it
off: an event that the host delivers on the way to a step, or while all settles, and the request of
a step. From a steady agenda the first never happens, and the second is what the unchecked replay
reports (`Checked.replay_eq`).
-/

namespace Scrim.Simulation.Checked

inductive Interruption where
  /-- An event of the host could not be delivered. -/
  | delivery (error : Error)
  /-- The request of a step was refused. -/
  | step (failure : StepFailure)

def request (simulation : Simulation) (number : Nat) (step : ScenarioStep) :
    Except Error Simulation := do
  let (callback, prepared) := simulation.newCallback s!"step-{number}"
  let world ← World.Checked.run (step.event.operation callback) prepared.world
  return { prepared with world }

def applyStep (simulation : Simulation) (number : Nat) (step : ScenarioStep) :
    ExceptT Interruption Option Simulation := do
  let reached ← ExceptT.adapt .delivery
    (advance simulation (Time.ofMillis step.atMs - simulation.now))
  let applied ← (request reached number step).mapError fun error =>
    Interruption.step ⟨number, step.atMs, error⟩
  return applied.note step

def applySteps (simulation : Simulation) (number : Nat) :
    List ScenarioStep → ExceptT Interruption Option Simulation
  | [] => return simulation
  | step :: rest => do
    let applied ← applyStep simulation number step
    applySteps applied (number + 1) rest

def replay (simulation : Simulation) (scenario : Scenario) :
    ExceptT Interruption Option Simulation := do
  let applied ← applySteps simulation 1 scenario.sortedSteps
  ExceptT.adapt .delivery (advance applied (Time.ofMillis scenario.settleMs))

def conclude {ε : Type} : Simulation × Option ε → Except ε Simulation
  | (last, none) => .ok last
  | (_, some failure) => .error failure

def concluded (answer : Option (Simulation × Option StepFailure)) :
    ExceptT Interruption Option Simulation :=
  ExceptT.mk (answer.map fun result => (conclude result).mapError .step)

theorem concluded_bind (last : Simulation)
    (next : Simulation → ExceptT Interruption Option Simulation) :
    (concluded (some (last, none)) >>= next) = next last := rfl

/-! ## Steady replays -/

theorem steady_applyStep {simulation applied : Simulation} {number : Nat} {step : ScenarioStep}
    {failure : Option StepFailure} (h : simulation.world.agenda.Steady)
    (hApply : simulation.applyStep number step = some (applied, failure)) :
    applied.world.agenda.Steady := by
  obtain ⟨reached, after, error, hReached, hRequest, hApplied⟩ := reached_of_applyStep hApply
  have hAfter := (steady_request ((unasked_advance hReached).leads.steady h) hRequest).1
  cases error with
  | some error =>
      obtain ⟨rfl, -⟩ := Prod.mk.inj hApplied
      exact hAfter
  | none =>
      obtain ⟨rfl, -⟩ := Prod.mk.inj hApplied
      exact hAfter

theorem steady_applySteps {steps : List ScenarioStep} {simulation applied : Simulation}
    {number : Nat} {failure : Option StepFailure} (h : simulation.world.agenda.Steady)
    (hApply : simulation.applySteps number steps = some (applied, failure)) :
    applied.world.agenda.Steady := by
  induction steps generalizing simulation number with
  | nil =>
      obtain ⟨rfl, -⟩ := Prod.mk.inj (Option.some.inj hApply)
      exact h
  | cons step rest ih =>
      rw [Simulation.applySteps] at hApply
      obtain ⟨⟨first, _ | refusal⟩, hFirst, hRest⟩ := Option.bind_eq_some_iff.mp hApply
      · exact ih (steady_applyStep h hFirst) hRest
      · obtain ⟨rfl, -⟩ := Prod.mk.inj (Option.some.inj hRest)
        exact steady_applyStep h hFirst

/-! ## What breaks off a replay -/

theorem request_eq (simulation : Simulation) (number : Nat) (step : ScenarioStep) :
    request simulation number step = conclude (simulation.request number step) := by
  unfold request Simulation.request Simulation.perform
  dsimp only
  rw [World.Checked.run_eq, Outcome.toExcept]
  generalize (step.event.operation _).run _ = outcome
  obtain ⟨world, _ | error⟩ := outcome
  · rfl
  · rfl

theorem checked_applyStep {simulation : Simulation} (h : simulation.world.agenda.Steady)
    (number : Nat) (step : ScenarioStep) :
    applyStep simulation number step = concluded (simulation.applyStep number step) := by
  unfold applyStep
  rw [advance_eq h, applyStep_eq]
  cases simulation.advance (Time.ofMillis step.atMs - simulation.now) with
  | none => rfl
  | some reached =>
      show (liftM ((request reached number step).mapError fun error =>
            Interruption.step ⟨number, step.atMs, error⟩) >>=
          fun applied => pure (applied.note step) : ExceptT Interruption Option Simulation) = _
      rw [request_eq, Option.map_some]
      generalize Simulation.request _ number step = requested
      obtain ⟨applied, _ | error⟩ := requested
      · rfl
      · rfl

theorem checked_applySteps (steps : List ScenarioStep) {simulation : Simulation}
    (h : simulation.world.agenda.Steady) (number : Nat) :
    applySteps simulation number steps = concluded (simulation.applySteps number steps) := by
  induction steps generalizing simulation number with
  | nil => rfl
  | cons step rest ih =>
      rw [applySteps, checked_applyStep h, Simulation.applySteps]
      cases hApply : simulation.applyStep number step with
      | none => rfl
      | some result =>
          obtain ⟨applied, _ | failure⟩ := result
          · exact ih (steady_applyStep h hApply) (number + 1)
          · rfl

/-- Only a step breaks off a replay, and the unchecked replay reports it. -/
theorem replay_eq {simulation : Simulation} (h : simulation.world.agenda.Steady)
    (scenario : Scenario) :
    replay simulation scenario = concluded (simulation.replay scenario) := by
  rw [replay, checked_applySteps _ h, Simulation.replay]
  cases hApply : simulation.applySteps 1 scenario.sortedSteps with
  | none => rfl
  | some result =>
      obtain ⟨applied, _ | failure⟩ := result
      · rw [concluded_bind, advance_eq (steady_applySteps h hApply), Option.bind_eq_bind,
          Option.bind_some]
        dsimp only
        cases applied.advance (Time.ofMillis scenario.settleMs) with
        | none => rfl
        | some settled => rfl
      · rfl

end Scrim.Simulation.Checked
