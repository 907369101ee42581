import Scrim.CommandLine.Commands
import Scrim.Proofs.Checked.Replay
import Scrim.Proofs.Number

/-!
# Accepted inputs

A configuration within its limits has opacities that are numbers and frames that are some time apart
(`Config.number_keyguardAlpha`, `Config.frameInterval_within`), so a controller can be attached and
the event loop comes to an end. A script that passes the check never returns to the starting state,
so a step of it is refused for a number it names that is none, or for an opacity that came out as
none, and for nothing else (`objection_of_refused`).

The main statement is `CommandLine.replays_accepted_inputs`: the replay of accepted inputs settles,
or ends in such a step, which is reported by its number and its time.
-/

namespace Scrim

/-! ## Configurations -/

namespace Config

variable {config : Config}

/-- A configuration is accepted if no setting that is given violates its limits. -/
theorem errors_of_validate (h : config.validate = .ok ()) :
    (∀ alpha, config.keyguardBehindAlpha = some alpha → alphaError? alpha = none) ∧
    ∀ ms, config.frameIntervalMs = some ms → frameIntervalError? ms = none := by
  have hNone : config.error? = none := by
    unfold validate at h
    split at h
    · assumption
    · cases h
  unfold error? at hNone
  simp only [Option.orElse_eq_orElse, Option.orElse_eq_or, Option.or_eq_none_iff] at hNone
  obtain ⟨hAlpha, hInterval, -⟩ := hNone
  exact ⟨Option.bind_eq_none_iff.mp hAlpha, Option.bind_eq_none_iff.mp hInterval⟩

theorem number_defaultAlpha (config : Config) : config.settings.defaultAlpha.isNaN = false := by
  unfold settings defaultAlpha
  dsimp only
  split
  · decide
  · decide

theorem number_keyguardAlpha (h : config.validate = .ok ()) :
    config.settings.keyguardAlpha.isNaN = false := by
  unfold settings
  dsimp only
  cases hAlpha : config.keyguardBehindAlpha with
  | none => decide
  | some alpha =>
      have hError := (errors_of_validate h).1 alpha hAlpha
      unfold alphaError? at hError
      split at hError
      · next hRange =>
        rw [Bool.and_eq_true, decide_eq_true_eq] at hRange
        exact (numbers_of_le hRange.1).2
      · cases hError

/-- Frames are some time apart, and not too far for the frame clock. -/
theorem frameInterval_within (h : config.validate = .ok ()) :
    0 < config.frameInterval ∧ config.frameInterval < Simulation.clockRange := by
  have hWithin : 1 ≤ config.frameIntervalMs.getD 16 ∧ config.frameIntervalMs.getD 16 ≤ 1000 := by
    cases hInterval : config.frameIntervalMs with
    | none => decide
    | some ms =>
        have hError := (errors_of_validate h).2 ms hInterval
        unfold frameIntervalError? at hError
        split at hError
        · next hRange =>
          rw [Bool.and_eq_true, decide_eq_true_eq, decide_eq_true_eq] at hRange
          exact hRange
        · cases hError
  have hLeast := Time.ofMillis_le hWithin.1
  have hGreatest := Time.ofMillis_le hWithin.2
  exact ⟨Nat.lt_of_lt_of_le (by decide) hLeast, Nat.lt_of_le_of_lt hGreatest (by decide)⟩

end Config

theorem exists_create {settings : Settings} (hDefault : settings.defaultAlpha.isNaN = false)
    (hKeyguard : settings.keyguardAlpha.isNaN = false) (options : SimulationOptions) :
    ∃ simulation, Simulation.create settings options = .ok simulation := by
  unfold Simulation.create World.attach
  rw [hDefault, hKeyguard]
  exact ⟨_, rfl⟩

/-! ## Scripts -/

/-- Why a step is refused: the fraction or the opacity that it names is no number, or one of the
opacities that came out for a state is none. -/
inductive Objection : ScenarioEvent → Error → Prop where
  | fraction {fraction : Float32} (nan : fraction.isNaN = true) :
      Objection (.panelExpansion fraction) (.invalidArgument .nanFraction)
  | aodFrontAlpha {alpha : Float32} (nan : alpha.isNaN = true) :
      Objection (.aodFrontAlpha alpha) (.invalidArgument .nanAodFrontAlpha)
  | opacity {event : ScenarioEvent} {state : State} {front behind : Float32} :
      Objection event (.nanOpacity state front behind)

theorem Scenario.proper_of_check {scenario : Scenario} (h : scenario.check = .ok scenario) :
    ∀ step ∈ scenario.steps, step.event ≠ .transition .uninitialized := by
  have hNone : scenario.badStep? = none := by
    unfold check at h
    split at h
    · cases h
    · assumption
  unfold badStep? at hNone
  rw [List.find?_eq_none] at hNone
  intro step hMem hEvent
  apply hNone step hMem
  rw [hEvent]

namespace World

variable {world : World} {error : Error}

/-- A transition to any state but the starting one is only refused for an opacity. -/
theorem objection_transition {state : State} {callback : Option Callback}
    (proper : state ≠ .uninitialized)
    (refused : (world.transition state callback).error = some error) :
    Objection (.transition state) error := by
  unfold transition at refused
  rw [if_neg proper] at refused
  split at refused
  · cases refused
  · dsimp only at refused
    split at refused
    · next hNaN =>
      obtain rfl := Option.some.inj refused
      rw [eq_nanOpacity hNaN]
      exact .opacity
    · split at refused
      · next hOverlay =>
        obtain rfl := Option.some.inj refused
        rw [error_overlayGesture (congrArg Outcome.error hOverlay)]
        exact .opacity
      · cases refused

theorem objection_applyGesture {event : ScenarioEvent}
    (refused : world.applyGesture.error = some error) : Objection event error := by
  rw [(refused_applyGesture refused).1]
  exact .opacity

theorem objection_refreshBehind {event : ScenarioEvent} {change : Overrides → Overrides}
    (refused : (world.override change).refreshBehind.error = some error) :
    Objection event error := by
  rw [(refused_refreshBehind refused).2.1]
  exact .opacity

theorem objection_setPanelExpansion {fraction : Float32}
    (refused : (world.setPanelExpansion fraction).error = some error) :
    Objection (.panelExpansion fraction) error := by
  unfold setPanelExpansion Expansion.setPanel at refused
  cases hNumber : fraction.isNaN with
  | true =>
      simp only [hNumber, if_true, Option.some.injEq] at refused
      subst refused
      exact .fraction hNumber
  | false =>
      cases hMoves : world.controller.expansion.panel == fraction with
      | true =>
          simp only [hNumber, hMoves, Bool.false_eq_true, if_false, if_true] at refused
          cases refused
      | false =>
          simp only [hNumber, hMoves, Bool.false_eq_true, if_false] at refused
          split at refused
          · exact objection_applyGesture refused
          · cases refused

theorem objection_setQuickSettings {fraction : Float32} {panelBottom : Int}
    (refused : (world.setQuickSettings fraction panelBottom).error = some error) :
    Objection (.quickSettings fraction panelBottom) error := by
  unfold setQuickSettings at refused
  generalize world.followNotifications fraction panelBottom = followed at refused
  split at refused
  · cases refused
  · dsimp only at refused
    split at refused
    · cases refused
    · split at refused
      · exact objection_applyGesture refused
      · cases refused

/-- Whatever a step asks but a return to the starting state, there is only one kind of reason to
refuse it. -/
theorem objection_of_refused {event : ScenarioEvent} {callback : Callback}
    (proper : event ≠ .transition .uninitialized)
    (refused : ((event.operation callback).run world).error = some error) :
    Objection event error := by
  cases event with
  | transition state =>
      refine objection_transition ?_ refused
      rintro rfl
      exact proper rfl
  | panelExpansion fraction => exact objection_setPanelExpansion refused
  | quickSettings fraction bottomY => exact objection_setQuickSettings refused
  | expansionAffectsAlpha affects =>
      cases affects with
      | true => exact objection_applyGesture refused
      | false => cases refused
  | aodFrontAlpha alpha =>
      simp only [ScenarioEvent.operation, Operation.run, setAodFrontAlpha] at refused
      split at refused
      · next hNaN =>
        obtain rfl := Option.some.inj refused
        exact .aodFrontAlpha hNaN
      · split at refused
        · cases refused
        · cases refused
  | screenSensor active =>
      simp only [ScenarioEvent.operation, Operation.run, setScreenSensor] at refused
      split at refused
      · exact objection_refreshBehind refused
      · cases refused
  | backdrop visible =>
      simp only [ScenarioEvent.operation, Operation.run, setBackdrop] at refused
      split at refused
      · exact objection_refreshBehind refused
      · cases refused
  | _ => cases refused

end World

/-! ## Replays -/

theorem Simulation.StopsAt.objection {simulation last : Simulation} {scenario : Scenario}
    {step : ScenarioStep} {failure : StepFailure}
    (stops : simulation.StopsAt scenario step failure last)
    (hCheck : scenario.check = .ok scenario) : Objection step.event failure.error := by
  cases stops with
  | intro order replays reaches refusal =>
      have hMem : step ∈ scenario.steps := order.perm.mem_iff.mp (by simp)
      have proper := Scenario.proper_of_check hCheck step hMem
      exact World.objection_of_refused proper (congrArg Prod.snd refusal)

namespace CommandLine

open Simulation (Checked.create Checked.replay)

variable {config : Config} {scenario : Scenario}

theorem replay_eq {simulation : Simulation}
    (hCreate : Simulation.create config.settings (simulationOptions config scenario) =
      .ok simulation) :
    (replay config scenario).map Prod.snd = (simulation.replay scenario).map fun
      | (last, none) => .ok last.report
      | (_, some failure) => .error (.ofStep failure) := by
  unfold replay
  rw [hCreate]
  dsimp only
  rw [Option.map_map]
  congr 1
  funext ⟨last, refused⟩
  cases refused with
  | none => rfl
  | some failure => rfl

/-- For accepted inputs a simulation is created, and its replay comes to an end: all settles, or one
step is refused for a number that is none, after all earlier steps were applied. No event that the
host delivers on the way fails, and the command gives the report or says which step it was. -/
theorem replays_accepted_inputs (hConfig : config.validate = .ok ())
    (hScenario : scenario.check = .ok scenario) : ∃ simulation,
    Checked.create config.settings (simulationOptions config scenario) = .ok simulation ∧
    ((∃ last, simulation.Settles scenario last ∧
        (Checked.replay simulation scenario).run = some (.ok last) ∧
        (replay config scenario).map Prod.snd = some (.ok last.report)) ∨
      ∃ step failure last, simulation.StopsAt scenario step failure last ∧
        Objection step.event failure.error ∧
        (Checked.replay simulation scenario).run = some (.error (.step failure)) ∧
        (replay config scenario).map Prod.snd = some (.error (.ofStep failure))) := by
  obtain ⟨simulation, hCreate⟩ := exists_create (Config.number_defaultAlpha config)
    (Config.number_keyguardAlpha hConfig) (simulationOptions config scenario)
  refine ⟨simulation, (Simulation.Checked.create_eq _ _).trans hCreate, ?_⟩
  obtain ⟨hInterval, hFits⟩ := Config.frameInterval_within hConfig
  have hPaced := Simulation.paced_create hCreate hInterval (Simulation.ticks_ne_zero hFits)
  obtain ⟨result, hReplay⟩ := hPaced.exists_replay scenario
  rw [Simulation.Checked.replay_eq hPaced.prompt.steady, replay_eq hCreate, hReplay]
  cases Simulation.replayed_replay hCreate hReplay with
  | settled settles => exact .inl ⟨_, settles, rfl, rfl⟩
  | stopped stops => exact .inr ⟨_, _, _, stops, stops.objection hScenario, rfl, rfl⟩

def limitConfig : Config :=
  { solidShade := some true
    keyguardBehindAlpha := some 1
    frameIntervalMs := some 1000
    doze := { wallpaperAodDurationMs := some 3600000 } }

def lateScenario : Scenario :=
  { auxiliary := false, steps := Simulation.lateSteps ++ [Simulation.earlyStep] }

set_option maxRecDepth 100000 in
/-- Under settings at their limits the script stops where it has to. -/
theorem replays_accepted_inputs_at_limits :
    limitConfig.validate = .ok () ∧ lateScenario.check = .ok lateScenario ∧
    ∃ simulation step failure last,
      Checked.create limitConfig.settings (simulationOptions limitConfig lateScenario) =
        .ok simulation ∧
      simulation.StopsAt lateScenario step failure last ∧
      Objection step.event failure.error ∧
      (Checked.replay simulation lateScenario).run = some (.error (.step failure)) ∧
      (replay limitConfig lateScenario).map Prod.snd = some (.error (.ofStep failure)) := by
  refine ⟨rfl, rfl, ?_⟩
  obtain ⟨simulation, hChecked, hEnd⟩ :=
    @replays_accepted_inputs limitConfig lateScenario rfl rfl
  have hPlayed : (Simulation.create limitConfig.settings
      (simulationOptions limitConfig lateScenario)).toOption.any (fun first =>
        (first.applySteps 1 (Simulation.earlyStep :: Simulation.lateSteps)).any
          (·.2.isSome)) = true := by
    decide +kernel
  obtain ⟨first, hCreate, hEnds⟩ := Simulation.exists_of_any_create hPlayed
  obtain ⟨⟨applied, refused⟩, hSteps, hRefused⟩ := (Option.any_eq_true _ _).mp hEnds
  obtain ⟨refusal, rfl⟩ := Option.isSome_iff_exists.mp hRefused
  rcases hEnd with ⟨last, -, -, hReported⟩ | ⟨step, failure, last, hStops⟩
  · -- a step is refused, so there is no report
    have hStopped : first.replay lateScenario = some (applied, some refusal) :=
      Simulation.replay_of_refused Simulation.inOrder_earlyStep hSteps
    rw [replay_eq hCreate, hStopped] at hReported
    cases hReported
  · exact ⟨simulation, step, failure, last, hChecked, hStops⟩

end CommandLine

end Scrim
