import Scrim.Proofs.Attempt
import Scrim.Proofs.Livery
import Scrim.Proofs.Outlook

/-!
# Activities over the lock screen

While the display dozes or pulses, an activity that is shown over the lock screen is to be hidden
behind a solid layer (`World.Hides`). Updates see to that: whatever the targets were, an update of a
dozing display makes the behind layer solid, and everything else that changes the targets ends in an
update or has one pending. Only a gesture that is followed at once does not: it lays its own opacity
over the targets of a pulse and draws it (`Moment.Exposes`).

`World.hidden_throughout_iff` says that there is no other way to expose an activity, and
`World.pull_exposes_activity` is a pull that exposes one.
-/

namespace Scrim.World

/-- Once no update is pending and no black frame is held, an activity over the lock screen is
hidden from a dozing display. -/
def Hides (world : World) : Prop :=
  world.controller.state.isLowPower = true → world.controller.keyguardOccluded = true →
    world.controller.updatePending = false → world.controller.blanking = .idle →
    world.controller.targets.alpha.behind = 1

/-- During a pulse over an activity, a gesture is followed that reveals what is behind. -/
def Moment.Exposes (moment : Moment) : Prop :=
  moment.before.controller.state = .pulsing ∧ moment.before.controller.keyguardOccluded = true ∧
    moment.before.controller.blanking = .idle ∧
    (∃ operation, moment.event = .request operation ∧
      operation.drawsGesture moment.before = true) ∧
    moment.after.controller.expansion.revealedAlpha .pulsing moment.after.controller.catalog ≠ 1

variable {world after : World}

/-! ## Updates -/

theorem hides_of_pending (h : world.controller.updatePending = true) : world.Hides := by
  intro _ _ hDone
  rw [h] at hDone
  cases hDone

/-- Whether an activity is hidden is among what drawing leaves standing, but for the black frame. -/
theorem hides_of_standing (h : after.standing = world.standing)
    (hIdle : after.controller.blanking = .idle → world.controller.blanking = .idle)
    (hHides : world.Hides) : after.Hides := by
  have hState : after.controller.state = world.controller.state :=
    congrArg (·.controller.state) h
  have hOccluded : after.controller.keyguardOccluded = world.controller.keyguardOccluded :=
    congrArg (·.controller.keyguardOccluded) h
  have hPending : after.controller.updatePending = world.controller.updatePending :=
    congrArg (·.controller.updatePending) h
  have hBehind : after.controller.targets.alpha.behind = world.controller.targets.alpha.behind :=
    congrArg (·.controller.targets.alpha.behind) h
  intro hDozes hOver hDone hBlanking
  rw [hState] at hDozes
  rw [hBehind]
  exact hHides hDozes (hOccluded.symm.trans hOver) (hPending.symm.trans hDone) (hIdle hBlanking)

theorem hides_prepare (world : World) : world.prepare.Hides := by
  have hidden (w : World) (hDozes : w.hideBehind.controller.state.isLowPower = true)
      (hOccluded : w.hideBehind.controller.keyguardOccluded = true) :
      w.hideBehind.controller.targets.alpha.behind = 1 := by
    unfold hideBehind at hDozes hOccluded ⊢
    dsimp only at hDozes hOccluded ⊢
    split
    · rfl
    · next hShows =>
      rw [if_neg hShows] at hDozes hOccluded
      simp [hDozes, hOccluded] at hShows
  exact fun hDozes hOccluded _ _ => hidden world.refresh hDozes hOccluded

/-- Every update hides what it comes upon. -/
theorem hides_of_prepared (h : after.standing = world.prepare) : after.Hides := by
  intro hDozes hOccluded hDone _
  have hHides : after.standing.Hides := h ▸ hides_prepare world
  exact hHides hDozes hOccluded hDone rfl

theorem hides_update (world : World) : world.update.Hides :=
  hides_of_prepared (standing_update world)

theorem hides_preDraw (world : World) : world.preDraw.Hides :=
  hides_of_prepared (standing_preDraw world)

theorem hides_reveal (h : world.Hides) : world.reveal.Hides := by
  have hStanding := standing_reveal world
  by_cases hPhase : world.controller.blanking = .awaitingReveal
  · rw [if_pos hPhase] at hStanding
    exact hides_of_prepared hStanding
  · rw [reveal_of_ne hPhase]
    exact h

theorem hides_scheduleUpdate (world : World) : world.scheduleUpdate.Hides :=
  hides_of_pending (congrArg (·.controller.updatePending) (standing_scheduleUpdate world))

/-! ## Host events -/

theorem hides_hideWallpaper (h : world.Hides) : world.hideWallpaper.Hides := by
  unfold hideWallpaper
  split
  · exact hides_scheduleUpdate _
  · exact h

/-- A frame neither begins nor ends a blanking. -/
theorem hides_animationFrame (hCovered : world.agenda.blanking.isPending = true →
    world.agenda.moving = false) (h : world.Hides) : world.animationFrame.Hides := by
  have hFramed := framed_animationFrame rfl hCovered
  have hBlanking : world.animationFrame.agenda.blanking = world.agenda.blanking := by
    generalize world.animationFrame.agenda = after at hFramed ⊢
    cases hFramed with
    | still still => rfl
    | moving kept moves => rfl
    | settled ended carried => rfl
  exact hides_of_standing (standing_animationFrame world) hBlanking.symm.trans h

theorem hides_runTask (h : world.Hides) (task : Task) : (world.runTask task).Hides := by
  cases task with
  | pendingFrame =>
      refine hides_of_standing (standing_frameCommitted world) (fun hIdle => ?_) h
      rcases agenda_frameCommitted world with ⟨hSame, -⟩ | ⟨-, hCommitted⟩
      · exact (congrArg Agenda.blanking hSame).symm.trans hIdle
      · cases (congrArg Agenda.blanking hCommitted).symm.trans hIdle
  | blankingTransition => exact hides_reveal h
  | scheduleWallpaperTimeout => exact h
  | cancelWallpaperTimeout => exact h

/-! ## Requests -/

theorem hides_refreshBehind (h : world.Hides) (accepted : world.refreshBehind.error = none) :
    world.refreshBehind.world.Hides := by
  unfold refreshBehind at accepted ⊢
  dsimp only at accepted ⊢
  split
  · exact h
  · next hMoves =>
    rw [if_neg hMoves] at accepted
    split
    · next hRefused => simp [hRefused] at accepted
    · dsimp only
      exact hides_update _

/-- A transition has its targets applied at once, or before the next frame. -/
theorem hides_completeTransition (world : World) (previous : State) :
    (world.completeTransition previous).Hides := by
  have applied (w : World) : (w.applyTransition previous).Hides := by
    unfold applyTransition
    split
    · exact hides_scheduleUpdate _
    · split
      · exact hides_preDraw w
      · exact hides_scheduleUpdate w
  unfold completeTransition
  extract_lets abandoned state controller marked awake complete
  exact applied awake.restartWallpaper

theorem hides_transition {state : State} {callback : Option Callback} (h : world.Hides)
    (accepted : (world.transition state callback).error = none) :
    (world.transition state callback).world.Hides := by
  by_cases hActive : state = world.controller.state
  · rw [transition_of_active hActive accepted]
    have hSilent := silent_confirm world callback
    exact hides_of_standing (standing_of_silent hSilent)
      (congrArg (·.controller.blanking) hSilent).symm.trans h
  · obtain ⟨-, -, -, hTransition⟩ := transition_eq hActive accepted
    rw [hTransition]
    exact hides_completeTransition _ _

theorem hides_run {operation : Operation} (hOther : operation.isGesture = false) (h : world.Hides)
    (accepted : (operation.run world).error = none) : (operation.run world).world.Hides := by
  cases operation with
  | transition state callback => exact hides_transition h accepted
  | panelExpansion _ => cases hOther
  | quickSettings _ _ => cases hOther
  | expansionAffectsAlpha _ => cases hOther
  | aodFrontAlpha alpha =>
      simp only [Operation.run, setAodFrontAlpha]
      split
      · exact h
      · split
        · dsimp only
          exact hides_update _
        · exact h
  | screenSensor active =>
      simp only [Operation.run, setScreenSensor] at accepted ⊢
      split
      · next hPulses =>
        rw [if_pos hPulses] at accepted
        exact hides_refreshBehind h accepted
      · exact h
  | backdrop visible =>
      simp only [Operation.run, setBackdrop] at accepted ⊢
      split
      · next hDozes =>
        rw [if_pos hDozes] at accepted
        exact hides_refreshBehind h accepted
      · exact h
  | keyguardOccluded occluded =>
      simp only [Operation.run, setKeyguardOccluded]
      exact hides_update _
  | keyguardAlpha alpha =>
      simp only [Operation.run, setKeyguardAlpha]
      split
      · exact h
      · exact hides_scheduleUpdate _
  | theme palette => exact hides_scheduleUpdate _
  | themeChanged => exact hides_scheduleUpdate _
  | keyguardVisibility showing => exact hides_scheduleUpdate _
  | screenOn =>
      simp only [Operation.run, screenTurnedOn]
      split
      · exact h
      · exact hides_reveal h
  | wallpaperTimeout => exact hides_hideWallpaper h
  | _ => exact h

/-! ## Gestures -/

theorem updatePending_run {operation : Operation} (hGesture : operation.isGesture = true) :
    (operation.run world).world.controller.updatePending = world.controller.updatePending := by
  refine congrArg Livery.pending (?_ : (operation.run world).world.livery = world.livery)
  cases operation with
  | panelExpansion fraction => exact livery_setPanelExpansion world fraction
  | quickSettings fraction panelBottom => exact livery_setQuickSettings world fraction panelBottom
  | expansionAffectsAlpha affects =>
      cases affects with
      | true => exact livery_applyGesture _
      | false => rfl
  | _ => cases hGesture

theorem drawsGesture_pull (pull : Pull) (hDone : world.controller.updatePending = false) :
    pull.operation.drawsGesture world =
      ((pull.move world.controller.expansion).2 &&
        (pull.isTracked world.controller.state &&
          (pull.move world.controller.expansion).1.affectsAlpha)) := by
  cases pull with
  | shade fraction =>
      simp only [Pull.operation, Operation.drawsGesture, Pull.move, hDone]
      rcases world.controller.expansion.setPanel fraction with error | ⟨expansion, _ | _⟩
      · rfl
      · rfl
      · rfl
  | quickSettings fraction panelBottom =>
      simp only [Pull.operation, Operation.drawsGesture, Pull.move, hDone]
      rcases world.controller.expansion.setQuickSettings fraction with ⟨expansion, _ | _⟩
      · rfl
      · rfl

/-- A gesture that is drawn lays itself over the targets; another one only moves. -/
inductive Gestured (world : World) : Bool → Outlook → Prop where
  | moved (expansion : Expansion) : Gestured world false { world.outlook with expansion }
  | drawn {expansion : Expansion} (counts : expansion.affectsAlpha = true) :
      Gestured world true (Outlook.overlay { world.outlook with expansion })

theorem gestured_pull (pull : Pull) (hDone : world.controller.updatePending = false) :
    world.Gestured (pull.operation.drawsGesture world)
      (pull.operation.run world).world.outlook := by
  have hExpansion : world.outlook.expansion = world.controller.expansion := rfl
  rw [drawsGesture_pull pull hDone, outlook_pull, Outlook.pull, hExpansion]
  rcases pull.move_cases world.controller.expansion with hMove | hMove
  · rw [hMove]
    exact .moved world.controller.expansion
  · rw [hMove]
    show world.Gestured (pull.isTracked world.controller.state && _)
      (if pull.isTracked world.controller.state then _ else _)
    cases pull.isTracked world.controller.state with
    | false => exact .moved _
    | true =>
        cases hCounts : (pull.place world.controller.expansion).affectsAlpha with
        | false =>
            rw [if_pos rfl, overlay_of_inert hCounts]
            exact .moved _
        | true => exact .drawn hCounts

theorem gestured_run {operation : Operation} (hGesture : operation.isGesture = true)
    (hDone : world.controller.updatePending = false) :
    world.Gestured (operation.drawsGesture world) (operation.run world).world.outlook := by
  cases operation with
  | panelExpansion fraction => exact gestured_pull (.shade fraction) hDone
  | quickSettings fraction panelBottom =>
      exact gestured_pull (.quickSettings fraction panelBottom) hDone
  | expansionAffectsAlpha affects =>
      simp only [Operation.drawsGesture, Operation.run, setExpansionAffectsAlpha, hDone]
      cases affects with
      | true =>
          rw [if_pos rfl, outlook_applyGesture]
          exact .drawn rfl
      | false => exact .moved { world.controller.expansion with affectsAlpha := false }
  | _ => cases hGesture

section Gestured

variable {draws : Bool} {outlook : Outlook}

theorem Gestured.state (gestured : world.Gestured draws outlook) :
    outlook.state = world.controller.state := by
  cases gestured with
  | moved expansion => rfl
  | drawn counts => rfl

theorem Gestured.occluded (gestured : world.Gestured draws outlook) :
    outlook.occluded = world.controller.keyguardOccluded := by
  cases gestured with
  | moved expansion => rfl
  | drawn counts => rfl

/-- Of the dozing states only the pulse is revealed by a gesture. -/
theorem Gestured.behind (gestured : world.Gestured draws outlook)
    (hDozes : world.controller.state.isLowPower = true) :
    outlook.targets.alpha.behind =
      if draws && world.controller.state = .pulsing then
        outlook.expansion.revealedAlpha .pulsing outlook.catalog
      else world.controller.targets.alpha.behind := by
  cases gestured with
  | moved expansion => rfl
  | @drawn expansion counts =>
      show (expansion.laid world.controller.state _ _).alpha.behind = _
      cases hState : world.controller.state with
      | aod =>
          rw [Expansion.laid_of_untracked rfl]
          rfl
      | pulsing =>
          unfold Expansion.laid Expansion.apply
          rw [if_pos counts]
          rfl
      | _ =>
          rw [hState] at hDozes
          cases hDozes

end Gestured

/-! ## Steps -/

/-- A step keeps an activity hidden, unless it exposes it. -/
theorem Step.hides {before after : World} {event : Event} (step : Step before event after)
    (hSteady : before.agenda.Steady) (h : before.Hides)
    (hKept : ¬Moment.Exposes ⟨before, event, after⟩) : after.Hides := by
  cases step with
  | @request operation accepted =>
      cases hGesture : operation.isGesture with
      | false => exact hides_run hGesture h accepted
      | true =>
          intro hDozes hOccluded hDone hIdle
          rw [updatePending_run hGesture] at hDone
          have hPhase : before.controller.blanking = .idle :=
            (blanking_run hGesture).symm.trans hIdle
          have hGestured := gestured_run hGesture hDone
          have hState : (operation.run before).world.controller.state =
              before.controller.state := hGestured.state
          rw [hState] at hDozes
          have hOver : before.controller.keyguardOccluded = true :=
            hGestured.occluded.symm.trans hOccluded
          refine (hGestured.behind hDozes).trans ?_
          split
          · next hReveals =>
            obtain ⟨hDraws, hPulses⟩ := Bool.and_eq_true_iff.mp hReveals
            by_contra hShows
            exact hKept ⟨of_decide_eq_true hPulses, hOver, hPhase, ⟨operation, rfl, hDraws⟩,
              hShows⟩
          · exact h hDozes hOver hDone hPhase
  | clock time => exact h
  | alarm due => exact hides_hideWallpaper h
  | @task task scheduler due =>
      have hTaken : Hides { before with host.scheduler := scheduler } := h
      exact hides_runTask hTaken task
  | animationFrame requested =>
      have hTaken : Hides
          { before with host.scheduler := before.host.scheduler.takeFrameRequest.2 } := h
      exact hides_animationFrame hSteady.covered hTaken
  | preDraw listening => exact hides_preDraw before

/-- What exposes an activity leaves it exposed. -/
theorem Step.exposed {before after : World} {event : Event} (step : Step before event after)
    (exposes : Moment.Exposes ⟨before, event, after⟩) : ¬after.Hides := by
  obtain ⟨hPulses, hOver, hPhase, ⟨operation, hEvent, hDraws⟩, hShows⟩ := exposes
  obtain rfl : event = .request operation := hEvent
  cases step with
  | request accepted =>
      have hGesture := Operation.isGesture_of_draws hDraws
      have hDone := Operation.updated_of_draws hDraws
      have hGestured := gestured_run hGesture hDone
      have hState : (operation.run before).world.controller.state = .pulsing :=
        hGestured.state.trans hPulses
      have hBehind := hGestured.behind (by rw [hPulses]; rfl)
      rw [if_pos (by rw [hDraws, hPulses]; rfl)] at hBehind
      intro hHides
      refine hShows (hBehind.symm.trans (hHides ?_ ?_ ?_ ?_))
      · rw [hState]
        rfl
      · exact hGestured.occluded.trans hOver
      · rw [updatePending_run hGesture]
        exact hDone
      · exact (blanking_run hGesture).trans hPhase

/-! ## Whole runs -/

theorem hides_create {settings : Settings} {options : SimulationOptions} {simulation : Simulation}
    (h : Simulation.create settings options = .ok simulation) : simulation.world.Hides := by
  have hUpdated := hides_update (fresh settings options)
  obtain ⟨message, screenOn, hWorld⟩ := create_eq h
  rw [hWorld]
  generalize (fresh settings options).update = updated at hUpdated ⊢
  exact hUpdated

/-- In every run from a fresh simulation, at every boundary at which the display dozes with no
update pending and no black frame, an activity over the lock screen is hidden behind a solid layer,
exactly if no gesture is followed that exposes one. -/
theorem hidden_throughout_iff {settings : Settings} {options : SimulationOptions}
    {simulation : Simulation} (created : Simulation.create settings options = .ok simulation)
    {last : World} {moments : List Moment} (run : Run simulation.world moments last) :
    (∀ world ∈ simulation.world :: moments.map (·.after), world.Hides) ↔
      ∀ moment ∈ moments, ¬moment.Exposes := by
  constructor
  · intro hAll moment hMem exposes
    exact (run.step moment hMem).exposed exposes
      (hAll _ (List.mem_cons_of_mem _ (List.mem_map_of_mem hMem)))
  · intro hKept world hMem
    have hHides := run.invariant_while
      (fun world => world.agenda.Steady ∧ world.Hides) (fun moment => ¬moment.Exposes)
      (fun _ _ _ hInv step hGood => ⟨step.steady hInv.1, step.hides hInv.1 hInv.2 hGood⟩)
      ⟨(driven_create created).steady, hides_create created⟩ hKept
    rcases List.mem_cons.mp hMem with rfl | hMem
    · exact hides_create created
    · obtain ⟨moment, hMoment, rfl⟩ := List.mem_map.mp hMem
      exact (hHides.2 moment hMoment).2

set_option maxRecDepth 100000 in
/-- The always-on display would show its ambient wallpaper, but hides it with an activity. -/
theorem hidden_throughout_doze : ∃ simulation occluded ambient last,
    Simulation.create {} {} = .ok simulation ∧
    Run simulation.world [⟨simulation.world, .request (.keyguardOccluded true), occluded⟩,
      ⟨occluded, .request (.ambientWallpaper true), ambient⟩,
      ⟨ambient, .request (.transition .aod none), last⟩] last ∧
    last.controller.state = .aod ∧ last.controller.keyguardOccluded = true ∧
    last.controller.updatePending = false ∧ last.controller.blanking = .idle ∧
    last.controller.catalog.behindAlpha .aod = 0 ∧
    last.controller.targets.alpha.behind = 1 := by
  have hCreated : (Simulation.create {} {}).toOption.any (fun simulation =>
      let occluded := ((Operation.keyguardOccluded true).run simulation.world).world
      let ambient := ((Operation.ambientWallpaper true).run occluded).world
      let entered := (Operation.transition .aod none).run ambient
      let controller := entered.world.controller
      entered.error.isNone && (controller.state = .aod) && controller.keyguardOccluded &&
        !controller.updatePending && (controller.blanking = .idle) &&
        (controller.catalog.behindAlpha .aod = 0)) = true := by
    decide +kernel
  obtain ⟨simulation, hCreate, hFacts⟩ := Simulation.exists_of_any_create hCreated
  simp only [Bool.and_eq_true, Bool.not_eq_true', Option.isNone_iff_eq_none,
    decide_eq_true_eq] at hFacts
  obtain ⟨⟨⟨⟨⟨hAccepted, hState⟩, hOccluded⟩, hDone⟩, hIdle⟩, hShows⟩ := hFacts
  have hCovers : ((Operation.keyguardOccluded true).run simulation.world).error = none := rfl
  have hSupports : ((Operation.ambientWallpaper true).run
      ((Operation.keyguardOccluded true).run simulation.world).world).error = none := rfl
  have hRun : Run simulation.world _ _ :=
    ((Run.nil.snoc (.request hCovers)).snoc (.request hSupports)).snoc (.request hAccepted)
  refine ⟨simulation, _, _, _, hCreate, hRun, hState, hOccluded, hDone, hIdle, hShows, ?_⟩
  refine (hidden_throughout_iff hCreate hRun).mpr ?_ _ (by simp) ?_ hOccluded hDone hIdle
  · simp [Moment.Exposes, Operation.drawsGesture]
  · rw [hState]
    rfl

def occludedPulse : List Simulation.Call :=
  [.perform (.panelExpansion 0), .perform (.transition .pulsing none), .advance 0,
    .perform (.keyguardOccluded true)]

set_option maxRecDepth 100000 in
/-- A small pull of the shade reveals what is behind a pulse, and the activity with it. -/
theorem pull_exposes_activity : ∃ simulation,
    Simulation.play {} {} (occludedPulse ++ [.perform (.panelExpansion 0.125)]) = some simulation ∧
    Simulation.Reached {} {} simulation ∧
    simulation.world.controller.state = .pulsing ∧
    simulation.world.controller.keyguardOccluded = true ∧
    simulation.world.controller.updatePending = false ∧
    simulation.world.controller.blanking = .idle ∧
    simulation.world.controller.targets.alpha.behind ≠ 1 := by
  have hPlayed : (Simulation.play {} {} occludedPulse).any (fun pulse =>
      let pulled := pulse.world.outlook.pull (.shade 0.125)
      ((Operation.panelExpansion 0.125).run pulse.world).error.isNone &&
        (pulled.state = .pulsing) && pulled.occluded && !pulse.world.controller.updatePending &&
        (pulse.world.controller.blanking = .idle) && (pulled.targets.alpha.behind ≠ 1)) = true := by
    decide +kernel
  obtain ⟨pulse, hPulse, hFacts⟩ := (Option.any_eq_true _ _).mp hPlayed
  simp only [Bool.and_eq_true, Bool.not_eq_true', Option.isNone_iff_eq_none,
    decide_eq_true_eq, ← outlook_pull] at hFacts
  obtain ⟨⟨⟨⟨⟨hAccepted, hState⟩, hOccluded⟩, hDone⟩, hIdle⟩, hShows⟩ := hFacts
  have hPlay : Simulation.play {} {} (occludedPulse ++ [.perform (.panelExpansion 0.125)]) =
      some { pulse with world := ((Operation.panelExpansion 0.125).run pulse.world).world } := by
    rw [Simulation.play_append, hPulse]
    simp [Simulation.callAll, Simulation.Call.run, Simulation.perform, hAccepted]
  exact ⟨_, hPlay, Simulation.reached_play hPlay, hState, hOccluded,
    (updatePending_run rfl).trans hDone, (blanking_run rfl).trans hIdle, hShows⟩

end Scrim.World
