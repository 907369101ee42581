import Scrim.Proofs.Cover

/-!
# A held black frame

From the black frame to the reveal the front surface is to show nothing but black. Every event
sees to it but one: a gesture that is followed at once draws the front layer at its target, and
does not ask whether a black frame is held (`Moment.Uncovers`).

`World.covered_throughout_iff` says that there is no other way to uncover it.
-/

namespace Scrim

def Operation.isGesture : Operation → Bool
  | .panelExpansion _ | .quickSettings _ _ | .expansionAffectsAlpha _ => true
  | _ => false

/-- Whether a request is a gesture that is followed at once: it counts for the active state, and
no update is pending that could draw instead. -/
def Operation.drawsGesture (operation : Operation) (world : World) : Bool :=
  let controller := world.controller
  !controller.updatePending &&
    match operation with
    | .panelExpansion fraction =>
      match controller.expansion.setPanel fraction with
      | .ok (expansion, true) => controller.state.tracksPanel && expansion.affectsAlpha
      | _ => false
    | .quickSettings fraction _ =>
      match controller.expansion.setQuickSettings fraction with
      | (expansion, true) => controller.state.tracksQuickSettings && expansion.affectsAlpha
      | _ => false
    | .expansionAffectsAlpha affects => affects
    | _ => false

theorem Operation.isGesture_of_draws {operation : Operation} {world : World}
    (h : operation.drawsGesture world = true) : operation.isGesture = true := by
  cases operation with
  | panelExpansion fraction => rfl
  | quickSettings fraction panelBottom => rfl
  | expansionAffectsAlpha affects => rfl
  | _ => simp [drawsGesture] at h

theorem Operation.updated_of_draws {operation : Operation} {world : World}
    (h : operation.drawsGesture world = true) : world.controller.updatePending = false :=
  (Bool.not_eq_true' _).mp (Bool.and_eq_true_iff.mp h).1

namespace World

/-- What the front surface shows once the front layer is drawn at its target. -/
def frontTarget (world : World) : Look :=
  ⟨Curve.constrain (world.target .front).alpha 0 1, (world.target .front).tint⟩

/-- While a black frame is held, a gesture is followed that has the front layer show something
else. -/
def Moment.Uncovers (moment : Moment) : Prop :=
  moment.before.controller.blanking.isPending = true ∧
    (∃ operation, moment.event = .request operation ∧
      operation.drawsGesture moment.before = true) ∧
    moment.after.frontTarget ≠ .solidBlack

/-! ## Following a gesture -/

@[simp] theorem targets_dispatchVisibility (world : World) :
    world.dispatchVisibility.controller.targets = world.controller.targets := by
  unfold dispatchVisibility
  dsimp only
  split
  · rfl
  · rfl

@[simp] theorem targets_draw (world : World) (layer : Layer) (look : Look) :
    (world.draw layer look).controller.targets = world.controller.targets := by
  unfold draw
  split
  · exact targets_dispatchVisibility _
  · rfl

@[simp] theorem targets_followTarget (world : World) (layer : Layer) :
    (world.followTarget layer).controller.targets = world.controller.targets := by
  unfold followTarget
  split
  · split
    · exact targets_draw ..
    · exact targets_draw ..
  · rfl

theorem frontTarget_congr {world other : World}
    (h : world.controller.targets = other.controller.targets) :
    world.frontTarget = other.frontTarget := by
  unfold frontTarget target
  rw [h]

theorem frontLook_followTarget_of_ne (world : World) {layer : Layer} (h : layer ≠ .front) :
    (world.followTarget layer).frontLook = world.frontLook := by
  unfold followTarget
  split
  · split
    · exact frontLook_draw_of_ne world _ h
    · exact frontLook_draw_of_ne _ _ h
  · rfl

/-- Without an animation to move, the front layer is drawn at its target. -/
theorem frontLook_followTarget_front {world : World} (hStill : world.agenda.moving = false) :
    (world.followTarget .front).frontLook = world.frontTarget := by
  have hNone : world.controller.animations.get? .front = none := get?_of_still hStill .front
  have hFront : world.hasLayer .front = true := rfl
  unfold followTarget Animations.retarget
  rw [if_pos hFront, hNone]
  exact frontLook_draw_front world _

@[simp] theorem frontLook_restoreWallpaper (world : World) :
    world.restoreWallpaper.frontLook = world.frontLook := by
  unfold restoreWallpaper
  split
  · rfl
  · rfl

@[simp] theorem targets_restoreWallpaper (world : World) :
    world.restoreWallpaper.controller.targets = world.controller.targets := by
  unfold restoreWallpaper
  split
  · rfl
  · rfl

theorem frontLook_followGesture {world : World} (hStill : world.agenda.moving = false) :
    world.followGesture.frontLook = world.followGesture.frontTarget := by
  have hBehind : ((world.followTarget .behind).followTarget .notifications).agenda.moving =
      false := by
    rw [agenda_followTarget, agenda_followTarget]
    exact hStill
  unfold followGesture
  simp only [List.foldl_cons, List.foldl_nil]
  generalize (world.followTarget .behind).followTarget .notifications = ready at hBehind ⊢
  have hDrawn : ((ready.followTarget .front).followTarget .auxiliary).frontLook =
      ready.frontTarget := by
    rw [frontLook_followTarget_of_ne _ (by decide), frontLook_followTarget_front hBehind]
  have hTargets : ((ready.followTarget .front).followTarget .auxiliary).controller.targets =
      ready.controller.targets := by
    simp
  generalize (ready.followTarget .front).followTarget .auxiliary = moved at hDrawn hTargets ⊢
  rw [frontLook_restoreWallpaper]
  refine hDrawn.trans (frontTarget_congr ?_)
  rw [targets_restoreWallpaper]
  exact hTargets.symm

/-! ## Gestures -/

/-- The front surface shows the front target if that is drawn, and `look` else. -/
def Draws (draws : Bool) (look : Look) (after : World) : Prop :=
  after.frontLook = if draws then after.frontTarget else look

theorem draws_applyGesture {world : World} (hStill : world.agenda.moving = false)
    (accepted : world.applyGesture.error = none) :
    Draws (!world.controller.updatePending) world.frontLook world.applyGesture.world := by
  unfold applyGesture overlayGesture at accepted ⊢
  dsimp only at accepted ⊢
  split
  · next h => simp [h] at accepted
  · next h =>
    obtain ⟨rfl, -⟩ := Outcome.mk.inj h
    dsimp only
    cases world.controller.updatePending with
    | true => rfl
    | false => exact frontLook_followGesture hStill

theorem draws_ite {world : World} {counts : Bool} (hStill : world.agenda.moving = false)
    (accepted : (if counts then world.applyGesture else { world := world }).error = none) :
    Draws (!world.controller.updatePending && counts) world.frontLook
      (if counts then world.applyGesture else { world := world }).world := by
  cases counts with
  | true =>
      rw [Bool.and_true]
      exact draws_applyGesture hStill accepted
  | false =>
      rw [Bool.and_false]
      rfl

theorem draws_setPanelExpansion {world : World} {fraction : Float32}
    (hStill : world.agenda.moving = false)
    (accepted : (world.setPanelExpansion fraction).error = none) :
    Draws (Operation.drawsGesture (.panelExpansion fraction) world) world.frontLook
      (world.setPanelExpansion fraction).world := by
  unfold setPanelExpansion at accepted ⊢
  unfold Operation.drawsGesture
  dsimp only
  generalize world.controller.expansion.setPanel fraction = moved at accepted ⊢
  rcases moved with error | ⟨expansion, _ | _⟩
  · cases accepted
  · rw [Bool.and_false]
    rfl
  · exact draws_ite hStill accepted

theorem followNotifications_eq (world : World) (fraction : Float32) (panelBottom : Int) :
    ∃ targets surfaces, surfaces.front = world.host.surfaces.front ∧
      world.followNotifications fraction panelBottom =
        { world with controller.targets := targets, host.surfaces := surfaces } := by
  unfold followNotifications
  dsimp only
  split
  · exact ⟨_, world.host.surfaces.modify .notifications _, rfl, rfl⟩
  · exact ⟨world.controller.targets, world.host.surfaces, rfl, rfl⟩

theorem draws_setQuickSettings {world : World} {fraction : Float32} {panelBottom : Int}
    (hStill : world.agenda.moving = false)
    (accepted : (world.setQuickSettings fraction panelBottom).error = none) :
    Draws (Operation.drawsGesture (.quickSettings fraction panelBottom) world) world.frontLook
      (world.setQuickSettings fraction panelBottom).world := by
  obtain ⟨targets, surfaces, hFront, hFollowed⟩ :=
    followNotifications_eq world fraction panelBottom
  have hLook : world.frontLook = frontLook { world with
      controller.targets := targets, host.surfaces := surfaces } := by
    simp only [frontLook, hFront]
  unfold setQuickSettings at accepted ⊢
  rw [hFollowed] at accepted ⊢
  unfold Operation.drawsGesture
  dsimp only at accepted ⊢
  cases hNaN : fraction.isNaN with
  | true =>
      simp only [Expansion.setQuickSettings, hNaN, Bool.true_or, if_true, Bool.and_false]
      rfl
  | false =>
      simp only [hNaN, Bool.false_eq_true, if_false] at accepted ⊢
      generalize world.controller.expansion.setQuickSettings fraction = moved at accepted ⊢
      rw [hLook]
      rcases moved with ⟨expansion, _ | _⟩
      · rw [Bool.and_false]
        rfl
      · exact draws_ite hStill accepted

/-! ## Requests -/

theorem draws_run {world : World} {operation : Operation} (hGesture : operation.isGesture = true)
    (hStill : world.agenda.moving = false) (accepted : (operation.run world).error = none) :
    Draws (operation.drawsGesture world) world.frontLook (operation.run world).world := by
  cases operation with
  | panelExpansion fraction => exact draws_setPanelExpansion hStill accepted
  | quickSettings fraction panelBottom => exact draws_setQuickSettings hStill accepted
  | expansionAffectsAlpha affects => exact draws_ite hStill accepted
  | _ => cases hGesture

theorem blanking_run {world : World} {operation : Operation}
    (hGesture : operation.isGesture = true) :
    (operation.run world).world.agenda.blanking = world.agenda.blanking := by
  have posted : ∀ agenda : Agenda, agenda = world.agenda ∨
      agenda = world.agenda.post .scheduleWallpaperTimeout →
      agenda.blanking = world.agenda.blanking := by
    rintro agenda (rfl | rfl)
    · rfl
    · rfl
  cases operation with
  | panelExpansion fraction => exact posted _ (agenda_setPanelExpansion world fraction)
  | quickSettings fraction panelBottom =>
      exact posted _ (agenda_setQuickSettings world fraction panelBottom)
  | expansionAffectsAlpha affects =>
      cases affects with
      | true => exact posted _ (agenda_applyGesture rfl)
      | false => rfl
  | _ => cases hGesture

theorem covered_setAodFrontAlpha {world : World} {alpha : Float32}
    (hAttached : world.agenda.Attached) (h : world.Covered) :
    (world.setAodFrontAlpha alpha).world.Covered := by
  unfold setAodFrontAlpha
  split
  · exact h
  · dsimp only
    split
    · dsimp only
      exact covered_update_of rfl rfl hAttached h
    · exact h

theorem covered_refreshBehind {world : World} (hAttached : world.agenda.Attached)
    (h : world.Covered) : world.refreshBehind.world.Covered := by
  unfold refreshBehind
  dsimp only
  split
  · exact h
  · split
    · exact h
    · dsimp only
      exact covered_update_of rfl rfl hAttached h

theorem covered_screenTurnedOn {world : World} (hAttached : world.agenda.Attached)
    (h : world.Covered) : world.screenTurnedOn.Covered := by
  unfold screenTurnedOn
  dsimp only
  split
  · exact h
  · exact covered_reveal hAttached h

/-- Entering another state abandons a black frame, and one drawn at once is covered. -/
theorem covered_entered {world : World} {state : State} {callback : Option Callback}
    (hAttached : world.agenda.Attached) (hOther : state ≠ world.controller.state)
    (accepted : (world.transition state callback).error = none) :
    (world.transition state callback).world.Covered := by
  obtain ⟨-, targets, hTransition⟩ := transition_of_accepted hOther accepted
  obtain ⟨registration, blank, hEnter⟩ := agenda_enter world state callback
  rw [hTransition]
  generalize world.enter state callback = entered at hEnter ⊢
  refine covered_completeTransition ?_ _
  have hOverlaid : World.agenda { entered with controller.targets := targets } =
      { world.agenda with callback := registration, blankScreen := blank } := hEnter
  rw [hOverlaid]
  exact hAttached

theorem covered_transition {world : World} {state : State} {callback : Option Callback}
    (hAttached : world.agenda.Attached) (h : world.Covered)
    (accepted : (world.transition state callback).error = none) :
    (world.transition state callback).world.Covered := by
  by_cases hActive : state = world.controller.state
  · rw [transition_of_active hActive accepted]
    exact covered_confirm h callback
  · exact covered_entered hAttached hActive accepted

theorem covered_run {world : World} {operation : Operation} (hOther : operation.isGesture = false)
    (hAttached : world.agenda.Attached) (h : world.Covered)
    (accepted : (operation.run world).error = none) : (operation.run world).world.Covered := by
  cases operation with
  | transition state callback => exact covered_transition hAttached h accepted
  | panelExpansion _ => cases hOther
  | quickSettings _ _ => cases hOther
  | expansionAffectsAlpha _ => cases hOther
  | aodFrontAlpha alpha => exact covered_setAodFrontAlpha hAttached h
  | screenSensor active =>
      simp only [Operation.run, setScreenSensor]
      split
      · exact covered_refreshBehind hAttached h
      · exact h
  | backdrop visible =>
      simp only [Operation.run, setBackdrop]
      split
      · exact covered_refreshBehind hAttached h
      · exact h
  | keyguardOccluded occluded =>
      simp only [Operation.run, setKeyguardOccluded]
      exact covered_update_of rfl rfl hAttached h
  | keyguardAlpha alpha =>
      simp only [Operation.run, setKeyguardAlpha]
      split
      · exact h
      · exact covered_scheduleUpdate h
  | theme palette => exact covered_scheduleUpdate h
  | themeChanged => exact covered_scheduleUpdate h
  | keyguardVisibility showing => exact covered_scheduleUpdate h
  | screenOn => exact covered_screenTurnedOn hAttached h
  | wallpaperTimeout => exact covered_hideWallpaper h
  | _ => exact h

/-! ## Steps -/

/-- A step keeps a held black frame covered, unless it uncovers it. -/
theorem Step.covered {before after : World} {event : Event} (step : Step before event after)
    (h : before.agenda.Driven) (hCovered : before.Covered)
    (hKept : ¬Moment.Uncovers ⟨before, event, after⟩) : after.Covered := by
  cases step with
  | @request operation accepted =>
      cases hGesture : operation.isGesture with
      | false => exact covered_run hGesture h.attached hCovered accepted
      | true =>
          apply covered_of_agenda
          intro hPending
          rw [blanking_run hGesture] at hPending
          have hDraws := draws_run hGesture (h.covered hPending) accepted
          cases hFollowed : operation.drawsGesture before with
          | false =>
              rw [Draws, hFollowed, if_neg Bool.false_ne_true] at hDraws
              exact hDraws.trans (hCovered hPending)
          | true =>
              rw [Draws, hFollowed, if_pos rfl] at hDraws
              rw [hDraws]
              by_contra hOther
              exact hKept ⟨hPending, ⟨operation, rfl, hFollowed⟩, hOther⟩
  | clock time => exact hCovered
  | alarm due => exact covered_hideWallpaper hCovered
  | @task task scheduler due =>
      have hTaken : Covered { before with host.scheduler := scheduler } := hCovered
      refine covered_runTask ?_ hTaken task
      exact h.attached
  | animationFrame requested => exact covered_animationFrame rfl h.covered hCovered
  | preDraw listening => exact covered_preDraw h.attached hCovered

/-- What uncovers a held black frame leaves it uncovered. -/
theorem Step.uncovered {before after : World} {event : Event} (step : Step before event after)
    (h : before.agenda.Driven) (uncovers : Moment.Uncovers ⟨before, event, after⟩) :
    ¬after.Covered := by
  obtain ⟨hPending, ⟨operation, hEvent, hFollowed⟩, hOther⟩ := uncovers
  obtain rfl : event = .request operation := hEvent
  cases step with
  | request accepted =>
      have hGesture := Operation.isGesture_of_draws hFollowed
      have hDraws := draws_run hGesture (h.covered hPending) accepted
      rw [Draws, hFollowed, if_pos rfl] at hDraws
      intro hCovered
      refine hOther (hDraws.symm.trans (hCovered ?_))
      exact (congrArg Blanking.isPending (blanking_run hGesture)).trans hPending

/-! ## Whole runs -/

theorem covered_create {settings : Settings} {options : SimulationOptions}
    {simulation : Simulation} (h : Simulation.create settings options = .ok simulation) :
    simulation.world.Covered :=
  covered_of_idle ((updated_create h).idle rfl rfl)

/-- In every run from a fresh simulation the front surface shows a held black frame at every
boundary exactly if no gesture is followed that uncovers one. -/
theorem covered_throughout_iff {settings : Settings} {options : SimulationOptions}
    {simulation : Simulation} (created : Simulation.create settings options = .ok simulation)
    {last : World} {moments : List Moment} (run : Run simulation.world moments last) :
    (∀ world ∈ simulation.world :: moments.map (·.after), world.Covered) ↔
      ∀ moment ∈ moments, ¬moment.Uncovers := by
  have hDriven := driven_create created
  constructor
  · intro hAll moment hMem uncovers
    have hBefore := run.invariant_before (fun world => world.agenda.Driven)
      (fun _ _ _ h step => step.driven h) hDriven moment hMem
    exact (run.step moment hMem).uncovered hBefore uncovers
      (hAll _ (List.mem_cons_of_mem _ (List.mem_map_of_mem hMem)))
  · intro hKept world hMem
    have hCovered := run.invariant_while
      (fun world => world.agenda.Driven ∧ world.Covered) (fun moment => ¬moment.Uncovers)
      (fun _ _ _ hInv step hGood => ⟨step.driven hInv.1, step.covered hInv.1 hInv.2 hGood⟩)
      ⟨hDriven, covered_create created⟩ hKept
    rcases List.mem_cons.mp hMem with rfl | hMem
    · exact covered_create created
    · obtain ⟨moment, hMoment, rfl⟩ := List.mem_map.mp hMem
      exact (hCovered.2 moment hMoment).2

def blankedDisplay : Settings where
  doze := { displayNeedsBlanking := true }

set_option maxRecDepth 100000 in
/-- On the way into the always-on display the black frame is covered. -/
theorem covered_throughout_doze : ∃ simulation middle last,
    Simulation.create blankedDisplay {} = .ok simulation ∧
    Run simulation.world [⟨simulation.world, .request (.transition .aod none), middle⟩,
      ⟨middle, .host .preDraw, last⟩] last ∧
    last.controller.blanking = .awaitingFrame ∧ last.frontLook = .solidBlack := by
  have hCreated : (Simulation.create blankedDisplay {}).toOption.any (fun simulation =>
      (simulation.world.undergo (.request (.transition .aod none))).any fun middle =>
        (middle.undergo (.host .preDraw)).any fun last =>
          last.controller.blanking = .awaitingFrame) = true := by
    decide +kernel
  obtain ⟨simulation, hCreate, hEnters⟩ := Simulation.exists_of_any_create hCreated
  obtain ⟨middle, hEnter, hDraws⟩ := (Option.any_eq_true _ _).mp hEnters
  obtain ⟨last, hDraw, hLast⟩ := (Option.any_eq_true _ _).mp hDraws
  have hBlank := of_decide_eq_true hLast
  have hRun := (Run.nil.snoc (step_iff_undergo.mpr hEnter)).snoc (step_iff_undergo.mpr hDraw)
  refine ⟨simulation, middle, last, hCreate, hRun, hBlank, ?_⟩
  refine (covered_throughout_iff hCreate hRun).mpr ?_ _
    (List.mem_cons_of_mem _ (List.mem_cons_of_mem _ List.mem_cons_self)) ?_
  · rintro moment hMem ⟨-, ⟨operation, hEvent, hFollowed⟩, -⟩
    rcases List.mem_cons.mp hMem with rfl | hMem
    · obtain rfl := Event.request.inj hEvent
      simp [Operation.drawsGesture] at hFollowed
    · obtain rfl := List.mem_singleton.mp hMem
      cases hEvent
  · rw [hBlank]
    rfl

set_option maxRecDepth 100000 in
/-- Pulling the shade while a pulse is behind the black frame drops the black. -/
theorem shade_uncovers_pulse : ∃ simulation,
    Simulation.play blankedDisplay {}
      [.perform (.panelExpansion 0), .perform (.transition .pulsing none),
        .advance (Time.ofMillis 1), .perform (.panelExpansion 0.125)] = some simulation ∧
    simulation.world.controller.blanking = .awaitingFrame ∧
    simulation.world.frontLook ≠ .solidBlack := by
  have hPlayed : (Simulation.play blankedDisplay {}
      [.perform (.panelExpansion 0), .perform (.transition .pulsing none),
        .advance (Time.ofMillis 1), .perform (.panelExpansion 0.125)]).any (fun simulation =>
      simulation.world.controller.blanking = .awaitingFrame &&
        simulation.world.frontLook.alpha = 0) = true := by
    decide +kernel
  obtain ⟨simulation, hPlay, hFacts⟩ := (Option.any_eq_true _ _).mp hPlayed
  simp only [Bool.and_eq_true, decide_eq_true_eq] at hFacts
  refine ⟨simulation, hPlay, hFacts.1, ?_⟩
  intro hBlack
  have hOpaque : (0 : Float32) = 1 := hFacts.2.symm.trans (congrArg Look.alpha hBlack)
  exact absurd hOpaque (by decide)

end World

end Scrim
