import Scrim.Proofs.Scene
import Scrim.Proofs.Sound

/-!
# Layers at rest show their targets

Whatever moves the target of a layer also has the layer follow: it moves the end of its
animation, draws it, or leaves the drawing to a pending update. So once no update is pending and
no black frame is held, a layer that runs an animation runs towards its target, and one that runs
none shows it (`World.layers_show_targets`).

What single precision makes of the last frame of an animation need not be its end, so a layer may
show the target as the last frame of its animation gave it.
-/

namespace Scrim

/-! ## One layer -/

/-- The look is that of the target: its tint with its opacity, with its opacity brought into range,
or with the opacity of the last frame of an animation that ended at it. -/
structure Look.Fits (ended : Animation → Prop) (look target : Look) : Prop where
  tint : look.tint = target.tint
  alpha : (target.alpha == look.alpha) = true ∨
    (Curve.constrain target.alpha 0 1 == look.alpha) = true ∨
    ∃ animation, ended animation ∧ animation.stop.alpha = target.alpha ∧
      look.alpha = (animation.sample 1).alpha

/-- An attached layer runs towards its target, or shows it. -/
def Scene.Rests (ended : Animation → Prop) (scene : Scene) : Prop :=
  ∀ look, scene.shown = some look →
    match scene.running with
    | some animation => animation.stop = scene.target
    | none => look.Fits ended scene.target

namespace Scene

variable {ended : Animation → Prop} {scene : Scene}

theorem rests_draw (h : scene.target.alpha.isNaN = false) (hStill : scene.running = none) :
    (scene.draw scene.target).Rests ended := by
  intro look hShown
  have hRunning : (scene.draw scene.target).running = none := hStill
  rw [hRunning]
  obtain ⟨_, -, rfl⟩ := Option.map_eq_some_iff.mp hShown
  exact ⟨rfl, Or.inr (Or.inl (beq_self_of_number (Curve.constrain_number h)))⟩

theorem rests_follow (h : scene.target.alpha.isNaN = false) (now : Nat) :
    (scene.follow now).Rests ended := by
  unfold follow
  split
  · next hStill => exact rests_draw h hStill
  · intro look _
    rfl

theorem rests_unlock (h : scene.target.alpha.isNaN = false) (hStill : scene.running = none)
    (tint : Color) : (scene.unlock (some tint)).Rests ended :=
  rests_draw h hStill

/-- A frame moves a layer on towards its target, or shows the last frame of an animation that ends
there. -/
theorem Rests.step (h : scene.Rests ended) (now : Nat) :
    (scene.step now).Rests fun animation => ended animation ∨
      scene.running = some animation ∧ animation.isOver now = true := by
  intro look hShown
  obtain ⟨before, hBefore, hLook⟩ := Option.map_eq_some_iff.mp hShown
  have hRests := h before hBefore
  unfold Scene.step Animations.keep?
  dsimp only
  cases hRunning : scene.running with
  | none =>
      rw [hRunning] at hRests hLook
      obtain rfl := hLook
      exact ⟨hRests.tint, hRests.alpha.imp_right (Or.imp_right
        fun ⟨animation, hEnded, hStop⟩ => ⟨animation, Or.inl hEnded, hStop⟩)⟩
  | some animation =>
      rw [hRunning] at hRests hLook
      dsimp only at hRests hLook ⊢
      cases hOver : animation.isOver now with
      | false => exact hRests
      | true =>
          have hBegun : animation.hasBegun now = true := (Bool.and_eq_true_iff.mp hOver).1
          rw [if_pos hBegun, Animation.look_of_isOver hOver] at hLook
          obtain rfl := hLook
          refine ⟨?_, Or.inr (Or.inr ⟨animation, Or.inr ⟨rfl, hOver⟩, ?_, rfl⟩)⟩
          · show animation.stop.tint = scene.target.tint
            rw [hRests]
          · rw [hRests]

theorem Rests.mono {more : Animation → Prop} (h : scene.Rests ended)
    (hMore : ∀ animation, ended animation → more animation) : scene.Rests more := by
  intro look hShown
  have hRests := h look hShown
  cases hRunning : scene.running with
  | none =>
      rw [hRunning] at hRests
      exact ⟨hRests.tint, hRests.alpha.imp_right (Or.imp_right
        fun ⟨animation, hEnded, hStop⟩ => ⟨animation, hMore animation hEnded, hStop⟩)⟩
  | some animation =>
      rw [hRunning] at hRests
      exact hRests

end Scene

namespace World

/-- Of every layer that states aim at: with no update pending and no black frame held, it runs
towards its target or shows it. -/
def Rests (ended : Layer → Animation → Prop) (world : World) : Prop :=
  world.agenda.updatePending = false → world.agenda.blanking = .idle →
    ∀ layer, layer ≠ .notifications → (world.scene layer).Rests (ended layer)

variable {ended : Layer → Animation → Prop} {world after : World}

/-- What leaves the layers alone, and neither runs an update nor reveals, leaves them at rest. -/
theorem Rests.same (h : world.Rests ended)
    (hScene : ∀ layer, layer ≠ .notifications → after.scene layer = world.scene layer)
    (hPending : after.agenda.updatePending = world.agenda.updatePending)
    (hBlanking : after.agenda.blanking = .idle → world.agenda.blanking = .idle) :
    after.Rests ended := by
  intro hUpdated hIdle layer hLayer
  rw [hScene layer hLayer]
  exact h (hPending.symm.trans hUpdated) (hBlanking hIdle) layer hLayer

theorem rests_of_pending (h : world.agenda.updatePending = true) : world.Rests ended :=
  fun hUpdated => absurd (h.symm.trans hUpdated) Bool.noConfusion

/-! ## Updates -/

theorem sound_scene (h : world.controller.targets.Sound) {layer : Layer}
    (hLayer : layer ≠ .notifications) : (world.scene layer).target.alpha.isNaN = false :=
  h.get hLayer

/-- A layer that has been stopped moves to its target, or is there. -/
theorem rests_moveToTarget {layer : Layer} {current : Look} {ended : Animation → Prop}
    (h : (world.scene layer).target.alpha.isNaN = false)
    (hStill : (world.scene layer).running = none)
    (hShown : ∀ look, (world.scene layer).shown = some look → look = current) :
    ((world.moveToTarget layer current).scene layer).Rests ended := by
  unfold moveToTarget
  dsimp only
  split
  · split
    · intro look _
      have hRunning : ((world.startAnimation layer current).scene layer).running = some
          { start := current
            stop := world.target layer
            startTime := world.now
            delay := world.controller.animationDelay
            duration := world.controller.animationDuration
            registration := world.controller.callback } := by
        simp [scene, startAnimation]
      rw [hRunning]
      rfl
    · rw [scene_drawTarget]
      exact Scene.rests_draw h hStill
  · next hThere =>
    rw [Bool.or_eq_true, not_or] at hThere
    intro look hLook
    obtain rfl := hShown look hLook
    rw [hStill]
    refine ⟨?_, Or.inl ?_⟩
    · show look.tint = (world.target layer).tint
      simpa using hThere.2
    · show ((world.target layer).alpha == look.alpha) = true
      simpa [bne] using hThere.1

/-- Unless a black frame comes in between, an updated layer moves to its target, or is there. -/
theorem rests_updateLayer {layer : Layer} {ended : Animation → Prop} (hClear : world.Clear)
    (h : (world.scene layer).target.alpha.isNaN = false) :
    ((world.updateLayer layer).scene layer).Rests ended := by
  cases hSurface : world.surface? layer with
  | none =>
      intro look hShown
      simp [updateLayer, hSurface, scene] at hShown
  | some surface =>
      obtain ⟨ready, hReady, hUpdate⟩ := updateLayer_of_clear hClear hSurface
      have hScene := (scene_of_silent hReady layer).trans (scene_stopAnimation_self world layer)
      rw [hUpdate]
      apply rests_moveToTarget
      · rw [hScene]
        exact h
      · rw [hScene]
      · intro look hShown
        rw [hScene] at hShown
        simp only [scene, hSurface, Option.map_some, Option.some.injEq] at hShown
        exact hShown.symm

theorem rests_updateLayers (hClear : world.Clear) (h : world.controller.targets.Sound)
    {ended : Animation → Prop} {layer : Layer} (hLayer : layer ≠ .notifications) :
    (world.updateLayers.scene layer).Rests ended := by
  obtain ⟨ready, hReady, -, hScene, hLayers⟩ := scene_updateLayers hClear layer
  rw [hLayers]
  apply rests_updateLayer hReady
  rw [hScene]
  exact (sound_hideBehind (sound_refreshPalette h)).get hLayer

theorem rests_settle {ended : Animation → Prop} {registration : Option Registration}
    (hIdle : world.agenda.blanking.isPending = false) (h : world.controller.targets.Sound)
    {layer : Layer} (hLayer : layer ≠ .notifications) (hRests : (world.scene layer).Rests ended) :
    ((world.settle registration).scene layer).Rests ended := by
  cases hMoving : world.agenda.moving with
  | true =>
      rw [scene_settle_of_moving _ hMoving]
      exact hRests
  | false =>
      have hNumber := sound_scene h hLayer
      have hStill : (world.scene layer).running = none := get?_of_still hMoving layer
      rw [scene_settle_of_still _ hIdle hMoving]
      split
      · obtain ⟨tint, hTint⟩ := Layer.unlockTint?_eq_some hLayer
        rw [hTint]
        exact Scene.rests_unlock hNumber hStill tint
      · exact hRests

theorem rests_update (hAttached : world.agenda.Attached) (h : world.controller.targets.Sound) :
    world.update.Rests ended := by
  intro _ hIdle layer hLayer
  have hClear : world.Clear := clear_of_updated (updated_update rfl hAttached) hIdle
  obtain ⟨running, -, -, hAgenda⟩ := agenda_updateLayers hClear.idle hClear.unblanked hAttached
  have hStays : world.updateLayers.agenda.blanking.isPending = false := by
    rw [hAgenda]
    exact hClear.idle
  have hLayers := @rests_updateLayers world hClear h (ended layer) layer hLayer
  have hSound := sound_updateLayers h
  unfold update
  dsimp only
  rw [scene_of_silent (silent_dispatchVisibility _)]
  exact rests_settle hStays hSound hLayer hLayers

theorem rests_scheduleUpdate : world.scheduleUpdate.Rests ended := by
  apply rests_of_pending
  unfold scheduleUpdate
  split
  · next hPending => exact hPending
  · rfl

theorem rests_preDraw (hAttached : world.agenda.Attached) (h : world.controller.targets.Sound) :
    world.preDraw.Rests ended := by
  unfold preDraw
  dsimp only
  apply rests_update
  · rw [agenda_notifyActive]
    exact hAttached
  · apply sound_of_standing _ (standing_notifyActive _ .start)
    exact h

theorem rests_reveal (hAttached : world.agenda.Attached) (h : world.controller.targets.Sound)
    (hRests : world.Rests ended) : world.reveal.Rests ended := by
  unfold reveal
  split
  · exact hRests
  · apply rests_update
    · exact hAttached
    · exact h

/-! ## Gestures -/

theorem rests_of_absent {layer : Layer} {ended : Animation → Prop}
    (h : world.hasLayer layer = false) : (world.scene layer).Rests ended := by
  have hNone : world.host.surfaces.get? layer = none := by
    simpa [hasLayer, Surfaces.has] using h
  intro look hShown
  simp [scene, surface?, hNone] at hShown

theorem rests_followGesture (h : world.controller.targets.Sound) :
    world.followGesture.Rests ended := by
  intro _ _ layer hLayer
  cases hHas : world.hasLayer layer with
  | true =>
      rw [scene_followGesture hHas]
      exact Scene.rests_follow (sound_scene h hLayer) world.now
  | false =>
      exact rests_of_absent ((hasLayer_followGesture world layer).trans hHas)

theorem rests_applyGesture (h : world.controller.targets.Sound)
    (accepted : world.applyGesture.error = none) : world.applyGesture.world.Rests ended := by
  unfold applyGesture overlayGesture at accepted ⊢
  dsimp only at accepted ⊢
  split
  · next hOverlay => simp [hOverlay] at accepted
  · next hOverlay =>
    obtain ⟨rfl, hError⟩ := Outcome.mk.inj hOverlay
    dsimp only
    split
    · next hPending => exact rests_of_pending hPending
    · exact rests_followGesture (Expansion.sound_apply h hError)

theorem rests_setPanelExpansion {fraction : Float32} (h : world.controller.targets.Sound)
    (hRests : world.Rests ended) (accepted : (world.setPanelExpansion fraction).error = none) :
    (world.setPanelExpansion fraction).world.Rests ended := by
  unfold setPanelExpansion at accepted ⊢
  split
  · exact hRests
  · exact hRests
  · next hMoved =>
    rw [hMoved] at accepted
    dsimp only at accepted ⊢
    split
    · next hCounts =>
      rw [if_pos hCounts] at accepted
      exact rests_applyGesture h accepted
    · exact hRests

theorem rests_followNotifications (hRests : world.Rests ended) (fraction : Float32)
    (panelBottom : Int) : (world.followNotifications fraction panelBottom).Rests ended := by
  apply hRests.same
  · exact fun layer hLayer => scene_followNotifications_of_ne world fraction panelBottom hLayer
  · rw [agenda_followNotifications]
  · rw [agenda_followNotifications]
    exact id

theorem rests_setQuickSettings {fraction : Float32} {panelBottom : Int}
    (h : world.controller.targets.Sound) (hRests : world.Rests ended)
    (accepted : (world.setQuickSettings fraction panelBottom).error = none) :
    (world.setQuickSettings fraction panelBottom).world.Rests ended := by
  have hFollowed := rests_followNotifications hRests fraction panelBottom
  have hSound := sound_followNotifications h fraction panelBottom
  unfold setQuickSettings at accepted ⊢
  generalize world.followNotifications fraction panelBottom = followed
    at hFollowed hSound accepted ⊢
  split
  · exact hRests
  · next hNaN =>
    rw [if_neg hNaN] at accepted
    dsimp only at accepted ⊢
    split
    · exact hFollowed
    · next hMoved =>
      rw [hMoved] at accepted
      dsimp only at accepted
      split
      · next hCounts =>
        rw [if_pos hCounts] at accepted
        exact rests_applyGesture hSound accepted
      · exact hFollowed

/-! ## Requests -/

theorem rests_refreshBehind (hAttached : world.agenda.Attached)
    (h : world.controller.targets.Sound) (hRests : world.Rests ended)
    (accepted : world.refreshBehind.error = none) : world.refreshBehind.world.Rests ended := by
  unfold refreshBehind at accepted ⊢
  dsimp only at accepted ⊢
  split
  · exact hRests
  · next hMoves =>
    rw [if_neg hMoves] at accepted
    split
    · next hError => simp [hError] at accepted
    · next hNumbers =>
      apply rests_update
      · exact hAttached
      · exact Targets.sound_of_nanError? hNumbers h.auxiliary

theorem rests_setAodFrontAlpha {alpha : Float32} (hAttached : world.agenda.Attached)
    (h : world.controller.targets.Sound) (hRests : world.Rests ended) :
    (world.setAodFrontAlpha alpha).world.Rests ended := by
  unfold setAodFrontAlpha
  split
  · exact hRests
  · next hNumber =>
    dsimp only
    split
    · apply rests_update
      · exact hAttached
      · exact ⟨Bool.of_not_eq_true hNumber, h.behind, h.auxiliary⟩
    · exact hRests

theorem rests_screenTurnedOn (hAttached : world.agenda.Attached)
    (h : world.controller.targets.Sound) (hRests : world.Rests ended) :
    world.screenTurnedOn.Rests ended := by
  unfold screenTurnedOn
  dsimp only
  split
  · exact hRests
  · apply rests_reveal
    · exact hAttached
    · exact h
    · exact hRests

theorem rests_hideWallpaper (hRests : world.Rests ended) : world.hideWallpaper.Rests ended := by
  unfold hideWallpaper
  split
  · exact rests_scheduleUpdate
  · exact hRests

theorem rests_completeTransition (hAttached : world.agenda.Attached)
    (h : world.controller.targets.Sound) (previous : State) :
    (world.completeTransition previous).Rests ended := by
  have applied : ∀ w : World, w.agenda.Attached → w.controller.targets.Sound →
      (w.applyTransition previous).Rests ended := by
    intro w hAttached h
    unfold applyTransition
    split
    · exact rests_scheduleUpdate
    · split
      · exact rests_preDraw hAttached h
      · exact rests_scheduleUpdate
  unfold completeTransition
  extract_lets abandoned state controller marked awake complete
  have hAwake : awake.restartWallpaper.agenda.Attached ∧
      awake.restartWallpaper.controller.targets.Sound := by
    dsimp only [awake]
    split
    · exact ⟨hAttached, h⟩
    · exact ⟨hAttached, h⟩
  exact applied awake.restartWallpaper hAwake.1 hAwake.2

theorem rests_transition {state : State} {callback : Option Callback}
    (hAttached : world.agenda.Attached) (hRests : world.Rests ended)
    (accepted : (world.transition state callback).error = none) :
    (world.transition state callback).world.Rests ended := by
  by_cases hActive : state = world.controller.state
  · rw [transition_of_active hActive accepted]
    apply hRests.same
    · exact fun layer _ => scene_of_silent (silent_confirm world callback) layer
    · rw [agenda_confirm]
    · rw [agenda_confirm]
      exact id
  · obtain ⟨targets, hSound, hTransition⟩ := transition_of_sound hActive accepted
    obtain ⟨registration, blank, hEnter⟩ := agenda_enter world state callback
    rw [hTransition]
    generalize world.enter state callback = entered at hEnter ⊢
    have hOverlaid : World.agenda { entered with controller.targets := targets } =
        { world.agenda with callback := registration, blankScreen := blank } := hEnter
    refine rests_completeTransition ?_ hSound _
    rw [hOverlaid]
    exact hAttached

theorem rests_run {operation : Operation} (hAttached : world.agenda.Attached)
    (h : world.controller.targets.Sound) (hRests : world.Rests ended)
    (accepted : (operation.run world).error = none) :
    (operation.run world).world.Rests ended := by
  cases operation with
  | transition state callback => exact rests_transition hAttached hRests accepted
  | panelExpansion fraction => exact rests_setPanelExpansion h hRests accepted
  | quickSettings fraction panelBottom => exact rests_setQuickSettings h hRests accepted
  | expansionAffectsAlpha affects =>
      cases affects with
      | true => exact rests_applyGesture h accepted
      | false => exact hRests
  | aodFrontAlpha alpha => exact rests_setAodFrontAlpha hAttached h hRests
  | screenSensor active =>
      simp only [Operation.run, setScreenSensor] at accepted ⊢
      split
      · next hPulsing =>
        rw [if_pos hPulsing] at accepted
        exact rests_refreshBehind hAttached h hRests accepted
      · exact hRests
  | backdrop visible =>
      simp only [Operation.run, setBackdrop] at accepted ⊢
      split
      · next hDozes =>
        rw [if_pos hDozes] at accepted
        exact rests_refreshBehind hAttached h hRests accepted
      · exact hRests
  | keyguardOccluded occluded =>
      simp only [Operation.run, setKeyguardOccluded]
      apply rests_update
      · exact hAttached
      · exact h
  | keyguardAlpha alpha =>
      simp only [Operation.run, setKeyguardAlpha]
      split
      · exact hRests
      · exact rests_scheduleUpdate
  | theme palette => exact rests_scheduleUpdate
  | themeChanged => exact rests_scheduleUpdate
  | keyguardVisibility showing => exact rests_scheduleUpdate
  | screenOn => exact rests_screenTurnedOn hAttached h hRests
  | wallpaperTimeout => exact rests_hideWallpaper hRests
  | _ => exact hRests

/-! ## Host events -/

theorem scene_frameCommitted (world : World) (layer : Layer) :
    world.frameCommitted.scene layer = world.scene layer := by
  unfold frameCommitted
  dsimp only
  split
  · rfl
  · split
    · exact scene_of_silent (silent_notifyActive _ .displayBlanked) layer
    · rfl

theorem rests_runTask (hAttached : world.agenda.Attached) (h : world.controller.targets.Sound)
    (hRests : world.Rests ended) (task : Task) : (world.runTask task).Rests ended := by
  cases task with
  | pendingFrame =>
      apply hRests.same
      · exact fun layer _ => scene_frameCommitted world layer
      · rcases agenda_frameCommitted world with ⟨hSame, -⟩ | ⟨-, hCommitted⟩
        · rw [runTask, hSame]
        · rw [runTask, hCommitted]
      · rcases agenda_frameCommitted world with ⟨hSame, -⟩ | ⟨-, hCommitted⟩
        · rw [runTask, hSame]
          exact id
        · rw [runTask, hCommitted]
          intro hIdle
          cases hIdle
  | blankingTransition => exact rests_reveal hAttached h hRests
  | scheduleWallpaperTimeout => exact hRests
  | cancelWallpaperTimeout => exact hRests

/-- At this moment the last frame of an animation of the layer is shown. -/
def Moment.Ends (moment : Moment) (layer : Layer) (animation : Animation) : Prop :=
  moment.event = .host .animationFrame ∧
    moment.before.controller.animations.get? layer = some animation ∧
    animation.isOver moment.before.now = true

theorem Rests.mono {more : Layer → Animation → Prop} (h : world.Rests ended)
    (hMore : ∀ layer animation, ended layer animation → more layer animation) :
    world.Rests more := by
  intro hUpdated hIdle layer hLayer
  exact (h hUpdated hIdle layer hLayer).mono (hMore layer)

theorem rests_animationFrame (hRests : world.Rests ended)
    (hCovered : world.agenda.blanking.isPending = true → world.agenda.moving = false)
    (h : world.controller.targets.Sound) :
    world.animationFrame.Rests fun layer animation => ended layer animation ∨
      world.controller.animations.get? layer = some animation ∧
        animation.isOver world.now = true := by
  obtain ⟨hPending, hBlanking⟩ := (framed_animationFrame rfl hCovered).keeps
  intro hUpdated hIdle layer hLayer
  have hStepped := (hRests (hPending.symm.trans hUpdated) (hBlanking.symm.trans hIdle) layer
    hLayer).step world.now
  rw [scene_animationFrame hCovered]
  split
  · next hRest =>
    have hNumber : ((world.scene layer).step world.now).target.alpha.isNaN = false :=
      sound_scene h hLayer
    have hStill := running_of_comesToRest (Bool.and_eq_true_iff.mp hRest).1 layer
    obtain ⟨tint, hTint⟩ := Layer.unlockTint?_eq_some hLayer
    rw [hTint]
    exact Scene.rests_unlock hNumber hStill tint
  · exact hStepped

theorem Step.rests {before after : World} {event : Event} (step : Step before event after)
    (driven : before.agenda.Driven) (h : before.controller.targets.Sound)
    (hRests : before.Rests ended) : after.Rests fun layer animation =>
      ended layer animation ∨ Moment.Ends ⟨before, event, after⟩ layer animation := by
  have more : ∀ {w : World}, w.Rests ended → w.Rests fun layer animation =>
      ended layer animation ∨ Moment.Ends ⟨before, event, after⟩ layer animation :=
    fun hRests => hRests.mono fun _ _ => Or.inl
  cases step with
  | request accepted => exact more (rests_run driven.attached h hRests accepted)
  | clock time => exact more hRests
  | alarm due => exact more (rests_hideWallpaper hRests)
  | @task task scheduler due =>
      have hTaken : Rests ended { before with host.scheduler := scheduler } := hRests
      refine more (rests_runTask ?_ ?_ hTaken task)
      · exact driven.attached
      · exact h
  | animationFrame requested =>
      have hAnswered : Rests ended { before with
          host.scheduler := before.host.scheduler.takeFrameRequest.2 } := hRests
      refine (rests_animationFrame hAnswered driven.covered h).mono ?_
      intro layer animation hEnded
      exact hEnded.imp_right fun hOver => ⟨rfl, hOver⟩
  | preDraw listening => exact more (rests_preDraw driven.attached h)

/-! ## Whole runs -/

theorem rests_create {settings : Settings} {options : SimulationOptions}
    {simulation : Simulation} (h : Simulation.create settings options = .ok simulation) :
    simulation.world.Rests ended := by
  have hAttached : (fresh settings options).agenda.Attached := fun _ => rfl
  have hUpdated : (fresh settings options).update.Rests ended :=
    rests_update hAttached (sound_fresh settings options)
  obtain ⟨message, screenOn, hWorld⟩ := create_eq h
  rw [hWorld]
  generalize (fresh settings options).update = updated at hUpdated ⊢
  exact hUpdated

/-- After a run the layers are at rest, up to the last frames that the run has shown. -/
theorem Run.rests {start last : World} {moments : List Moment} (run : Run start moments last)
    (driven : start.agenda.Driven) (h : start.controller.targets.Sound)
    (hRests : start.Rests fun _ _ => False) :
    last.agenda.Driven ∧ last.controller.targets.Sound ∧
      last.Rests fun layer animation => ∃ moment ∈ moments, moment.Ends layer animation := by
  induction run with
  | nil => exact ⟨driven, h, hRests.mono fun _ _ => False.elim⟩
  | @snoc earlier before after event run step ih =>
      obtain ⟨hDriven, hSound, hBefore⟩ := ih
      refine ⟨step.driven hDriven, step.sound hSound, ?_⟩
      refine (step.rests hDriven hSound hBefore).mono ?_
      intro layer animation hEnded
      rcases hEnded with ⟨moment, hMem, hEnds⟩ | hEnds
      · exact ⟨moment, List.mem_append_left _ hMem, hEnds⟩
      · exact ⟨_, List.mem_append_right _ (List.mem_singleton_self _), hEnds⟩

/-- In every run, once no update is pending and no black frame is held, an attached layer without
an animation shows its target: its tint, and its opacity as it is, brought into range, or as the
last frame of an animation of the run that ended at it gave it. -/
theorem layers_show_targets {settings : Settings} {options : SimulationOptions}
    {simulation : Simulation} (created : Simulation.create settings options = .ok simulation)
    {last : World} {moments : List Moment} (run : Run simulation.world moments last)
    (updated : last.controller.updatePending = false)
    (unblanked : last.controller.blanking = .idle) {layer : Layer}
    (hLayer : layer ≠ .notifications) {surface : Surface}
    (attached : last.surface? layer = some surface)
    (still : last.controller.animations.get? layer = none) :
    surface.tint = (last.target layer).tint ∧
      (((last.target layer).alpha == surface.alpha) = true ∨
        (Curve.constrain (last.target layer).alpha 0 1 == surface.alpha) = true ∨
        ∃ moment ∈ moments, ∃ animation, moment.Ends layer animation ∧
          animation.stop.alpha = (last.target layer).alpha ∧
          surface.alpha = (animation.sample 1).alpha) := by
  obtain ⟨-, -, hRests⟩ :=
    run.rests (driven_create created) (sound_create created) (rests_create created)
  have hScene := hRests updated unblanked layer hLayer ⟨surface.alpha, surface.tint⟩ (by
    simp [scene, attached])
  have hStill : (last.scene layer).running = none := still
  rw [hStill] at hScene
  refine ⟨hScene.tint, hScene.alpha.imp_right (Or.imp_right ?_)⟩
  rintro ⟨animation, ⟨moment, hMem, hEnds⟩, hStop, hAlpha⟩
  exact ⟨moment, hMem, animation, hEnds, hStop, hAlpha⟩

set_option maxRecDepth 100000 in
/-- The behind layer of a display that was unlocked without a fade. -/
theorem layers_show_targets_unlocked : ∃ simulation moments last surface,
    Simulation.create {} {} = .ok simulation ∧ Run simulation.world moments last ∧
    last.controller.updatePending = false ∧ last.controller.blanking = .idle ∧
    last.surface? .behind = some surface ∧ last.controller.animations.get? .behind = none ∧
    last.target .behind = ⟨0, Color.black⟩ ∧ surface.tint = Color.black := by
  have hPlayed : (Simulation.play {} {} [.perform (.expansionAffectsAlpha false),
      .perform (.keyguardFadingAway true 0), .perform (.transition .unlocked none),
      .advance (Time.ofMillis 50)]).any (fun simulation =>
        let world := simulation.world
        !world.controller.updatePending && (world.controller.blanking = .idle) &&
          (world.controller.animations.get? .behind).isNone &&
          (world.controller.targets.alpha.behind = 0) &&
          (world.controller.targets.tint.behind = Color.black)) = true := by
    decide +kernel
  obtain ⟨simulation, hPlay, hLast⟩ := (Option.any_eq_true _ _).mp hPlayed
  simp only [Bool.and_eq_true, Bool.not_eq_true', decide_eq_true_eq,
    Option.isNone_iff_eq_none] at hLast
  obtain ⟨⟨⟨⟨hUpdated, hIdle⟩, hStill⟩, hAlpha⟩, hTint⟩ := hLast
  obtain ⟨first, hCreate, moments, run⟩ := (Simulation.reached_play hPlay).reachable
  have hBehind : simulation.world.surface? .behind =
      some simulation.world.host.surfaces.behind := rfl
  have hLayer : Layer.behind ≠ .notifications := nofun
  have hShown := layers_show_targets hCreate run hUpdated hIdle hLayer hBehind hStill
  have hTarget : simulation.world.target .behind = ⟨0, Color.black⟩ := by
    simp only [target, PerLayer.get, hAlpha, hTint]
  refine ⟨first, moments, simulation.world, _, hCreate, run, hUpdated, hIdle, rfl, hStill,
    hTarget, ?_⟩
  rw [hShown.1, hTarget]

end World

end Scrim
