import Scrim.Proofs.Rearming
import Scrim.Proofs.Rest

/-!
# What a step draws

Whatever happens, layers are drawn in one of a few ways (`World.Painted`): not at all, with the next
update, by an update, by following a gesture, or by a frame. Quick settings draw the notifications
layer before all that (`Event.heed`). So what each of these ways keeps is kept by every step
(`Step.painted`), however many requests there are.

The notifications layer is a bystander: no state aims at it and no gesture but that of quick
settings moves its target, so every other drawing leaves its target as it is (`Painted.attended`).
-/

namespace Scrim

/-- Lets the notifications layer follow quick settings, if the request moves them. -/
def Operation.heed (operation : Operation) (world : World) : World :=
  match operation with
  | .quickSettings fraction panelBottom =>
    if fraction.isNaN then world else world.followNotifications fraction panelBottom
  | _ => world

/-- Lets the notifications layer follow quick settings, if that is what happens. -/
def Event.heed (event : Event) (world : World) : World :=
  match event with
  | .request operation => operation.heed world
  | _ => world

namespace World

theorem agenda_heed (world : World) (event : Event) : (event.heed world).agenda = world.agenda := by
  unfold Event.heed Operation.heed
  split
  · split
    · split
      · rfl
      · exact agenda_followNotifications ..
    · rfl
  · rfl

/-- Following quick settings moves nothing, so nothing moves behind a held black frame. -/
theorem covered_heed {world : World} (steady : world.agenda.Steady) (event : Event)
    (hPending : (event.heed world).agenda.blanking.isPending = true) :
    (event.heed world).agenda.moving = false := by
  rw [agenda_heed] at hPending ⊢
  exact steady.covered hPending

end World

namespace Expansion

variable (gesture : Expansion) (catalog : Catalog) (targets : Targets)

/-- A gesture over an unlocked display moves opacities only. -/
theorem tint_laid_unlocked : (gesture.laid .unlocked catalog targets).tint = targets.tint := by
  unfold laid apply
  split
  · rfl
  · rfl

theorem notifications_laid (state : State) :
    (gesture.laid state catalog targets).alpha.notifications = targets.alpha.notifications ∧
      (gesture.laid state catalog targets).tint.notifications = targets.tint.notifications := by
  unfold laid apply
  split
  · cases state <;> exact ⟨rfl, rfl⟩
  · exact ⟨rfl, rfl⟩

end Expansion

/-- What a drawing makes of a layer whose target it does not move. -/
inductive Scene.Attended (scene : Scene) : Scene → Prop where
  | kept : Attended scene scene
  | stopped : Attended scene { scene with running := none }
  /-- The layer was found off its target and sent there. -/
  | sent (animation : Animation)
      (off : scene.shown = some scene.target → scene.target.alpha.isNaN = true) :
      Attended scene { scene with running := some animation }
  /-- The layer was found off its target and drawn there. -/
  | drawn (off : scene.shown = some scene.target → scene.target.alpha.isNaN = true) :
      Attended scene (Scene.draw { scene with running := none } scene.target)
  | followed (now : Nat) : Attended scene (scene.follow now)
  | stepped (now : Nat) : Attended scene (scene.step now)

namespace World

/-- What layers show, run and aim at is the same, and so is what decides on drawing them. -/
structure Alike (world after : World) : Prop where
  scene : ∀ layer, after.scene layer = world.scene layer
  state : after.controller.state = world.controller.state
  updatePending : after.controller.updatePending = world.controller.updatePending
  covered : after.controller.blanking.isPending = world.controller.blanking.isPending

inductive Painted (world : World) : World → Prop where
  | kept {after : World} (alike : world.Alike after) : Painted world after
  /-- Drawing is left to the next update. -/
  | deferred {after : World} (pending : after.controller.updatePending = true)
      (news : after.scene .notifications = world.scene .notifications) : Painted world after
  /-- An update was made, whatever it had to bring about, and others were told. -/
  | updated {ready after : World} (news : ready.scene .notifications = world.scene .notifications)
      (told : after.silent = ready.update.silent) : Painted world after
  /-- The gesture moved, was laid over the targets and followed at once. -/
  | followed (expansion : Expansion) (done : world.controller.updatePending = false) :
      Painted world
        (overlayGesture { world with controller.expansion := expansion }).world.followGesture
  | framed (scheduler : Scheduler) :
      Painted world (animationFrame { world with host.scheduler := scheduler })

variable {world after : World}

theorem alike_of_silent (h : after.silent = world.silent) : world.Alike after where
  scene := scene_of_silent h
  state := congrArg (·.controller.state) h
  updatePending := congrArg (·.controller.updatePending) h
  covered := congrArg (·.controller.blanking.isPending) h

/-! ## Updates -/

theorem painted_update {ready : World}
    (news : ready.scene .notifications = world.scene .notifications) :
    world.Painted ready.update :=
  .updated news rfl

theorem painted_scheduleUpdate {ready : World} (told : after.silent = ready.scheduleUpdate.silent)
    (news : ready.scene .notifications = world.scene .notifications) : world.Painted after := by
  have hPending : ready.scheduleUpdate.controller.updatePending = true :=
    congrArg (·.controller.updatePending) (standing_scheduleUpdate ready)
  refine .deferred ((congrArg (·.controller.updatePending) told).trans hPending) ?_
  rw [scene_of_silent told, ← news]
  unfold scheduleUpdate
  split
  · rfl
  · exact scene_modify ready .behind .notifications (fun _ => rfl) fun _ => rfl

theorem painted_reveal (h : world.Alike after) : world.Painted after.reveal := by
  unfold reveal
  split
  · exact .kept h
  · exact painted_update (h.scene .notifications)

theorem painted_preDraw {ready : World} (told : after.silent = ready.preDraw.silent)
    (news : ready.scene .notifications = world.scene .notifications) : world.Painted after := by
  unfold preDraw at told
  dsimp only at told
  refine .updated (Eq.trans ?_ news) told
  rw [scene_of_silent (silent_notifyActive ..)]
  exact scene_modify ready .behind .notifications (fun _ => rfl) fun _ => rfl

theorem painted_hideWallpaper (h : world.Alike after) : world.Painted after.hideWallpaper := by
  unfold hideWallpaper
  split
  · exact painted_scheduleUpdate rfl (h.scene .notifications)
  · exact .kept h

/-! ## Gestures -/

/-- Laying a gesture over the targets leaves the notifications layer out. -/
theorem scene_overlayGesture_notifications (world : World) :
    world.overlayGesture.world.scene .notifications = world.scene .notifications := by
  obtain ⟨hAlpha, hTint⟩ := world.controller.expansion.notifications_laid world.controller.catalog
    world.controller.targets world.controller.state
  exact congrArg (fun target => { world.scene .notifications with target := target })
    (congrArg₂ Look.mk hAlpha hTint)

/-- A gesture that has moved is followed at once, or laid over the targets of the next update. -/
theorem painted_applyGesture {moved : World} {expansion : Expansion}
    (hMoved : moved = { world with controller.expansion := expansion })
    (accepted : moved.applyGesture.error = none) : world.Painted moved.applyGesture.world := by
  have hNews : moved.overlayGesture.world.scene .notifications = world.scene .notifications := by
    rw [scene_overlayGesture_notifications, hMoved]
    rfl
  have hSame : moved.controller.updatePending = world.controller.updatePending := by rw [hMoved]
  cases hPending : world.controller.updatePending with
  | true =>
      rw [applyGesture_of_pending (hSame.trans hPending)]
      exact .deferred (hSame.trans hPending) hNews
  | false =>
      rw [applyGesture_of_updated (hSame.trans hPending) accepted, hMoved]
      exact .followed expansion hPending

theorem painted_setPanelExpansion {fraction : Float32}
    (accepted : (world.setPanelExpansion fraction).error = none) :
    world.Painted (world.setPanelExpansion fraction).world := by
  unfold setPanelExpansion at accepted ⊢
  split
  · exact .kept ⟨fun _ => rfl, rfl, rfl, rfl⟩
  · exact .kept ⟨fun _ => rfl, rfl, rfl, rfl⟩
  · next expansion hMoved =>
    rw [hMoved] at accepted
    dsimp only at accepted ⊢
    split
    · next hCounts =>
      rw [if_pos hCounts] at accepted
      exact painted_applyGesture rfl accepted
    · exact .kept ⟨fun _ => rfl, rfl, rfl, rfl⟩

theorem painted_setQuickSettings {fraction : Float32} {panelBottom : Int}
    (accepted : (world.setQuickSettings fraction panelBottom).error = none) :
    Painted ((Operation.quickSettings fraction panelBottom).heed world)
      (world.setQuickSettings fraction panelBottom).world := by
  unfold setQuickSettings Operation.heed at *
  dsimp only at accepted ⊢
  split
  · exact .kept ⟨fun _ => rfl, rfl, rfl, rfl⟩
  · next hNumber =>
    rw [if_neg hNumber] at accepted
    generalize world.followNotifications fraction panelBottom = followed at accepted ⊢
    split
    · exact .kept ⟨fun _ => rfl, rfl, rfl, rfl⟩
    · next expansion hMoved =>
      rw [hMoved] at accepted
      dsimp only at accepted ⊢
      split
      · next hCounts =>
        rw [if_pos hCounts] at accepted
        exact painted_applyGesture rfl accepted
      · exact .kept ⟨fun _ => rfl, rfl, rfl, rfl⟩

/-! ## Requests -/

theorem painted_refreshBehind (h : world.Alike after)
    (accepted : after.refreshBehind.error = none) :
    world.Painted after.refreshBehind.world := by
  unfold refreshBehind at accepted ⊢
  dsimp only at accepted ⊢
  split
  · exact .kept h
  · next hMoves =>
    rw [if_neg hMoves] at accepted
    split
    · next hError => simp [hError] at accepted
    · dsimp only
      exact painted_update (h.scene .notifications)

theorem painted_screenTurnedOn (world : World) : world.Painted world.screenTurnedOn := by
  unfold screenTurnedOn
  dsimp only
  split
  · exact .kept ⟨fun _ => rfl, rfl, rfl, rfl⟩
  · exact painted_reveal ⟨fun _ => rfl, rfl, rfl, rfl⟩

theorem scene_enter_notifications (world : World) (state : State) (callback : Option Callback) :
    (world.enter state callback).scene .notifications = world.scene .notifications := by
  have hReplaced := scene_of_silent (silent_replaceCallback
    { world.debug s!"State changed to: {state.name}" with controller.state := state } callback)
    .notifications
  unfold enter
  dsimp only
  generalize replaceCallback _ callback = entered at hReplaced ⊢
  exact hReplaced

/-- The targets of a transition are applied at once, or with the next update. -/
theorem painted_completeTransition {ready : World}
    (news : ready.scene .notifications = world.scene .notifications) (previous : State) :
    world.Painted (ready.completeTransition previous) := by
  have applied (w : World) (hNews : w.scene .notifications = world.scene .notifications)
      (alpha : Float32) : world.Painted ((w.applyTransition previous).dispatchState alpha) := by
    unfold applyTransition
    split
    · exact painted_scheduleUpdate (silent_dispatchState _ alpha) hNews
    · split
      · exact painted_preDraw (silent_dispatchState _ alpha) hNews
      · exact painted_scheduleUpdate (silent_dispatchState _ alpha) hNews
  have restarted (w : World) :
      w.restartWallpaper.scene .notifications = w.scene .notifications := rfl
  have held (w : World) : w.holdWakeLock.scene .notifications = w.scene .notifications := rfl
  unfold completeTransition
  extract_lets abandoned state controller marked awake complete
  refine applied awake.restartWallpaper ?_ _
  rw [restarted]
  dsimp only [awake]
  split
  · rw [held]
    exact news
  · exact news

theorem painted_transition {state : State} {callback : Option Callback}
    (accepted : (world.transition state callback).error = none) :
    world.Painted (world.transition state callback).world := by
  by_cases hActive : state = world.controller.state
  · rw [transition_of_active hActive accepted]
    exact .kept (alike_of_silent (silent_confirm world callback))
  · obtain ⟨-, -, -, hTransition⟩ := transition_eq hActive accepted
    rw [hTransition]
    apply painted_completeTransition
    rw [scene_overlayGesture_notifications, scene_enter_notifications]

theorem painted_run {operation : Operation} (accepted : (operation.run world).error = none) :
    Painted (operation.heed world) (operation.run world).world := by
  cases operation with
  | transition state callback => exact painted_transition accepted
  | panelExpansion fraction => exact painted_setPanelExpansion accepted
  | quickSettings fraction panelBottom => exact painted_setQuickSettings accepted
  | expansionAffectsAlpha affects =>
      cases affects with
      | true => exact painted_applyGesture rfl accepted
      | false => exact .kept ⟨fun _ => rfl, rfl, rfl, rfl⟩
  | aodFrontAlpha alpha =>
      simp only [Operation.run, setAodFrontAlpha]
      split
      · exact .kept ⟨fun _ => rfl, rfl, rfl, rfl⟩
      · split
        · dsimp only
          exact painted_update rfl
        · exact .kept ⟨fun _ => rfl, rfl, rfl, rfl⟩
  | screenSensor active =>
      simp only [Operation.run, setScreenSensor] at accepted ⊢
      split
      · next hPulsing =>
        rw [if_pos hPulsing] at accepted
        exact painted_refreshBehind ⟨fun _ => rfl, rfl, rfl, rfl⟩ accepted
      · exact .kept ⟨fun _ => rfl, rfl, rfl, rfl⟩
  | backdrop visible =>
      simp only [Operation.run, setBackdrop] at accepted ⊢
      split
      · next hDozes =>
        rw [if_pos hDozes] at accepted
        exact painted_refreshBehind ⟨fun _ => rfl, rfl, rfl, rfl⟩ accepted
      · exact .kept ⟨fun _ => rfl, rfl, rfl, rfl⟩
  | keyguardOccluded occluded =>
      simp only [Operation.run, setKeyguardOccluded]
      exact painted_update rfl
  | keyguardAlpha alpha =>
      simp only [Operation.run, setKeyguardAlpha]
      split
      · exact .kept ⟨fun _ => rfl, rfl, rfl, rfl⟩
      · exact painted_scheduleUpdate rfl rfl
  | theme palette => exact painted_scheduleUpdate rfl rfl
  | themeChanged => exact painted_scheduleUpdate rfl rfl
  | keyguardVisibility showing => exact painted_scheduleUpdate rfl rfl
  | screenOn => exact painted_screenTurnedOn world
  | wallpaperTimeout => exact painted_hideWallpaper ⟨fun _ => rfl, rfl, rfl, rfl⟩
  | _ => exact .kept ⟨fun _ => rfl, rfl, rfl, rfl⟩

/-! ## Host events -/

theorem alike_frameCommitted (world : World) : world.Alike world.frameCommitted where
  scene := scene_frameCommitted world
  state := congrArg (·.controller.state) (standing_frameCommitted world)
  updatePending := congrArg (·.controller.updatePending) (standing_frameCommitted world)
  covered := by
    rcases agenda_frameCommitted world with ⟨hSame, -⟩ | ⟨hPhase, hCommitted⟩
    · exact congrArg (·.blanking.isPending) hSame
    · have hPending : world.controller.blanking = .awaitingFrame := hPhase
      rw [hPending]
      exact congrArg (·.blanking.isPending) hCommitted

theorem painted_runTask (h : world.Alike after) (task : Task) :
    world.Painted (after.runTask task) := by
  cases task with
  | pendingFrame =>
      have hCommitted := alike_frameCommitted after
      exact .kept
        { scene := fun layer => (hCommitted.scene layer).trans (h.scene layer)
          state := hCommitted.state.trans h.state
          updatePending := hCommitted.updatePending.trans h.updatePending
          covered := hCommitted.covered.trans h.covered }
  | blankingTransition => exact painted_reveal h
  | scheduleWallpaperTimeout => exact .kept { h with }
  | cancelWallpaperTimeout => exact .kept { h with }

theorem Step.painted {before after : World} {event : Event} (step : Step before event after) :
    Painted (event.heed before) after := by
  cases step with
  | request accepted => exact painted_run accepted
  | clock time => exact .kept ⟨fun _ => rfl, rfl, rfl, rfl⟩
  | alarm due => exact painted_hideWallpaper ⟨fun _ => rfl, rfl, rfl, rfl⟩
  | task due =>
      apply painted_runTask
      exact ⟨fun _ => rfl, rfl, rfl, rfl⟩
  | animationFrame requested => exact .framed _
  | preDraw listening => exact painted_preDraw rfl rfl

/-! ## The notifications layer -/

theorem scene_blankDisplay_notifications (world : World) :
    world.blankDisplay.scene .notifications = world.scene .notifications := by
  have hOther : Layer.notifications ≠ .front := nofun
  exact scene_draw_of_ne world ⟨1, Color.black⟩ hOther

theorem scene_updateLayer_notifications_of_ne (world : World) {layer : Layer}
    (h : Layer.notifications ≠ layer) :
    (world.updateLayer layer).scene .notifications = world.scene .notifications := by
  have hStopped := scene_stopAnimation_of_ne world h
  unfold updateLayer
  split
  · rfl
  · extract_lets stopped told announced
    split
    · exact hStopped
    · split
      · exact (scene_blankDisplay_notifications stopped).trans hStopped
      · have hTold : announced.silent = stopped.silent := by
          dsimp only [announced]
          split
          · exact silent_notifyBlankedOnce stopped
          · exact silent_notifyBlankedOnce stopped
        rw [scene_moveToTarget_of_ne _ _ h, scene_of_silent hTold]
        exact hStopped

/-- A stopped layer is left where it is only if it shows its target. -/
theorem attended_moveToTarget {layer : Layer} {scene : Scene} {current : Look}
    (hScene : world.scene layer = { scene with running := none })
    (hShown : scene.shown = some current) :
    scene.Attended ((world.moveToTarget layer current).scene layer) := by
  have hTarget : world.target layer = scene.target := congrArg Scene.target hScene
  unfold moveToTarget
  dsimp only
  rw [hTarget]
  split
  · next hOff =>
    have off : scene.shown = some scene.target → scene.target.alpha.isNaN = true := by
      intro hThere
      obtain rfl := Option.some.inj (hShown.symm.trans hThere)
      by_contra hNumber
      have hSame := beq_self_of_number (Bool.of_not_eq_true hNumber)
      simp [bne, hSame] at hOff
    split
    · have hSent : (world.startAnimation layer current).scene layer =
          { world.scene layer with running :=
              (world.startAnimation layer current).controller.animations.get? layer } := rfl
      rw [hSent, hScene, startAnimation, Animations.get?_start_self]
      exact .sent _ off
    · rw [scene_draw_self, hScene]
      exact .drawn off
  · rw [hScene]
    exact .stopped

theorem attended_updateLayer_notifications (world : World) :
    (world.scene .notifications).Attended
      ((world.updateLayer .notifications).scene .notifications) := by
  have hStopped := scene_stopAnimation_self world .notifications
  have hSurface : world.surface? .notifications = some world.host.surfaces.notifications := rfl
  have hTold := scene_of_silent (silent_notifyBlankedOnce (world.stopAnimation .notifications))
    .notifications
  rw [updateLayer_eq hSurface]
  dsimp only
  split
  · rw [hStopped]
    exact .stopped
  · split
    · rw [scene_blankDisplay_notifications, hStopped]
      exact .stopped
    · exact attended_moveToTarget (hTold.trans hStopped) rfl

theorem scene_settle_notifications (world : World) (registration : Option Registration) :
    (world.settle registration).scene .notifications = world.scene .notifications := by
  cases hPending : world.agenda.blanking.isPending with
  | true => rw [settle_of_pending registration hPending]
  | false =>
      cases hMoving : world.agenda.moving with
      | true => exact scene_settle_of_moving registration hMoving .notifications
      | false =>
          rw [scene_settle_of_still registration hPending hMoving]
          exact ite_self _

theorem scene_ready_notifications (world : World) :
    world.refreshPalette.hideBehind.scene .notifications = world.scene .notifications := by
  have hHidden (w : World) : w.hideBehind.scene .notifications = w.scene .notifications := by
    unfold hideBehind
    dsimp only
    split
    · rfl
    · rfl
  rw [hHidden]
  unfold refreshPalette
  split
  · dsimp only
    rw [scene_of_silent (silent_dispatchState ..), scene_applyPalette, scene_applyPalette,
      scene_applyPalette]
    rfl
  · rfl

/-- An update comes to the notifications layer once, and leaves it alone before and after. -/
theorem attended_update (world : World) :
    (world.scene .notifications).Attended (world.update.scene .notifications) := by
  have other (w : World) (layer : Layer) (h : Layer.notifications ≠ layer) :
      (w.updateLayer layer).scene .notifications = w.scene .notifications :=
    scene_updateLayer_notifications_of_ne w h
  have hReady := scene_ready_notifications world
  unfold update updateLayers
  dsimp only
  generalize world.refreshPalette.hideBehind = ready at hReady ⊢
  rw [scene_of_silent (silent_dispatchVisibility _), scene_settle_notifications,
    other _ .auxiliary nofun, scene_applyPalette, ← hReady, ← other ready .front nofun,
    ← other (ready.updateLayer .front) .behind nofun]
  exact attended_updateLayer_notifications _

/-- An unlock has no tint of the notifications layer to drop. -/
theorem scene_animationFrame_notifications
    (hCovered : world.agenda.blanking.isPending = true → world.agenda.moving = false) :
    world.animationFrame.scene .notifications = (world.scene .notifications).step world.now :=
  (scene_animationFrame hCovered .notifications).trans (ite_self _)

/-- What a drawing makes of the notifications layer, which it does not aim at. -/
theorem Painted.attended (painted : world.Painted after)
    (hCovered : world.agenda.blanking.isPending = true → world.agenda.moving = false) :
    (world.scene .notifications).Attended (after.scene .notifications) := by
  cases painted with
  | kept alike =>
      rw [alike.scene]
      exact .kept
  | deferred pending news =>
      rw [news]
      exact .kept
  | @updated ready _ news told =>
      rw [scene_of_silent told, ← news]
      exact attended_update ready
  | followed expansion done =>
      rw [scene_followGesture rfl, scene_overlayGesture_notifications]
      exact .followed _
  | framed scheduler =>
      have hFrame := @scene_animationFrame_notifications { world with host.scheduler := scheduler }
        hCovered
      rw [hFrame]
      exact .stepped _

/-- What a step makes of the notifications layer once that has followed quick settings. -/
theorem Step.attended {before after : World} {event : Event} (step : Step before event after)
    (steady : before.agenda.Steady) :
    ((event.heed before).scene .notifications).Attended (after.scene .notifications) :=
  step.painted.attended (covered_heed steady event)

end World

/-- No drawing moves the target of a layer that it does not aim at. -/
theorem Scene.Attended.target {scene after : Scene} (attended : scene.Attended after) :
    after.target = scene.target := by
  cases attended with
  | followed now =>
      unfold Scene.follow
      split
      · rfl
      · rfl
  | _ => rfl

end Scrim
