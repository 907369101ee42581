import Scrim.Proofs.Arrival
import Scrim.Proofs.Painting
import Scrim.Proofs.Quiescence

/-!
# The unlocked display at rest

An unlock fades out of the black of an always-on display, waits for a black frame, or needs no
animation at all, and afterwards gestures draw layers that no update comes to. On each of these ways
the tints of the lock screen are dropped once nothing is left to do: by an update that leaves
everything still, or by the last frame of what moved (`World.Unlocks`). All that follows leaves the
tints as they are, and draws a layer at its target (`World.unlocked_layers_show_targets`).
-/

namespace Scrim

/-- A layer that has dropped the tint of the lock screen follows a gesture that leaves its tint. -/
theorem Scene.unlock_follow {scene : Scene} {tint : Color} {target : Look}
    (h : scene.unlock (some tint) = scene) (hStill : scene.running = none)
    (hTint : target.tint = scene.target.tint) (now : Nat) :
    (Scene.follow { scene with target := target } now).unlock (some tint) =
      Scene.follow { scene with target := target } now := by
  have hUnlocked : target = { target with tint := tint } := by
    have hBefore : tint = scene.target.tint := congrArg (·.target.tint) h
    rw [hBefore, ← hTint]
  have hDrawn : Scene.follow { scene with target := target } now =
      Scene.unlock { scene with target := target } (some tint) := by
    unfold Scene.follow Scene.unlock
    rw [hStill]
    dsimp only
    rw [← hUnlocked]
  rw [hDrawn, Scene.unlock_unlock]

/-- The same for a layer that is not there to be drawn. -/
theorem Scene.unlock_of_absent {scene : Scene} {tint : Color} (hAbsent : scene.shown = none)
    (hTint : scene.target.tint = tint) : scene.unlock (some tint) = scene := by
  subst hTint
  unfold Scene.unlock Scene.draw
  rw [hAbsent]
  rcases scene with ⟨_, _, _⟩
  obtain rfl : _ = none := hAbsent
  rfl

namespace World

/-- Where nothing is left to do on an unlocked display, the tints of the lock screen are dropped. -/
def Unlocks (world : World) : Prop :=
  world.controller.state = .unlocked → world.controller.updatePending = false →
    world.controller.blanking.isPending = false → world.agenda.moving = false →
    ∀ layer, (world.scene layer).unlock layer.unlockTint? = world.scene layer

variable {world after : World}

/-- What leaves the layers alone keeps the tints dropped; the notifications layer has none. -/
theorem Unlocks.same (h : world.Unlocks)
    (hState : after.controller.state = world.controller.state)
    (hUpdated : after.controller.updatePending = world.controller.updatePending)
    (hIdle : after.controller.blanking.isPending = world.controller.blanking.isPending)
    (hMoving : after.agenda.moving = world.agenda.moving)
    (hScene : ∀ layer, layer ≠ .notifications → after.scene layer = world.scene layer) :
    after.Unlocks := by
  intro unlocked updated idle still layer
  by_cases hLayer : layer = .notifications
  · rw [hLayer]
    rfl
  · rw [hScene layer hLayer]
    exact h (hState.symm.trans unlocked) (hUpdated.symm.trans updated) (hIdle.symm.trans idle)
      (hMoving.symm.trans still) layer

theorem Unlocks.alike (h : world.Unlocks) (alike : world.Alike after) : after.Unlocks :=
  h.same alike.state alike.updatePending alike.covered (moving_of_scenes alike.scene)
    fun layer _ => alike.scene layer

theorem unlocks_of_silent (h : world.Unlocks) (told : after.silent = world.silent) :
    after.Unlocks :=
  h.alike (alike_of_silent told)

/-! ## Updates -/

/-- An update that leaves nothing to do has settled. -/
theorem unlocks_update (world : World) : world.update.Unlocks := by
  refine unlocks_of_silent ?_ (silent_dispatchVisibility _)
  generalize world.updateLayers = all
  intro hState _ hIdle hStill layer
  cases hPending : all.agenda.blanking.isPending with
  | true =>
      rw [settle_of_pending _ hPending] at hIdle
      exact absurd (hPending.symm.trans hIdle) Bool.noConfusion
  | false =>
      cases hMoving : all.agenda.moving with
      | true =>
          rw [agenda_settle_of_moving _ hMoving, hMoving] at hStill
          cases hStill
      | false =>
          have hUnlocked : all.controller.state = .unlocked :=
            (congrArg (·.controller.state) (standing_settle all _)).symm.trans hState
          rw [scene_settle_of_still _ hPending hMoving, if_pos hUnlocked, Scene.unlock_unlock]

/-! ## Gestures -/

theorem Unlocks.followNotifications (h : world.Unlocks) (fraction : Float32) (panelBottom : Int) :
    (world.followNotifications fraction panelBottom).Unlocks := by
  have hAgenda := agenda_followNotifications world fraction panelBottom
  have hState := congrArg Outlook.state (outlook_followNotifications world fraction panelBottom)
  exact h.same hState (congrArg (·.updatePending) hAgenda)
    (congrArg (·.blanking.isPending) hAgenda) (congrArg (·.moving) hAgenda)
    fun layer hLayer => scene_followNotifications_of_ne world fraction panelBottom hLayer

theorem Unlocks.heed (h : world.Unlocks) (event : Event) : (event.heed world).Unlocks := by
  unfold Event.heed Operation.heed
  split
  · split
    · split
      · exact h
      · exact h.followNotifications _ _
    · exact h
  · exact h

/-- Over an unlocked display a gesture moves opacities only. -/
theorem scene_overlayGesture_of_unlocked (h : world.controller.state = .unlocked) (layer : Layer) :
    ∃ target : Look, target.tint = (world.scene layer).target.tint ∧
      world.overlayGesture.world.scene layer = { world.scene layer with target := target } := by
  refine ⟨world.overlayGesture.world.target layer, ?_, rfl⟩
  have hTint := world.controller.expansion.tint_laid_unlocked world.controller.catalog
    world.controller.targets
  rw [← h] at hTint
  exact congrArg (·.get layer) hTint

/-- A layer that has dropped the tint of the lock screen has done so when it follows a gesture. -/
theorem unlock_followGesture {layer : Layer} {tint : Color} {target : Look} {ready : World}
    (h : (world.scene layer).unlock (some tint) = world.scene layer)
    (hStill : (world.scene layer).running = none)
    (hTint : target.tint = (world.scene layer).target.tint)
    (hReady : ready.scene layer = { world.scene layer with target := target }) :
    (ready.followGesture.scene layer).unlock (some tint) = ready.followGesture.scene layer := by
  cases hHas : ready.hasLayer layer with
  | true =>
      rw [scene_followGesture hHas, hReady]
      exact Scene.unlock_follow h hStill hTint ready.now
  | false =>
      obtain rfl : layer = .auxiliary := by
        cases layer with
        | auxiliary => rfl
        | _ => cases hHas
      have hAbsent : (ready.scene .auxiliary).shown = none := by
        have hNone : ready.host.surfaces.get? .auxiliary = none := by
          simpa [hasLayer, Surfaces.has] using hHas
        simp [scene, surface?, hNone]
      rw [scene_followGesture_of_absent hHas]
      apply Scene.unlock_of_absent hAbsent
      rw [hReady]
      exact hTint.trans (congrArg (·.target.tint) h).symm

/-- Layers that follow a gesture keep their tints. -/
theorem Unlocks.followed (h : world.Unlocks) (expansion : Expansion)
    (done : world.controller.updatePending = false) :
    (overlayGesture
      { world with controller.expansion := expansion }).world.followGesture.Unlocks := by
  intro hState _ hIdle hStill layer
  have hFollowed := outlook_followGesture (overlayGesture { world with
    controller.expansion := expansion }).world
  have hUnlocked : world.controller.state = .unlocked :=
    (congrArg Outlook.state hFollowed).symm.trans hState
  obtain ⟨hBefore, hRest⟩ :
      world.agenda.blanking.isPending = false ∧ world.agenda.moving = false := by
    rcases agenda_followGesture (overlayGesture { world with
      controller.expansion := expansion }).world with hSame | hPosted
    · exact ⟨(congrArg (·.blanking.isPending) hSame).symm.trans hIdle,
        (congrArg (·.moving) hSame).symm.trans hStill⟩
    · exact ⟨(congrArg (·.blanking.isPending) hPosted).symm.trans hIdle,
        (congrArg (·.moving) hPosted).symm.trans hStill⟩
  cases hTint : layer.unlockTint? with
  | none => rfl
  | some tint =>
      obtain ⟨target, hKept, hReady⟩ := @scene_overlayGesture_of_unlocked
        { world with controller.expansion := expansion } hUnlocked layer
      have hLayer := h hUnlocked done hBefore hRest layer
      rw [hTint] at hLayer
      exact unlock_followGesture hLayer (get?_of_still hRest layer) hKept hReady

/-! ## Frames -/

/-- A frame after which nothing runs was the last one of what ran, or there was nothing. -/
theorem moving_of_not_comesToRest (h : world.comesToRest = false)
    (hStill : world.animationFrame.agenda.moving = false) : world.agenda.moving = false := by
  have hAdvanced : (world.controller.animations.advance world.now).anyAnimating = false := by
    rw [← animations_animationFrame, anyAnimating_eq_moving]
    exact hStill
  have hNone : world.controller.animations.completions world.now = [] := by
    rw [comesToRest, hAdvanced] at h
    simpa using h
  have hShown := moving_showAnimations world
  rw [hAdvanced, agenda_showAnimations, Animations.carried_advance_of_completions_nil hNone]
    at hShown
  exact hShown

/-- The last frame of what moves drops the tints of the lock screen. -/
theorem Unlocks.framed (h : world.Unlocks)
    (hCovered : world.agenda.blanking.isPending = true → world.agenda.moving = false) :
    world.animationFrame.Unlocks := by
  intro hState hUpdated hIdle hStill layer
  have hUnlocked : world.controller.state = .unlocked :=
    (congrArg (·.controller.state) (standing_animationFrame world)).symm.trans hState
  obtain ⟨hPending, hBlanking⟩ := (framed_animationFrame rfl hCovered).keeps
  rw [scene_animationFrame hCovered]
  cases hRest : world.comesToRest with
  | true =>
      rw [hUnlocked]
      exact Scene.unlock_unlock ..
  | false =>
      have hRan := moving_of_not_comesToRest hRest hStill
      rw [Bool.false_and, if_neg Bool.false_ne_true, Scene.step_of_still (get?_of_still hRan layer)]
      exact h hUnlocked (hPending.symm.trans hUpdated)
        ((congrArg Blanking.isPending hBlanking).symm.trans hIdle) hRan layer

/-! ## Whole runs -/

theorem Unlocks.painted (h : world.Unlocks) (painted : world.Painted after)
    (hCovered : world.agenda.blanking.isPending = true → world.agenda.moving = false) :
    after.Unlocks := by
  cases painted with
  | kept alike => exact h.alike alike
  | deferred pending news =>
      exact fun _ hUpdated => absurd (pending.symm.trans hUpdated) Bool.noConfusion
  | @updated ready _ news told => exact unlocks_of_silent (unlocks_update ready) told
  | followed expansion done => exact h.followed expansion done
  | framed scheduler =>
      exact @Unlocks.framed { world with host.scheduler := scheduler } h hCovered

theorem Step.unlocks {before after : World} {event : Event} (step : Step before event after)
    (steady : before.agenda.Steady) (h : before.Unlocks) : after.Unlocks :=
  (h.heed event).painted step.painted (covered_heed steady event)

theorem unlocks_create {settings : Settings} {options : SimulationOptions}
    {simulation : Simulation} (h : Simulation.create settings options = .ok simulation) :
    simulation.world.Unlocks := by
  have hUpdated := unlocks_update (fresh settings options)
  obtain ⟨message, screenOn, hWorld⟩ := create_eq h
  rw [hWorld]
  generalize (fresh settings options).update = updated at hUpdated ⊢
  exact hUpdated

/-- In every run, once the display is unlocked and nothing is left to do, no layer has the black of
the lock screen but the behind layer, and every layer shows its target. -/
theorem unlocked_layers_show_targets {settings : Settings} {options : SimulationOptions}
    {world : World} (reachable : Reachable settings options world)
    (unlocked : world.controller.state = .unlocked)
    (updated : world.controller.updatePending = false)
    (still : world.controller.animations.anyAnimating = false)
    (unblanked : world.controller.blanking = .idle) :
    (world.target .front).tint = Color.transparent ∧
      (world.target .behind).tint = Color.black ∧
      (world.target .auxiliary).tint = Color.transparent ∧
      ∀ layer, layer ≠ .notifications → ∀ surface, world.surface? layer = some surface →
        surface.tint = (world.target layer).tint ∧
          surface.alpha = Curve.constrain (world.target layer).alpha 0 1 := by
  have hBoth := reachable.invariant (fun world => world.agenda.Steady ∧ world.Unlocks)
    (fun _ hCreate => ⟨(driven_create hCreate).steady, unlocks_create hCreate⟩)
    (fun _ _ _ h step => ⟨step.steady h.1, step.unlocks h.1 h.2⟩)
  have hScene := hBoth.2 unlocked updated (by rw [unblanked]; rfl)
    (by rw [← anyAnimating_eq_moving]; exact still)
  have hTint (layer : Layer) (tint : Color) (h : layer.unlockTint? = some tint) :
      (world.target layer).tint = tint := by
    have hLayer := hScene layer
    rw [h] at hLayer
    exact (congrArg (·.target.tint) hLayer).symm
  refine ⟨hTint .front _ rfl, hTint .behind _ rfl, hTint .auxiliary _ rfl, ?_⟩
  intro layer hLayer surface hSurface
  obtain ⟨tint, hUnlock⟩ := Layer.unlockTint?_eq_some hLayer
  have hShown := congrArg Scene.shown (hScene layer)
  rw [hUnlock, ← hTint layer tint hUnlock] at hShown
  simp only [Scene.unlock, Scene.draw, scene, hSurface, Option.map_some] at hShown
  obtain ⟨hAlpha, hSame⟩ := Look.mk.inj (Option.some.inj hShown)
  exact ⟨hSame.symm, hAlpha.symm⟩

def dozeThenUnlock : List Simulation.Call :=
  [.perform (.expansionAffectsAlpha false), .perform (.keyguardFadingAway true 0),
    .perform (.transition .aod none), .runUntilIdle (Time.ofMillis 1000),
    .perform (.transition .unlocked none), .runUntilIdle (Time.ofMillis 1000)]

set_option maxRecDepth 100000 in
/-- The auxiliary layer after an unlock that fades out of the black of the always-on display. -/
theorem unlocked_layers_show_targets_after_doze : ∃ simulation surface,
    Simulation.play Simulation.blankedDoze {} dozeThenUnlock = some simulation ∧
    simulation.world.controller.state = .unlocked ∧
    simulation.world.controller.updatePending = false ∧
    simulation.world.controller.animations.anyAnimating = false ∧
    simulation.world.controller.blanking = .idle ∧
    simulation.world.surface? .auxiliary = some surface ∧ surface.tint = Color.transparent := by
  have hPlayed : (Simulation.play Simulation.blankedDoze {} dozeThenUnlock).any (fun simulation =>
      let world := simulation.world
      (world.controller.state = .unlocked) && !world.controller.updatePending &&
        !world.controller.animations.anyAnimating && (world.controller.blanking = .idle) &&
        (world.surface? .auxiliary).isSome) = true := by
    decide +kernel
  obtain ⟨simulation, hPlay, hLast⟩ := (Option.any_eq_true _ _).mp hPlayed
  simp only [Bool.and_eq_true, Bool.not_eq_true', decide_eq_true_eq] at hLast
  obtain ⟨⟨⟨⟨hUnlocked, hUpdated⟩, hStill⟩, hIdle⟩, hAttached⟩ := hLast
  obtain ⟨surface, hSurface⟩ := Option.isSome_iff_exists.mp hAttached
  obtain ⟨-, -, hTint, hLayers⟩ := unlocked_layers_show_targets
    (Simulation.reached_play hPlay).reachable hUnlocked hUpdated hStill hIdle
  have hLayer : Layer.auxiliary ≠ .notifications := nofun
  exact ⟨simulation, surface, hPlay, hUnlocked, hUpdated, hStill, hIdle, hSurface,
    (hLayers .auxiliary hLayer surface hSurface).1.trans hTint⟩

end World

end Scrim
