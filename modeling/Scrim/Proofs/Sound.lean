import Scrim.Proofs.Standing

/-!
# Sound targets

Accepted requests never leave an opacity that is not a number among the targets of the front,
behind and auxiliary layers: settings, arguments and gestures that would are refused
(`World.Step.sound`). The notifications layer is drawn from a drag and has no such check.
-/

namespace Scrim

/-! ## Targets -/

/-- The opacities wanted for the layers that states aim at are numbers. -/
structure Targets.Sound (targets : Targets) : Prop where
  front : targets.alpha.front.isNaN = false
  behind : targets.alpha.behind.isNaN = false
  auxiliary : targets.alpha.auxiliary.isNaN = false

theorem Targets.Sound.get {targets : Targets} (h : targets.Sound) {layer : Layer}
    (hLayer : layer ≠ .notifications) : (targets.alpha.get layer).isNaN = false := by
  cases layer with
  | front => exact h.front
  | behind => exact h.behind
  | notifications => exact absurd rfl hLayer
  | auxiliary => exact h.auxiliary

theorem Targets.sound_of_nanError? {targets : Targets} {state : State}
    (h : targets.nanError? state = none) (hAuxiliary : targets.alpha.auxiliary.isNaN = false) :
    targets.Sound := by
  unfold nanError? at h
  split at h
  · cases h
  · next hNumbers =>
    rw [Bool.or_eq_true, not_or] at hNumbers
    exact ⟨Bool.of_not_eq_true hNumbers.1, Bool.of_not_eq_true hNumbers.2, hAuxiliary⟩

/-- A gesture that is laid over sound targets without an error leaves them sound. -/
theorem Expansion.sound_apply {gesture : Expansion} {state : State} {catalog : Catalog}
    {targets : Targets} (h : targets.Sound)
    (accepted : (gesture.apply state catalog targets).2 = none) :
    (gesture.apply state catalog targets).1.Sound := by
  unfold apply at accepted ⊢
  split
  · next hAffects =>
    rw [if_pos hAffects] at accepted
    apply Targets.sound_of_nanError? accepted
    unfold overlay
    split
    · exact h.auxiliary
    · split
      · exact h.auxiliary
      · exact h.auxiliary
  · exact h

namespace World

/-! ## Updates -/

theorem sound_of_alpha {targets other : Targets} (h : targets.Sound)
    (hAlpha : other.alpha = targets.alpha) : other.Sound :=
  ⟨by rw [hAlpha]; exact h.front, by rw [hAlpha]; exact h.behind,
    by rw [hAlpha]; exact h.auxiliary⟩

/-- The wanted opacities are among what drawing leaves standing. -/
theorem sound_of_standing {world after : World} (h : world.controller.targets.Sound)
    (hStanding : after.standing = world.standing) : after.controller.targets.Sound :=
  sound_of_alpha h (congrArg (·.controller.targets.alpha) hStanding)

theorem sound_hideBehind {world : World} (h : world.controller.targets.Sound) :
    world.hideBehind.controller.targets.Sound := by
  have hSolid : (1 : Float32).isNaN = false := by decide
  unfold hideBehind
  dsimp only
  split
  · exact ⟨h.front, hSolid, h.auxiliary⟩
  · exact h

theorem sound_refreshPalette {world : World} (h : world.controller.targets.Sound) :
    world.refreshPalette.controller.targets.Sound := by
  unfold refreshPalette
  split
  · exact h
  · exact h

theorem sound_prepare {world : World} (h : world.controller.targets.Sound) :
    world.prepare.controller.targets.Sound := by
  have hRefreshed : world.refresh.controller.targets.Sound := by
    unfold refresh
    split
    · exact h
    · exact h
  exact sound_hideBehind hRefreshed

theorem sound_updateLayers {world : World} (h : world.controller.targets.Sound) :
    world.updateLayers.controller.targets.Sound := by
  have hPrepared : world.standing.prepare.controller.targets.Sound :=
    sound_prepare (sound_of_alpha h rfl)
  have hStanding := standing_updateLayers world
  generalize world.updateLayers = updated at hStanding ⊢
  exact sound_of_alpha hPrepared (congrArg (·.controller.targets.alpha) hStanding)

theorem sound_update {world : World} (h : world.controller.targets.Sound) :
    world.update.controller.targets.Sound := by
  have hLayers := sound_updateLayers h
  have hStanding := (standing_update world).trans (standing_updateLayers world).symm
  generalize world.update = updated at hStanding ⊢
  exact sound_of_standing hLayers hStanding

theorem sound_preDraw {world : World} (h : world.controller.targets.Sound) :
    world.preDraw.controller.targets.Sound := by
  have told (w : World) (h : w.controller.targets.Sound) :
      (w.notifyActive .start).controller.targets.Sound :=
    sound_of_standing h (standing_notifyActive w .start)
  unfold preDraw
  apply sound_update
  apply told
  exact h

theorem sound_reveal {world : World} (h : world.controller.targets.Sound) :
    world.reveal.controller.targets.Sound := by
  unfold reveal
  split
  · exact h
  · apply sound_update
    exact h

theorem sound_scheduleUpdate {world : World} (h : world.controller.targets.Sound) :
    world.scheduleUpdate.controller.targets.Sound := by
  unfold scheduleUpdate
  split
  · exact h
  · exact h

theorem sound_hideWallpaper {world : World} (h : world.controller.targets.Sound) :
    world.hideWallpaper.controller.targets.Sound := by
  unfold hideWallpaper
  split
  · exact sound_scheduleUpdate h
  · exact h

theorem sound_followGesture {world : World} (h : world.controller.targets.Sound) :
    world.followGesture.controller.targets.Sound := by
  have restored : ∀ w : World, w.controller.targets.Sound →
      w.restoreWallpaper.controller.targets.Sound := by
    intro w h
    unfold restoreWallpaper
    split
    · exact h
    · exact h
  unfold followGesture
  simp only [List.foldl_cons, List.foldl_nil]
  apply restored
  apply sound_of_standing h
  rw [standing_of_silent (silent_dispatchState ..)]
  simp only [standing_followTarget]

theorem sound_applyGesture {world : World} (h : world.controller.targets.Sound)
    (accepted : world.applyGesture.error = none) :
    world.applyGesture.world.controller.targets.Sound := by
  unfold applyGesture overlayGesture at accepted ⊢
  dsimp only at accepted ⊢
  split
  · next hOverlay => simp [hOverlay] at accepted
  · next hOverlay =>
    obtain ⟨rfl, hError⟩ := Outcome.mk.inj hOverlay
    have hSound := Expansion.sound_apply h hError
    dsimp only
    split
    · exact hSound
    · exact sound_followGesture hSound

theorem sound_setPanelExpansion {world : World} {fraction : Float32}
    (h : world.controller.targets.Sound)
    (accepted : (world.setPanelExpansion fraction).error = none) :
    (world.setPanelExpansion fraction).world.controller.targets.Sound := by
  unfold setPanelExpansion at accepted ⊢
  split
  · exact h
  · exact h
  · next hMoved =>
    rw [hMoved] at accepted
    dsimp only at accepted ⊢
    split
    · next hCounts =>
      rw [if_pos hCounts] at accepted
      exact sound_applyGesture h accepted
    · exact h

theorem sound_followNotifications {world : World} (h : world.controller.targets.Sound)
    (fraction : Float32) (panelBottom : Int) :
    (world.followNotifications fraction panelBottom).controller.targets.Sound := by
  unfold followNotifications
  dsimp only
  split
  · exact ⟨h.front, h.behind, h.auxiliary⟩
  · exact h

theorem sound_setQuickSettings {world : World} {fraction : Float32} {panelBottom : Int}
    (h : world.controller.targets.Sound)
    (accepted : (world.setQuickSettings fraction panelBottom).error = none) :
    (world.setQuickSettings fraction panelBottom).world.controller.targets.Sound := by
  have hFollowed := sound_followNotifications h fraction panelBottom
  unfold setQuickSettings at accepted ⊢
  generalize world.followNotifications fraction panelBottom = followed at hFollowed accepted ⊢
  split
  · exact h
  · next hNaN =>
    rw [if_neg hNaN] at accepted
    dsimp only at accepted ⊢
    split
    · exact hFollowed
    · next hMoved =>
      rw [hMoved] at accepted
      dsimp only at accepted
      split
      · next hCounts =>
        rw [if_pos hCounts] at accepted
        exact sound_applyGesture hFollowed accepted
      · exact hFollowed

theorem sound_refreshBehind {world : World} (h : world.controller.targets.Sound)
    (accepted : world.refreshBehind.error = none) :
    world.refreshBehind.world.controller.targets.Sound := by
  unfold refreshBehind at accepted ⊢
  dsimp only at accepted ⊢
  split
  · exact h
  · next hMoves =>
    rw [if_neg hMoves] at accepted
    split
    · next hError => simp [hError] at accepted
    · next hSound =>
      apply sound_update
      exact Targets.sound_of_nanError? hSound h.auxiliary

theorem sound_setAodFrontAlpha {world : World} {alpha : Float32}
    (h : world.controller.targets.Sound) :
    (world.setAodFrontAlpha alpha).world.controller.targets.Sound := by
  unfold setAodFrontAlpha
  split
  · exact h
  · next hNumber =>
    dsimp only
    split
    · apply sound_update
      exact ⟨Bool.of_not_eq_true hNumber, h.behind, h.auxiliary⟩
    · exact h

theorem sound_completeTransition {world : World} (h : world.controller.targets.Sound)
    (previous : State) : (world.completeTransition previous).controller.targets.Sound := by
  have applied : ∀ w : World, w.controller.targets.Sound →
      (w.applyTransition previous).controller.targets.Sound := by
    intro w h
    unfold applyTransition
    split
    · exact sound_scheduleUpdate h
    · split
      · exact sound_preDraw h
      · exact sound_scheduleUpdate h
  unfold completeTransition
  extract_lets abandoned state controller marked awake complete
  have hAwake : awake.controller.targets.Sound := by
    dsimp only [awake]
    split
    · exact h
    · exact h
  exact applied awake.restartWallpaper hAwake

/-- The targets that an accepted transition into another state comes to are sound. -/
theorem transition_of_sound {world : World} {state : State} {callback : Option Callback}
    (hOther : state ≠ world.controller.state)
    (accepted : (world.transition state callback).error = none) :
    ∃ targets : Targets, targets.Sound ∧ (world.transition state callback).world =
      World.completeTransition { world.enter state callback with controller.targets := targets }
        world.controller.state := by
  have hAuxiliary :
      (world.enter state callback).controller.targets.alpha.auxiliary.isNaN = false := by
    show (Catalog.auxiliaryAlpha state).isNaN = false
    cases state <;> decide
  obtain ⟨-, hNumbers, hOverlay, hTransition⟩ := transition_eq hOther accepted
  rw [hTransition]
  generalize world.enter state callback = entered at hAuxiliary hNumbers hOverlay ⊢
  have hSound := Targets.sound_of_nanError? hNumbers hAuxiliary
  exact ⟨_, Expansion.sound_apply hSound hOverlay, rfl⟩

theorem sound_transition {world : World} {state : State} {callback : Option Callback}
    (h : world.controller.targets.Sound)
    (accepted : (world.transition state callback).error = none) :
    (world.transition state callback).world.controller.targets.Sound := by
  by_cases hActive : state = world.controller.state
  · rw [transition_of_active hActive accepted]
    exact sound_of_standing h (standing_of_silent (silent_confirm world callback))
  · obtain ⟨targets, hSound, hTransition⟩ := transition_of_sound hActive accepted
    rw [hTransition]
    exact sound_completeTransition hSound _

theorem sound_run {world : World} {operation : Operation} (h : world.controller.targets.Sound)
    (accepted : (operation.run world).error = none) :
    (operation.run world).world.controller.targets.Sound := by
  cases operation with
  | transition state callback => exact sound_transition h accepted
  | panelExpansion fraction => exact sound_setPanelExpansion h accepted
  | quickSettings fraction panelBottom => exact sound_setQuickSettings h accepted
  | expansionAffectsAlpha affects =>
      cases affects with
      | true => exact sound_applyGesture h accepted
      | false => exact h
  | aodFrontAlpha alpha => exact sound_setAodFrontAlpha h
  | screenSensor active =>
      simp only [Operation.run, setScreenSensor] at accepted ⊢
      split
      · next hPulsing =>
        rw [if_pos hPulsing] at accepted
        exact sound_refreshBehind h accepted
      · exact h
  | backdrop visible =>
      simp only [Operation.run, setBackdrop] at accepted ⊢
      split
      · next hDozes =>
        rw [if_pos hDozes] at accepted
        exact sound_refreshBehind h accepted
      · exact h
  | keyguardOccluded occluded =>
      simp only [Operation.run, setKeyguardOccluded]
      apply sound_update
      exact h
  | keyguardAlpha alpha =>
      simp only [Operation.run, setKeyguardAlpha]
      split
      · exact h
      · exact sound_scheduleUpdate h
  | theme palette => exact sound_scheduleUpdate h
  | themeChanged => exact sound_scheduleUpdate h
  | keyguardVisibility showing => exact sound_scheduleUpdate h
  | screenOn =>
      simp only [Operation.run, screenTurnedOn]
      split
      · exact h
      · exact sound_reveal h
  | wallpaperTimeout => exact sound_hideWallpaper h
  | _ => exact h

theorem Step.sound {before after : World} {event : Event} (step : Step before event after)
    (h : before.controller.targets.Sound) : after.controller.targets.Sound := by
  cases step with
  | request accepted => exact sound_run h accepted
  | clock time => exact h
  | alarm due => exact sound_hideWallpaper h
  | @task task scheduler due =>
      cases task with
      | pendingFrame => exact sound_of_standing h (standing_frameCommitted _)
      | blankingTransition => exact sound_reveal h
      | scheduleWallpaperTimeout => exact h
      | cancelWallpaperTimeout => exact h
  | animationFrame requested => exact sound_of_standing h (standing_animationFrame _)
  | preDraw listening => exact sound_preDraw h

theorem sound_fresh (settings : Settings) (options : SimulationOptions) :
    (fresh settings options).controller.targets.Sound := by
  have hZero : (0 : Float32).isNaN = false := by decide
  exact ⟨hZero, hZero, hZero⟩

theorem sound_create {settings : Settings} {options : SimulationOptions}
    {simulation : Simulation} (h : Simulation.create settings options = .ok simulation) :
    simulation.world.controller.targets.Sound := by
  have hUpdated := sound_update (sound_fresh settings options)
  obtain ⟨message, screenOn, hWorld⟩ := create_eq h
  rw [hWorld]
  generalize (fresh settings options).update = updated at hUpdated ⊢
  exact hUpdated

end World

end Scrim
