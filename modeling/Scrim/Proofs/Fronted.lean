import Scrim.Proofs.Attempt

/-!
# The target of the front layer

A request can be refused for an opacity that is not a number, and may leave that opacity among the
targets. It is then the behind layer's: the front layer is aimed at an opacity of the settings, at
the one set for the always-on display, or at a constant, and the first two are checked before they
are taken over. So the target of the front layer stays a number whatever is refused and whatever
the host delivers (`World.Attempt.fronted`, `World.Fronted.delivered`).

A backdrop and the screen sensor therefore never come too late: the target that they give to the
layer behind a dozing display is a number, and the other one that is looked at is too
(`World.error_refreshBehind`).
-/

namespace Scrim.World

/-- The front layer is aimed at a number, and so it is in every state that it may enter. -/
structure Fronted (world : World) : Prop where
  settings : world.controller.catalog.defaultAlpha.isNaN = false
  doze : world.controller.catalog.overrides.aodFrontAlpha.isNaN = false
  target : world.controller.targets.alpha.front.isNaN = false

namespace Fronted

variable {world after : World}

/-- What a state asks of the front layer is a number. -/
theorem frontAlpha (h : world.Fronted) (state : State) :
    (world.controller.catalog.frontAlpha state).isNaN = false := by
  have hNone : (0 : Float32).isNaN = false := by decide
  have hSolid : (1 : Float32).isNaN = false := by decide
  unfold Catalog.frontAlpha
  split
  · exact h.settings
  · split
    · exact h.doze
    · exact hSolid
  · exact h.doze
  · exact hNone

/-- What drawing leaves standing is all that counts. -/
theorem standing (h : world.Fronted) : world.standing.Fronted :=
  { h with }

theorem of_standing (hStanding : after.standing = world) (h : world.Fronted) : after.Fronted where
  settings := (congrArg (·.controller.catalog.defaultAlpha.isNaN) hStanding).trans h.settings
  doze := (congrArg (·.controller.catalog.overrides.aodFrontAlpha.isNaN) hStanding).trans h.doze
  target := (congrArg (·.controller.targets.alpha.front.isNaN) hStanding).trans h.target

theorem of_silent (hSilent : after.silent = world.silent) (h : world.Fronted) : after.Fronted :=
  of_standing (standing_of_silent hSilent) h.standing

/-! ## Updates and frames -/

/-- What an update does before it draws leaves the front layer's target alone. -/
theorem prepare (h : world.Fronted) : world.prepare.Fronted := by
  have hRefreshed : world.refresh.Fronted := by
    unfold refresh
    split
    · exact { h with }
    · exact h
  have hHidden : world.refresh.hideBehind.Fronted := by
    unfold hideBehind
    dsimp only
    split
    · exact { hRefreshed with }
    · exact hRefreshed
  exact { hHidden with }

theorem update (h : world.Fronted) : world.update.Fronted :=
  of_standing (standing_update world) h.standing.prepare

theorem preDraw (h : world.Fronted) : world.preDraw.Fronted :=
  of_standing (standing_preDraw world) (prepare { h with })

theorem reveal (h : world.Fronted) : world.reveal.Fronted := by
  refine of_standing (standing_reveal world) ?_
  split
  · exact h.standing.prepare
  · exact h.standing

theorem scheduleUpdate (h : world.Fronted) : world.scheduleUpdate.Fronted :=
  of_standing (standing_scheduleUpdate world) { h with }

theorem hideWallpaper (h : world.Fronted) : world.hideWallpaper.Fronted := by
  unfold World.hideWallpaper
  split
  · exact scheduleUpdate { h with }
  · exact h

theorem animationFrame (h : world.Fronted) : world.animationFrame.Fronted :=
  of_standing (standing_animationFrame world) h.standing

theorem runTask (h : world.Fronted) (task : Task) : (world.runTask task).Fronted := by
  cases task with
  | pendingFrame => exact of_standing (standing_frameCommitted world) h.standing
  | blankingTransition => exact h.reveal
  | scheduleWallpaperTimeout => exact { h with }
  | cancelWallpaperTimeout => exact { h with }

theorem delivered (h : world.Fronted) (event : HostEvent) : (event.run world).Fronted := by
  cases event with
  | preDraw => exact h.preDraw
  | animationFrame => exact h.animationFrame
  | task due => exact h.runTask due

/-! ## Gestures -/

/-- A gesture aims the front layer at what its state asks for, if at anything. -/
theorem overlayGesture (h : world.Fronted) : world.overlayGesture.world.Fronted := by
  have hNone : (0 : Float32).isNaN = false := by decide
  refine ⟨h.settings, h.doze, ?_⟩
  unfold World.overlayGesture Expansion.apply Expansion.overlay
  dsimp only
  split
  · split
    · exact hNone
    · split
      · exact h.frontAlpha _
      · exact h.target
  · exact h.target

theorem followGesture (h : world.Fronted) : world.followGesture.Fronted := by
  have hMoved : ([Layer.behind, .notifications, .front, .auxiliary].foldl followTarget
      world).standing = world.standing := by
    simp only [List.foldl_cons, List.foldl_nil, standing_followTarget]
  have restored : ∀ w : World, w.Fronted → w.restoreWallpaper.Fronted := by
    intro w h
    unfold restoreWallpaper
    split
    · exact { h with }
    · exact h
  exact restored _ { of_standing hMoved h.standing with }

theorem applyGesture (h : world.Fronted) : world.applyGesture.world.Fronted := by
  have hOverlaid := h.overlayGesture
  unfold World.applyGesture
  generalize world.overlayGesture = outcome at hOverlaid ⊢
  rcases outcome with ⟨overlaid, _ | error⟩
  · dsimp only
    split
    · exact hOverlaid
    · exact hOverlaid.followGesture
  · exact hOverlaid

theorem setPanelExpansion (h : world.Fronted) (fraction : Float32) :
    (world.setPanelExpansion fraction).world.Fronted := by
  unfold World.setPanelExpansion
  rcases world.controller.expansion.setPanel fraction with error | ⟨expansion, _ | _⟩
  · exact h
  · exact h
  · dsimp only
    split
    · exact applyGesture { h with }
    · exact { h with }

theorem followNotifications (h : world.Fronted) (fraction : Float32) (panelBottom : Int) :
    (world.followNotifications fraction panelBottom).Fronted := by
  unfold World.followNotifications
  dsimp only
  split
  · exact { h with }
  · exact h

theorem setQuickSettings (h : world.Fronted) (fraction : Float32) (panelBottom : Int) :
    (world.setQuickSettings fraction panelBottom).world.Fronted := by
  have hFollowed := h.followNotifications fraction panelBottom
  unfold World.setQuickSettings
  generalize world.followNotifications fraction panelBottom = followed at hFollowed ⊢
  split
  · exact h
  · dsimp only
    rcases followed.controller.expansion.setQuickSettings fraction with ⟨expansion, _ | _⟩
    · exact hFollowed
    · dsimp only
      split
      · exact applyGesture { hFollowed with }
      · exact { hFollowed with }

/-! ## Transitions -/

theorem enter (h : world.Fronted) (state : State) (callback : Option Callback) :
    (world.enter state callback).Fronted := by
  have hReplaced : (replaceCallback { world.debug s!"State changed to: {state.name}" with
      controller.state := state } callback).Fronted :=
    of_silent (silent_replaceCallback _ callback) { h with }
  exact ⟨hReplaced.settings, hReplaced.doze, h.frontAlpha state⟩

theorem completeTransition (h : world.Fronted) (previous : State) :
    (world.completeTransition previous).Fronted := by
  have applied : ∀ w : World, w.Fronted → (w.applyTransition previous).Fronted := by
    intro w h
    unfold applyTransition
    split
    · exact scheduleUpdate { h with }
    · split
      · exact h.preDraw
      · exact h.scheduleUpdate
  unfold World.completeTransition
  extract_lets abandoned state controller marked awake complete
  have hAwake : awake.Fronted := by
    dsimp only [awake]
    split
    · exact { h with }
    · exact { h with }
  exact { applied awake.restartWallpaper { hAwake with } with }

theorem transition (h : world.Fronted) (state : State) (callback : Option Callback) :
    (world.transition state callback).world.Fronted := by
  have hEntered := h.enter state callback
  unfold World.transition
  split
  · exact h
  · split
    · exact of_silent (silent_confirm world callback) h
    · dsimp only
      generalize world.enter state callback = entered at hEntered ⊢
      have hOverlaid := hEntered.overlayGesture
      generalize entered.overlayGesture = outcome at hOverlaid ⊢
      split
      · exact hEntered
      · rcases outcome with ⟨overlaid, _ | error⟩
        · exact hOverlaid.completeTransition _
        · exact hOverlaid

/-! ## Requests -/

theorem setAodFrontAlpha (h : world.Fronted) (alpha : Float32) :
    (world.setAodFrontAlpha alpha).world.Fronted := by
  unfold World.setAodFrontAlpha
  split
  · exact h
  · next hNumber =>
    dsimp only
    split
    · dsimp only
      exact update ⟨h.settings, Bool.of_not_eq_true hNumber, Bool.of_not_eq_true hNumber⟩
    · exact ⟨h.settings, Bool.of_not_eq_true hNumber, h.target⟩

theorem refreshBehind (h : world.Fronted) : world.refreshBehind.world.Fronted := by
  unfold World.refreshBehind
  dsimp only
  split
  · exact h
  · split
    · exact { h with }
    · dsimp only
      exact update { h with }

/-- Whether it is accepted or refused, no request takes over an opacity for the front layer that
is not a number. -/
theorem run (h : world.Fronted) (operation : Operation) :
    (operation.run world).world.Fronted := by
  cases operation with
  | transition state callback => exact h.transition state callback
  | panelExpansion fraction => exact h.setPanelExpansion fraction
  | quickSettings fraction panelBottom => exact h.setQuickSettings fraction panelBottom
  | expansionAffectsAlpha affects =>
      cases affects with
      | true => exact applyGesture { h with }
      | false => exact { h with }
  | aodFrontAlpha alpha => exact h.setAodFrontAlpha alpha
  | screenSensor active =>
      simp only [Operation.run, setScreenSensor]
      split
      · exact refreshBehind { h with }
      · exact { h with }
  | backdrop visible =>
      simp only [Operation.run, setBackdrop]
      split
      · exact refreshBehind { h with }
      · exact { h with }
  | keyguardOccluded occluded =>
      rw [Operation.run, setKeyguardOccluded]
      exact update { h with }
  | keyguardAlpha alpha =>
      simp only [Operation.run, setKeyguardAlpha]
      split
      · exact h
      · exact scheduleUpdate { h with }
  | theme palette => exact scheduleUpdate { h with }
  | themeChanged => exact scheduleUpdate { h with }
  | keyguardVisibility showing => exact scheduleUpdate { h with }
  | screenOn =>
      simp only [Operation.run, screenTurnedOn]
      split
      · exact { h with }
      · exact reveal { h with }
  | wallpaperTimeout => exact h.hideWallpaper
  | _ => exact { h with }

end Fronted

/-- No attempt takes over an opacity for the front layer that is not a number. -/
theorem Attempt.fronted {before after : World} {event : Event}
    (attempt : Attempt before event after) (h : before.Fronted) : after.Fronted := by
  cases attempt with
  | refused refused => exact h.run _
  | step step =>
      cases step with
      | request accepted => exact h.run _
      | clock time => exact { h with }
      | alarm due => exact Fronted.hideWallpaper { h with }
      | task due =>
          refine Fronted.runTask ?_ _
          exact { h with }
      | animationFrame requested => exact Fronted.animationFrame { h with }
      | preDraw listening => exact h.preDraw

theorem fronted_create {settings : Settings} {options : SimulationOptions}
    {simulation : Simulation} (h : Simulation.create settings options = .ok simulation) :
    simulation.world.Fronted := by
  have hNone : (0 : Float32).isNaN = false := by decide
  have hSettings : settings.defaultAlpha.isNaN = false := by
    cases hNaN : settings.defaultAlpha.isNaN with
    | false => rfl
    | true =>
        unfold Simulation.create attach at h
        simp only [hNaN, Bool.true_or, if_true] at h
        cases h
  have hFresh : (fresh settings options).Fronted := ⟨hSettings, hNone, hNone⟩
  have hUpdated := hFresh.update
  obtain ⟨message, screenOn, hWorld⟩ := create_eq h
  rw [hWorld]
  generalize (fresh settings options).update = updated at hUpdated ⊢
  exact { hUpdated with }

/-! ## The layer behind a dozing display -/

/-- What the catalog asks of the layer behind a dozing display is taken over without complaint. -/
theorem error_refreshBehind {world : World} (h : world.Fronted)
    (dozes : world.controller.state.isLowPower = true) : world.refreshBehind.error = none := by
  have hBehind : (world.controller.catalog.behindAlpha world.controller.state).isNaN = false :=
    number_behindAlpha dozes
  unfold refreshBehind Targets.nanError?
  dsimp only
  rw [h.target, hBehind]
  split
  · rfl
  · rfl

end Scrim.World
