import Scrim.Proofs.Agenda

/-!
# What an update does to the agenda

An update has four outcomes, listed by `Agenda.Updated`: everything stops behind a held black
frame, a blanking begins, animations run that all carry the active registration, or nothing
moves and all is settled. `updated_update` says that there are no others.
-/

namespace Scrim

namespace World

/-! ## Single layers -/

@[simp] theorem agenda_stopAnimation (world : World) (layer : Layer) :
    (world.stopAnimation layer).agenda = world.agenda.place layer none := by
  simp [stopAnimation, agenda, Agenda.place, hasLayer]

theorem agenda_startAnimation (world : World) (layer : Layer) (current : Look) :
    (world.startAnimation layer current).agenda =
      world.agenda.place layer (some world.controller.callback) := by
  simp [startAnimation, agenda, Agenda.place, Scheduler.requestFrame, hasLayer]

theorem agenda_blankDisplay (world : World) :
    world.blankDisplay.agenda =
      { world.agenda with
        blanking := .awaitingFrame
        scheduler := world.host.scheduler.postDelayed .pendingFrame Blanking.frameDelay } := by
  have hDraw := agenda_draw world .front ⟨1, Color.black⟩
  have hScheduler : (world.draw .front ⟨1, Color.black⟩).host.scheduler = world.host.scheduler :=
    congrArg Agenda.scheduler hDraw
  simp only [blankDisplay, Blanking.begin, agenda_debug, hScheduler]
  exact congrArg (fun a : Agenda => { a with
    blanking := .awaitingFrame
    scheduler := world.host.scheduler.postDelayed .pendingFrame Blanking.frameDelay }) hDraw

/-- A layer that moves to its target either gets there at once or starts an animation. -/
theorem agenda_moveToTarget (world : World) (layer : Layer) (current : Look) :
    (world.moveToTarget layer current).agenda = world.agenda ∨
      (world.moveToTarget layer current).agenda =
        world.agenda.place layer (some world.controller.callback) := by
  unfold moveToTarget
  dsimp only
  split
  · split
    · exact Or.inr (agenda_startAnimation ..)
    · exact Or.inl (agenda_draw ..)
  · exact Or.inl rfl

theorem updateLayer_of_absent {world : World} {layer : Layer}
    (h : world.hasLayer layer = false) : world.updateLayer layer = world := by
  have hNone : world.surface? layer = none := by
    simpa [hasLayer, Surfaces.has, surface?] using h
  simp only [updateLayer, hNone]

/-- An attached layer is stopped first; then a black frame is held, or begun, or the layer
moves. -/
theorem updateLayer_eq {world : World} {layer : Layer} {surface : Surface}
    (h : world.surface? layer = some surface) :
    world.updateLayer layer =
      let stopped := world.stopAnimation layer
      if world.controller.blanking.isPending then stopped
      else if world.controller.blankScreen then stopped.blankDisplay
      else
        let told := stopped.notifyBlankedOnce
        let announced :=
          if layer = .behind then told.dispatchState (told.target .behind).alpha else told
        announced.moveToTarget layer ⟨surface.alpha, surface.tint⟩ := by
  rw [updateLayer, h]
  rfl

theorem updateLayer_of_pending {world : World} {layer : Layer}
    (h : world.hasLayer layer = true) (hPending : world.controller.blanking.isPending = true) :
    world.updateLayer layer = world.stopAnimation layer := by
  obtain ⟨surface, hSurface⟩ := Option.isSome_iff_exists.mp h
  rw [updateLayer_eq hSurface]
  exact if_pos hPending

theorem updateLayer_of_blank {world : World} {layer : Layer}
    (h : world.hasLayer layer = true) (hIdle : world.controller.blanking.isPending = false)
    (hBlank : world.controller.blankScreen = true) :
    world.updateLayer layer = (world.stopAnimation layer).blankDisplay := by
  obtain ⟨surface, hSurface⟩ := Option.isSome_iff_exists.mp h
  rw [updateLayer_eq hSurface]
  simp only [hIdle, Bool.false_eq_true, if_false]
  exact if_pos hBlank

/-- Without a black frame, a layer ends up without an animation or with one for the active
registration. -/
theorem agenda_updateLayer {world : World} {layer : Layer}
    (h : world.hasLayer layer = true) (hIdle : world.controller.blanking.isPending = false)
    (hBlank : world.controller.blankScreen = false) :
    ∃ holder, (holder = none ∨ holder = some world.controller.callback) ∧
      (world.updateLayer layer).agenda = world.agenda.place layer holder := by
  obtain ⟨surface, hSurface⟩ := Option.isSome_iff_exists.mp h
  rw [updateLayer_eq hSurface]
  simp only [hIdle, hBlank, Bool.false_eq_true, if_false]
  generalize hAnnounced : (if layer = .behind then _ else _ : World) = announced
  have hAgenda : announced.agenda = world.agenda.place layer none := by
    rw [← hAnnounced]
    split <;> simp
  have hCallback : announced.controller.callback = world.controller.callback :=
    congrArg Agenda.callback hAgenda
  rcases agenda_moveToTarget announced layer ⟨surface.alpha, surface.tint⟩ with hMove | hMove
  · exact ⟨none, Or.inl rfl, hMove.trans hAgenda⟩
  · refine ⟨some world.controller.callback, Or.inr rfl, ?_⟩
    rw [hMove, hAgenda, hCallback, Agenda.place_none_place]

/-! ## All layers -/

/-- Behind a held black frame an update of a layer only stops it. -/
theorem agenda_updateLayer_of_pending {world : World} (layer : Layer)
    (hPending : world.agenda.blanking.isPending = true) (hAttached : world.agenda.Attached) :
    (world.updateLayer layer).agenda = world.agenda.place layer none := by
  cases hHas : world.hasLayer layer with
  | true => rw [updateLayer_of_pending hHas hPending, agenda_stopAnimation]
  | false =>
      rw [updateLayer_of_absent hHas]
      cases layer
      case auxiliary =>
        exact (Agenda.place_auxiliary_none (hAttached hHas)).symm
      all_goals exact absurd hHas (by simp [hasLayer, Surfaces.has, Surfaces.get?])

theorem agenda_updateLayers_behind {world : World} {agenda : Agenda}
    (hAgenda : world.agenda = agenda.place .front none)
    (hPending : agenda.blanking.isPending = true) (hAttached : agenda.Attached) :
    ((((world.updateLayer .behind).updateLayer .notifications).applyPalette .auxiliary).updateLayer
      .auxiliary).agenda = { agenda with running := .splat none } := by
  have hFront := hAttached.place_none .front
  have hBehind : (world.updateLayer .behind).agenda =
      (agenda.place .front none).place .behind none := by
    rw [agenda_updateLayer_of_pending _ (by rw [hAgenda]; exact hPending)
      (by rw [hAgenda]; exact hFront), hAgenda]
  have hNotifications : ((world.updateLayer .behind).updateLayer .notifications).agenda =
      ((agenda.place .front none).place .behind none).place .notifications none := by
    rw [agenda_updateLayer_of_pending _ (by rw [hBehind]; exact hPending)
      (by rw [hBehind]; exact hFront.place_none _), hBehind]
  rw [agenda_updateLayer_of_pending, agenda_applyPalette, hNotifications]
  · simp [Agenda.place, PerLayer.set, PerLayer.splat]
  · rw [agenda_applyPalette, hNotifications]
    exact hPending
  · rw [agenda_applyPalette, hNotifications]
    exact (hFront.place_none _).place_none _

theorem agenda_updateLayers_of_pending {world : World}
    (hPending : world.agenda.blanking.isPending = true) (hAttached : world.agenda.Attached) :
    world.updateLayers.agenda = { world.agenda with running := .splat none } := by
  have hReady : world.refreshPalette.hideBehind.agenda = world.agenda := by simp
  refine agenda_updateLayers_behind ?_ hPending hAttached
  rw [agenda_updateLayer_of_pending _ (by rw [hReady]; exact hPending)
    (by rw [hReady]; exact hAttached), hReady]

theorem agenda_updateLayers_of_blank {world : World}
    (hIdle : world.agenda.blanking.isPending = false)
    (hBlank : world.agenda.blankScreen = true) (hAttached : world.agenda.Attached) :
    world.updateLayers.agenda =
      { world.agenda with
        running := .splat none
        blanking := .awaitingFrame
        scheduler := world.host.scheduler.postDelayed .pendingFrame Blanking.frameDelay } := by
  have hReady : world.refreshPalette.hideBehind.agenda = world.agenda := by simp
  have hFront : (world.refreshPalette.hideBehind.updateLayer .front).agenda =
      Agenda.place { world.agenda with
        blanking := .awaitingFrame
        scheduler := world.host.scheduler.postDelayed .pendingFrame Blanking.frameDelay }
        .front none := by
    rw [updateLayer_of_blank rfl ((congrArg (·.blanking.isPending) hReady).trans hIdle)
      ((congrArg (·.blankScreen) hReady).trans hBlank), agenda_blankDisplay,
      agenda_stopAnimation, hReady]
    have hScheduler := congrArg Agenda.scheduler hReady
    simp only [agenda] at hScheduler
    simp [Agenda.place, stopAnimation, hScheduler, Scheduler.postDelayed]
  exact agenda_updateLayers_behind hFront rfl hAttached

/-- Without a black frame, every animation after an update carries the active registration. -/
theorem agenda_updateLayers {world : World}
    (hIdle : world.agenda.blanking.isPending = false)
    (hClear : world.agenda.blankScreen = false) (hAttached : world.agenda.Attached) :
    ∃ running : PerLayer (Option (Option Registration)),
      (∀ layer, running.get layer = none ∨ running.get layer = some world.agenda.callback) ∧
      (world.agenda.auxiliary = false → running.auxiliary = none) ∧
      world.updateLayers.agenda = world.agenda.placeAll running := by
  have hReady : world.refreshPalette.hideBehind.agenda = world.agenda := by simp
  -- one layer after the other, each from the agenda that the one before left
  have step : ∀ (layer : Layer) {w : World} {agenda : Agenda}, w.hasLayer layer = true →
      w.agenda = agenda → agenda.blanking.isPending = false → agenda.blankScreen = false →
      ∃ holder, (holder = none ∨ holder = some agenda.callback) ∧
        (w.updateLayer layer).agenda = agenda.place layer holder := by
    rintro layer w _ hHas rfl hIdle hClear
    exact agenda_updateLayer hHas hIdle hClear
  obtain ⟨front, hFront, hAgenda⟩ := step .front rfl hReady hIdle hClear
  obtain ⟨behind, hBehind, hAgenda⟩ := step .behind rfl hAgenda hIdle hClear
  obtain ⟨notifications, hNotifications, hAgenda⟩ :=
    step .notifications rfl hAgenda hIdle hClear
  rw [← agenda_applyPalette _ .auxiliary] at hAgenda
  have hHas := congrArg Agenda.auxiliary hAgenda
  cases hAuxiliary : world.agenda.auxiliary with
  | true =>
      obtain ⟨auxiliary, hHolder, hAgenda⟩ :=
        step .auxiliary (hHas.trans hAuxiliary) hAgenda hIdle hClear
      refine ⟨⟨front, behind, notifications, auxiliary⟩, ?_, nofun, ?_⟩
      · rintro (_ | _ | _ | _)
        exacts [hFront, hBehind, hNotifications, hHolder]
      · rw [updateLayers, hAgenda]
        simp [Agenda.place, Agenda.placeAll, PerLayer.set, PerLayer.get, Layer.all,
          Bool.or_assoc]
  | false =>
      refine ⟨⟨front, behind, notifications, none⟩, ?_, fun _ => rfl, ?_⟩
      · rintro (_ | _ | _ | _)
        exacts [hFront, hBehind, hNotifications, Or.inl rfl]
      · rw [updateLayers, updateLayer_of_absent (hHas.trans hAuxiliary), hAgenda]
        simp [Agenda.place, Agenda.placeAll, PerLayer.set, PerLayer.get, Layer.all,
          Bool.or_assoc, hAttached hAuxiliary]

/-! ## Settling -/

theorem isActive_iff {world : World} {registration : Registration} :
    world.isActive registration = true ↔
      world.agenda.callback.map (·.id) = some registration.id := by
  simp only [isActive, agenda]
  cases world.controller.callback with
  | none => simp
  | some active => simp

@[simp] theorem agenda_finishRegistration (world : World) (registration : Registration) :
    (world.finishRegistration registration).agenda = world.agenda.forget registration := by
  have hTold := agenda_terminate world registration .finished
  unfold finishRegistration
  dsimp only
  by_cases hActive : world.agenda.callback.map (·.id) = some registration.id
  · rw [if_pos (isActive_iff.mpr (by rw [hTold]; exact hActive)),
      Agenda.forget_of_active hActive]
    exact congrArg (fun a : Agenda => { a with callback := none }) hTold
  · rw [if_neg (mt isActive_iff.mp (by rw [hTold]; exact hActive)),
      Agenda.forget_of_inactive hActive, hTold]

theorem settle_of_pending {world : World} (registration : Option Registration)
    (h : world.agenda.blanking.isPending = true) : world.settle registration = world := by
  unfold settle
  exact if_pos h

theorem agenda_settle_of_moving {world : World} (registration : Option Registration)
    (h : world.agenda.moving = true) : (world.settle registration).agenda = world.agenda := by
  unfold settle
  rw [anyAnimating_eq_moving, if_pos h]
  split
  · rfl
  · split
    · rfl
    · split
      · rfl
      · exact agenda_terminate ..

/-- Once nothing runs the wake lock goes, and so does the registration that came to rest. -/
theorem agenda_settle_of_still {world : World} (registration : Option Registration)
    (hIdle : world.agenda.blanking.isPending = false) (hStill : world.agenda.moving = false) :
    (world.settle registration).agenda = world.agenda.release.forget registration := by
  have hPending : world.controller.blanking.isPending = false := hIdle
  unfold settle
  rw [anyAnimating_eq_moving, hPending, hStill]
  simp only [Bool.false_eq_true, if_false]
  -- the tint of an unlock is no matter of the agenda
  have tint : ∀ world : World,
      (if world.controller.state = .unlocked then world.dropUnlockTint else world).agenda
        = world.agenda := by
    intro world
    split
    · exact agenda_dropUnlockTint world
    · rfl
  rw [tint]
  cases registration with
  | none => rfl
  | some registration => exact agenda_finishRegistration ..

/-! ## The update -/

end World

inductive Agenda.Updated (agenda : Agenda) : Agenda → Prop where
  /-- Behind a held black frame everything only stops. -/
  | held (pending : agenda.blanking.isPending = true) :
      Updated agenda { agenda with running := .splat none }
  /-- The display is blanked first. -/
  | blanked (idle : agenda.blanking.isPending = false) (blank : agenda.blankScreen = true) :
      Updated agenda { agenda with
        running := .splat none
        blanking := .awaitingFrame
        scheduler := agenda.scheduler.postDelayed .pendingFrame Blanking.frameDelay }
  /-- Animations run, all of them for the active registration. -/
  | moving {running : PerLayer (Option (Option Registration))}
      (idle : agenda.blanking.isPending = false) (clear : agenda.blankScreen = false)
      (holders : ∀ layer, running.get layer = none ∨ running.get layer = some agenda.callback)
      (attached : agenda.auxiliary = false → running.auxiliary = none)
      (moves : (agenda.placeAll running).moving = true) :
      Updated agenda (agenda.placeAll running)
  /-- Nothing moves, so everything has settled. -/
  | settled (idle : agenda.blanking.isPending = false) (clear : agenda.blankScreen = false) :
      Updated agenda { agenda.release with running := .splat none, callback := none }

/-- An update holds a black frame only if one is asked for. -/
theorem Agenda.Updated.idle {agenda after : Agenda} (update : agenda.Updated after)
    (hIdle : agenda.blanking.isPending = false) (hClear : agenda.blankScreen = false) :
    after.blanking.isPending = false := by
  cases update with
  | held pending => exact absurd (hIdle.symm.trans pending) Bool.false_ne_true
  | blanked idle blank => exact absurd (hClear.symm.trans blank) Bool.false_ne_true
  | moving idle clear holders attached moves => exact idle
  | settled idle clear => exact idle

namespace World

theorem updated_update {world : World} {agenda : Agenda} (hAgenda : world.agenda = agenda)
    (hAttached : agenda.Attached) : agenda.Updated world.update.agenda := by
  subst hAgenda
  unfold update
  dsimp only
  rw [agenda_dispatchVisibility]
  cases hPending : world.agenda.blanking.isPending with
  | true =>
      have hLayers := agenda_updateLayers_of_pending hPending hAttached
      rw [settle_of_pending _ (by rw [hLayers]; exact hPending), hLayers]
      exact .held hPending
  | false =>
      cases hBlank : world.agenda.blankScreen with
      | true =>
          have hLayers := agenda_updateLayers_of_blank hPending hBlank hAttached
          rw [settle_of_pending _ (by rw [hLayers]; rfl), hLayers]
          exact .blanked hPending hBlank
      | false =>
          obtain ⟨running, hHolders, hAbsent, hLayers⟩ :=
            agenda_updateLayers hPending hBlank hAttached
          cases hMoving : (world.agenda.placeAll running).moving with
          | true =>
              rw [agenda_settle_of_moving _ (by rw [hLayers]; exact hMoving), hLayers]
              exact .moving hPending hBlank hHolders hAbsent hMoving
          | false =>
              rw [agenda_settle_of_still _ (by rw [hLayers]; exact hPending)
                (by rw [hLayers]; exact hMoving), hLayers]
              have hCallback : world.updateLayers.controller.callback = world.agenda.callback :=
                congrArg Agenda.callback hLayers
              obtain rfl : running = .splat none := Agenda.moving_eq_false_iff.mp hMoving
              have hHeld : (world.agenda.placeAll (.splat none)).release.forget
                  world.agenda.callback =
                  { world.agenda.release with running := .splat none, callback := none } := by
                refine (Agenda.forget_callback _).trans ?_
                simp [Agenda.placeAll, Agenda.release, Layer.all]
              rw [hCallback, hHeld]
              exact .settled hPending hBlank

end World

end Scrim
