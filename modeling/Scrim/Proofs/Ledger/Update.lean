import Scrim.Proofs.Ledger

/-!
# What an update does to the ledger

Drawing and announcing leave the *hearing* of a world alone: the ledger, and whether the active
registration knows that the display is covered. An update tells the registration in the slot of
progress, and finishes it when everything has settled: `World.follows_update`.
-/

namespace Scrim

/-- What callbacks have been told, and whether the active one knows that the display is
covered. -/
structure Hearing where
  ledger : Ledger
  blanked : Bool

def World.hearing (world : World) : Hearing :=
  ⟨world.ledger, world.controller.blankedNotified⟩

namespace World

open Ledger

/-! ## Drawing and announcing -/

@[simp] theorem hearing_debug (world : World) (message : String) :
    (world.debug message).hearing = world.hearing := rfl

@[simp] theorem hearing_dispatchVisibility (world : World) :
    world.dispatchVisibility.hearing = world.hearing := by
  unfold dispatchVisibility
  dsimp only
  split
  · rfl
  · rfl

@[simp] theorem hearing_draw (world : World) (layer : Layer) (look : Look) :
    (world.draw layer look).hearing = world.hearing := by
  unfold draw
  split
  · exact hearing_dispatchVisibility _
  · rfl

@[simp] theorem hearing_applyPalette (world : World) (layer : Layer) :
    (world.applyPalette layer).hearing = world.hearing := rfl

@[simp] theorem hearing_refreshPalette (world : World) :
    world.refreshPalette.hearing = world.hearing := by
  unfold refreshPalette
  split
  · rfl
  · rfl

@[simp] theorem hearing_hideBehind (world : World) :
    world.hideBehind.hearing = world.hearing := by
  unfold hideBehind
  dsimp only
  split
  · rfl
  · rfl

@[simp] theorem hearing_dropUnlockTint (world : World) :
    world.dropUnlockTint.hearing = world.hearing := by
  simp only [dropUnlockTint, List.foldl_cons, List.foldl_nil, hearing_draw]
  rfl

@[simp] theorem hearing_blankDisplay (world : World) :
    world.blankDisplay.hearing = world.hearing :=
  hearing_draw world .front ⟨1, Color.black⟩

@[simp] theorem hearing_moveToTarget (world : World) (layer : Layer) (current : Look) :
    (world.moveToTarget layer current).hearing = world.hearing := by
  unfold moveToTarget
  dsimp only
  split
  · split
    · rfl
    · exact hearing_draw ..
  · rfl

@[simp] theorem hearing_scheduleUpdate (world : World) :
    world.scheduleUpdate.hearing = world.hearing := by
  unfold scheduleUpdate
  split
  · rfl
  · rfl

/-! So the ledger is left alone. -/

@[simp] theorem ledger_debug (world : World) (message : String) :
    (world.debug message).ledger = world.ledger := rfl

@[simp] theorem ledger_dispatchVisibility (world : World) :
    world.dispatchVisibility.ledger = world.ledger :=
  congrArg Hearing.ledger (hearing_dispatchVisibility world)

@[simp] theorem ledger_draw (world : World) (layer : Layer) (look : Look) :
    (world.draw layer look).ledger = world.ledger :=
  congrArg Hearing.ledger (hearing_draw world layer look)

@[simp] theorem ledger_applyPalette (world : World) (layer : Layer) :
    (world.applyPalette layer).ledger = world.ledger := rfl

@[simp] theorem ledger_refreshPalette (world : World) :
    world.refreshPalette.ledger = world.ledger :=
  congrArg Hearing.ledger (hearing_refreshPalette world)

@[simp] theorem ledger_hideBehind (world : World) : world.hideBehind.ledger = world.ledger :=
  congrArg Hearing.ledger (hearing_hideBehind world)

@[simp] theorem ledger_dropUnlockTint (world : World) :
    world.dropUnlockTint.ledger = world.ledger :=
  congrArg Hearing.ledger (hearing_dropUnlockTint world)

@[simp] theorem ledger_blankDisplay (world : World) :
    world.blankDisplay.ledger = world.ledger :=
  ledger_draw world .front ⟨1, Color.black⟩

@[simp] theorem ledger_moveToTarget (world : World) (layer : Layer) (current : Look) :
    (world.moveToTarget layer current).ledger = world.ledger :=
  congrArg Hearing.ledger (hearing_moveToTarget world layer current)

@[simp] theorem ledger_scheduleUpdate (world : World) :
    world.scheduleUpdate.ledger = world.ledger :=
  congrArg Hearing.ledger (hearing_scheduleUpdate world)

/-! ## Progress -/

/-- The registration in the slot is told of progress, if there is one. -/
theorem follows_notifyActive {world : World} {ledger : Ledger} (hLedger : world.ledger = ledger)
    (kind : Notification) (progress : kind.isTerminal = false) :
    ledger.Follows (world.notifyActive kind).ledger := by
  subst hLedger
  unfold notifyActive
  split
  · exact .refl
  · next registration hSlot =>
    unfold notify
    split
    · exact .refl
    · exact .single (.progress hSlot rfl progress)

theorem follows_notifyBlankedOnce (world : World) :
    world.ledger.Follows world.notifyBlankedOnce.ledger := by
  unfold notifyBlankedOnce
  split
  · exact follows_notifyActive rfl .displayBlanked rfl
  · exact .refl

theorem follows_updateLayer {world : World} {ledger : Ledger} (hLedger : world.ledger = ledger)
    (layer : Layer) : ledger.Follows (world.updateLayer layer).ledger := by
  subst hLedger
  unfold updateLayer
  split
  · exact .refl
  · next surface _ =>
    extract_lets stopped told announced
    split
    · exact .refl
    · split
      · rw [ledger_blankDisplay]
        exact .refl
      · have hAnnounced : announced.ledger = told.ledger := by
          dsimp only [announced]
          split
          · rfl
          · rfl
        rw [ledger_moveToTarget, hAnnounced]
        exact follows_notifyBlankedOnce stopped

theorem follows_updateLayers {world : World} {ledger : Ledger} (hLedger : world.ledger = ledger) :
    ledger.Follows world.updateLayers.ledger := by
  have hReady : world.refreshPalette.hideBehind.ledger = ledger := by simp [hLedger]
  have hFront := follows_updateLayer hReady .front
  have hBehind := hFront.trans (follows_updateLayer rfl .behind)
  have hMain := hBehind.trans (follows_updateLayer rfl .notifications)
  exact hMain.trans (follows_updateLayer (ledger_applyPalette _ .auxiliary) .auxiliary)

/-! ## Settling -/

/-- A registration that has ended is not told anything. -/
theorem terminate_of_ended {world : World} {registration : Registration}
    (h : registration.id ∈ world.ledger.registry.ended) (kind : Notification) :
    world.terminate registration kind = world := by
  have hEnded : world.controller.registry.isTerminated registration = true :=
    List.contains_iff_mem.mpr h
  simp only [terminate, Registry.terminate, if_pos hEnded]

/-- A registration that is open is told, and has ended then. -/
theorem terminate_of_open {world : World} {registration : Registration}
    (h : registration.id ∉ world.ledger.registry.ended) (kind : Notification) :
    world.terminate registration kind = World.deliver { world with
      controller.registry := { world.controller.registry with
        ended := registration.id :: world.controller.registry.ended } }
      (some registration.id) registration.callback kind := by
  have hOpen : world.controller.registry.isTerminated registration = false :=
    Bool.of_not_eq_true fun hEnded => h (List.contains_iff_mem.mp hEnded)
  simp only [terminate, Registry.terminate, hOpen, Bool.false_eq_true, if_false]

/-- At rest, a registration is finished if it is open, and it is open only in the slot. -/
theorem follows_finishRegistration {world : World} {ledger : Ledger}
    (hLedger : world.ledger = ledger) (h : ledger.Accounted) {registration : Registration}
    (known : registration.id < ledger.registry.next) (rest : world.isBusy = false) :
    ledger.Follows (world.finishRegistration registration).ledger := by
  subst hLedger
  unfold finishRegistration
  by_cases hEnded : registration.id ∈ world.ledger.registry.ended
  · rw [terminate_of_ended hEnded]
    have hInactive : world.isActive registration = false := by
      apply Bool.of_not_eq_true
      intro hActive
      obtain ⟨active, hSlot, hId⟩ := Option.map_eq_some_iff.mp (isActive_iff.mp hActive)
      exact (h.slot active hSlot).2 (hId ▸ hEnded)
    simp only [hInactive]
    exact .refl
  · obtain ⟨active, hSlot, hId⟩ := Option.map_eq_some_iff.mp (h.others _ known hEnded)
    rw [terminate_of_open hEnded]
    have hActive : (World.deliver { world with
        controller.registry := { world.controller.registry with
          ended := registration.id :: world.controller.registry.ended } }
        (some registration.id) registration.callback .finished).isActive registration = true :=
      isActive_iff.mpr (Option.map_eq_some_iff.mpr ⟨active, hSlot, hId⟩)
    dsimp only
    rw [if_pos hActive]
    refine .single ?_
    rw [← hId]
    exact .finished hSlot rfl rfl rest

/-- While animations run a replaced registration would be told of its end, but it has been
already. -/
theorem follows_settle {world : World} {ledger : Ledger} (hLedger : world.ledger = ledger)
    (h : ledger.Accounted) {registration : Option Registration}
    (known : ∀ held, registration = some held → held.id < ledger.registry.next) :
    ledger.Follows (world.settle registration).ledger := by
  subst hLedger
  unfold settle
  split
  · exact .refl
  · next hIdle =>
    split
    · split
      · exact .refl
      · next held =>
        split
        · exact .refl
        · next hInactive =>
          have hEnded : held.id ∈ world.ledger.registry.ended := by
            refine Decidable.not_not.mp fun hOpen => hInactive (isActive_iff.mpr ?_)
            exact h.others held.id (known held rfl) hOpen
          rw [terminate_of_ended hEnded]
          exact .refl
    · next hStill =>
      extract_lets released finished
      have hReleased : released.ledger = world.ledger := rfl
      have hRest : released.isBusy = false :=
        Bool.or_eq_false_iff.mpr ⟨Bool.of_not_eq_true hStill, Bool.of_not_eq_true hIdle⟩
      have hFinished : world.ledger.Follows finished.ledger := by
        dsimp only [finished]
        split
        · exact .refl
        · next held => exact follows_finishRegistration hReleased h (known held rfl) hRest
      split
      · rw [ledger_dropUnlockTint]
        exact hFinished
      · exact hFinished

/-- An update tells the registration in the slot of progress, and finishes it if nothing
moves. -/
theorem follows_update {world : World} {ledger : Ledger} (hLedger : world.ledger = ledger)
    (h : ledger.Accounted) : ledger.Follows world.update.ledger := by
  have hLayers := follows_updateLayers hLedger
  have hAccounted := h.follows hLayers
  unfold update
  rw [ledger_dispatchVisibility]
  refine hLayers.trans (follows_settle rfl hAccounted fun held hSlot => ?_)
  have := (hAccounted.slot held hSlot).1
  omega

end World

end Scrim
