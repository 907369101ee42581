import Scrim.Proofs.Driven

/-!
# What the front surface shows

While a black frame is held the front surface is to show a solid black. This module says which
events leave its look alone while a frame is held (`World.Holds`), and that an update begins a
black frame only by drawing one: `World.covered_update`.
-/

namespace Scrim

def Look.solidBlack : Look := ⟨1, Color.black⟩

namespace World

def frontLook (world : World) : Look :=
  ⟨world.host.surfaces.front.alpha, world.host.surfaces.front.tint⟩

/-- A held black frame is what the front surface shows. -/
def Covered (world : World) : Prop :=
  world.controller.blanking.isPending = true → world.frontLook = .solidBlack

/-- A black frame is held, and the front surface shows `look`. -/
def Holds (world : World) (look : Look) : Prop :=
  world.controller.blanking.isPending = true ∧ world.frontLook = look

theorem covered_of_agenda {world : World}
    (h : world.agenda.blanking.isPending = true → world.frontLook = .solidBlack) :
    world.Covered :=
  h

theorem covered_of_idle {world : World} (h : world.agenda.blanking.isPending = false) :
    world.Covered :=
  fun hPending => absurd (h.symm.trans hPending) Bool.false_ne_true

theorem Holds.covered {world : World} (h : world.Holds .solidBlack) : world.Covered :=
  fun _ => h.2

/-! ## Drawing -/

@[simp] theorem frontLook_dispatchVisibility (world : World) :
    world.dispatchVisibility.frontLook = world.frontLook := by
  unfold dispatchVisibility
  dsimp only
  split
  · rfl
  · rfl

/-- The front layer shows what it is drawn with, brought into the range of opacities. -/
theorem frontLook_draw_front (world : World) (look : Look) :
    (world.draw .front look).frontLook = ⟨Curve.constrain look.alpha 0 1, look.tint⟩ := by
  have hFront : world.hasLayer .front = true := rfl
  unfold draw
  rw [if_pos hFront]
  exact frontLook_dispatchVisibility _

theorem frontLook_blankDisplay (world : World) :
    world.blankDisplay.frontLook = .solidBlack := by
  have hOpaque : Curve.constrain 1 0 1 = 1 := by decide
  have hDrawn := frontLook_draw_front world .solidBlack
  simp only [Look.solidBlack, hOpaque] at hDrawn
  exact hDrawn

theorem frontLook_draw_of_ne (world : World) {layer : Layer} (look : Look) (h : layer ≠ .front) :
    (world.draw layer look).frontLook = world.frontLook := by
  unfold draw
  split
  · dsimp only
    rw [frontLook_dispatchVisibility]
    cases layer
    case front => exact absurd rfl h
    all_goals rfl
  · rfl

@[simp] theorem frontLook_applyPalette (world : World) (layer : Layer) :
    (world.applyPalette layer).frontLook = world.frontLook := by
  cases layer
  all_goals rfl

@[simp] theorem frontLook_refreshPalette (world : World) :
    world.refreshPalette.frontLook = world.frontLook := by
  unfold refreshPalette
  split
  · rfl
  · rfl

@[simp] theorem frontLook_hideBehind (world : World) :
    world.hideBehind.frontLook = world.frontLook := by
  unfold hideBehind
  dsimp only
  split
  · rfl
  · rfl

@[simp] theorem frontLook_scheduleUpdate (world : World) :
    world.scheduleUpdate.frontLook = world.frontLook := by
  unfold scheduleUpdate
  split
  · rfl
  · rfl

@[simp] theorem frontLook_notify (world : World) (registration : Registration)
    (kind : Notification) : (world.notify registration kind).frontLook = world.frontLook := by
  unfold notify
  split
  · rfl
  · rfl

@[simp] theorem frontLook_notifyActive (world : World) (kind : Notification) :
    (world.notifyActive kind).frontLook = world.frontLook := by
  unfold notifyActive
  split
  · rfl
  · exact frontLook_notify ..

/-! ## Updates -/

theorem Holds.updateLayer {world : World} {look : Look} (h : world.Holds look) (layer : Layer) :
    (world.updateLayer layer).Holds look := by
  cases hHas : world.hasLayer layer with
  | true =>
      rw [updateLayer_of_pending hHas h.1]
      exact h
  | false =>
      rw [updateLayer_of_absent hHas]
      exact h

theorem Holds.applyPalette {world : World} {look : Look} (h : world.Holds look) (layer : Layer) :
    (world.applyPalette layer).Holds look :=
  ⟨h.1, (frontLook_applyPalette world layer).trans h.2⟩

theorem Holds.updateLayers_behind {world : World} {look : Look} (h : world.Holds look) :
    ((((world.updateLayer .behind).updateLayer .notifications).applyPalette .auxiliary).updateLayer
      .auxiliary).Holds look :=
  (((h.updateLayer .behind).updateLayer .notifications).applyPalette .auxiliary).updateLayer
    .auxiliary

theorem Holds.settle {world : World} {look : Look} (h : world.Holds look) :
    (world.settle world.controller.callback).dispatchVisibility.Holds look := by
  rw [settle_of_pending _ h.1]
  exact ⟨(congrArg (·.blanking.isPending) (agenda_dispatchVisibility world)).trans h.1,
    (frontLook_dispatchVisibility world).trans h.2⟩

/-- Behind a held black frame an update draws nothing. -/
theorem Holds.update {world : World} {look : Look} (h : world.Holds look) :
    world.update.Holds look := by
  have hReady : world.refreshPalette.hideBehind.Holds look := by
    have hAgenda : world.refreshPalette.hideBehind.agenda = world.agenda := by simp
    exact ⟨(congrArg (·.blanking.isPending) hAgenda).trans h.1, by simp [h.2]⟩
  exact (hReady.updateLayer .front).updateLayers_behind.settle

/-- The layers of an update that blanks the display turn the front surface black. -/
theorem holds_updateLayers_of_blank {world : World}
    (hIdle : world.agenda.blanking.isPending = false) (hBlank : world.agenda.blankScreen = true) :
    world.updateLayers.Holds .solidBlack := by
  have hAgenda : world.refreshPalette.hideBehind.agenda = world.agenda := by simp
  have hFront : (world.refreshPalette.hideBehind.updateLayer .front).Holds .solidBlack := by
    rw [updateLayer_of_blank rfl ((congrArg (·.blanking.isPending) hAgenda).trans hIdle)
      ((congrArg (·.blankScreen) hAgenda).trans hBlank)]
    exact ⟨rfl, frontLook_blankDisplay _⟩
  exact hFront.updateLayers_behind

/-- An update that blanks the display turns the front surface black. -/
theorem holds_update_of_blank {world : World} (hIdle : world.agenda.blanking.isPending = false)
    (hBlank : world.agenda.blankScreen = true) : world.update.Holds .solidBlack :=
  (holds_updateLayers_of_blank hIdle hBlank).settle

theorem covered_update {world : World} (hAttached : world.agenda.Attached) (h : world.Covered) :
    world.update.Covered := by
  cases hPending : world.agenda.blanking.isPending with
  | true => exact Holds.covered (Holds.update ⟨hPending, h hPending⟩)
  | false =>
      cases hBlank : world.agenda.blankScreen with
      | true => exact (holds_update_of_blank hPending hBlank).covered
      | false =>
          exact covered_of_idle ((updated_update rfl hAttached).idle hPending hBlank)

/-- An update of a world that differs in other things than the agenda and the front surface. -/
theorem covered_update_of {world other : World} (hAgenda : other.agenda = world.agenda)
    (hLook : other.frontLook = world.frontLook) (hAttached : world.agenda.Attached)
    (h : world.Covered) : other.update.Covered := by
  refine covered_update (by rw [hAgenda]; exact hAttached) (covered_of_agenda fun hPending => ?_)
  rw [hLook]
  rw [hAgenda] at hPending
  exact h hPending

/-! ## Host events -/

theorem covered_scheduleUpdate {world : World} (h : world.Covered) :
    world.scheduleUpdate.Covered := by
  intro hPending
  rw [frontLook_scheduleUpdate]
  refine h ?_
  unfold scheduleUpdate at hPending
  split at hPending
  · exact hPending
  · exact hPending

theorem covered_preDraw {world : World} (hAttached : world.agenda.Attached) (h : world.Covered) :
    world.preDraw.Covered := by
  have ready : ∀ w : World, w.agenda.Attached → w.Covered →
      (w.notifyActive .start).update.Covered := fun w hAttached h =>
    covered_update_of (agenda_notifyActive w .start) (frontLook_notifyActive w .start) hAttached h
  exact ready _ hAttached h

theorem covered_reveal {world : World} (hAttached : world.agenda.Attached) (h : world.Covered) :
    world.reveal.Covered := by
  by_cases hPhase : world.agenda.blanking = .awaitingReveal
  · exact covered_of_idle ((updated_reveal rfl hAttached hPhase).idle rfl rfl)
  · rw [reveal_of_ne hPhase]
    exact h

theorem frontLook_frameCommitted (world : World) :
    world.frameCommitted.frontLook = world.frontLook := by
  unfold frameCommitted
  dsimp only
  split
  · rfl
  · split
    · exact frontLook_notifyActive _ .displayBlanked
    · rfl

theorem covered_runTask {world : World} (hAttached : world.agenda.Attached) (h : world.Covered)
    (task : Task) : (world.runTask task).Covered := by
  cases task with
  | pendingFrame =>
      intro hPending
      rw [runTask, frontLook_frameCommitted]
      refine h ?_
      rcases agenda_frameCommitted world with ⟨hSame, -⟩ | ⟨hPhase, -⟩
      · exact (congrArg (·.blanking.isPending) hSame).symm.trans hPending
      · exact congrArg Blanking.isPending hPhase
  | blankingTransition => exact covered_reveal hAttached h
  | scheduleWallpaperTimeout => exact h
  | cancelWallpaperTimeout => exact h

theorem get?_of_still {world : World} (h : world.agenda.moving = false) (layer : Layer) :
    world.controller.animations.get? layer = none := by
  have hLayer := congrArg (·.get layer) (Agenda.moving_eq_false_iff.mp h)
  simpa [agenda, Animations.get_carried] using hLayer

/-- Without animations a frame draws nothing on the front layer. -/
theorem frontLook_animationFrame {world : World} (h : world.agenda.moving = false) :
    world.animationFrame.frontLook = world.frontLook := by
  have hNone := get?_of_still h
  have hFrames : world.controller.animations.frames world.now = [] := by
    simp [Animations.frames, hNone]
  have hCompletions : world.controller.animations.completions world.now = [] := by
    simp [Animations.completions, hNone]
  have hShown : world.showAnimations.frontLook = world.frontLook := by
    unfold showAnimations
    dsimp only
    rw [hFrames]
    rfl
  unfold animationFrame
  dsimp only
  rw [hCompletions]
  split
  · exact hShown
  · exact hShown

theorem covered_animationFrame {world : World} {agenda : Agenda} (hAgenda : world.agenda = agenda)
    (hCovered : agenda.blanking.isPending = true → agenda.moving = false) (h : world.Covered) :
    world.animationFrame.Covered := by
  subst hAgenda
  have hFramed := framed_animationFrame rfl hCovered
  apply covered_of_agenda
  intro hPending
  have hBefore : world.agenda.blanking.isPending = true := by
    generalize world.animationFrame.agenda = after at hFramed hPending
    cases hFramed with
    | still still => exact hPending
    | moving kept moves => exact hPending
    | settled ended carried => exact hPending
  rw [frontLook_animationFrame (hCovered hBefore)]
  exact h hBefore

theorem covered_hideWallpaper {world : World} (h : world.Covered) :
    world.hideWallpaper.Covered := by
  unfold hideWallpaper
  split
  · exact covered_scheduleUpdate h
  · exact h

/-! ## Transitions -/

theorem covered_confirm {world : World} (h : world.Covered) (callback : Option Callback) :
    (world.confirm callback).Covered := by
  cases callback with
  | none => exact h
  | some callback =>
      unfold confirm
      dsimp -zeta only
      extract_lets registered
      split
      · exact h
      · exact h

/-- A transition abandons a blanking, and covers the one that it begins. -/
theorem covered_completeTransition {world : World} (hAttached : world.agenda.Attached)
    (previous : State) : (world.completeTransition previous).Covered := by
  have applied : ∀ w : World, w.agenda.Attached → w.Covered →
      (w.applyTransition previous).Covered := by
    intro w hAttached h
    unfold applyTransition
    split
    · exact covered_scheduleUpdate h
    · split
      · exact covered_preDraw hAttached h
      · exact covered_scheduleUpdate h
  unfold completeTransition
  extract_lets abandoned state controller marked awake complete
  have hAwake : awake.restartWallpaper.agenda.Attached ∧
      awake.restartWallpaper.agenda.blanking.isPending = false := by
    dsimp only [awake]
    split
    · exact ⟨hAttached, rfl⟩
    · exact ⟨hAttached, rfl⟩
  exact applied awake.restartWallpaper hAwake.1 (covered_of_idle hAwake.2)

end World

end Scrim
