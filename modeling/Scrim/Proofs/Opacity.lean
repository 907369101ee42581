import Scrim.Proofs.Attempt
import Scrim.Proofs.Scene
import Scrim.Proofs.Sound

/-!
# Opacities in range

Every opacity that is written to the front, behind and auxiliary layers is to lie in `[0, 1]`. It
is brought into that range when it is written, so it lies there exactly if it was a number
(`World.wellDrawn_draw`). Requests are refused where an argument or a composed target is not a
number, but numbers do not stay among themselves: an infinite opacity makes something else of an
animation, and a refused request leaves what it was refused for among the targets.

This module says of every operation when it draws well. That of updates is the main statement
(`World.wellDrawn_update`): they draw well unless they draw targets as they are, without an
animation, and one of those is not a number.
-/

namespace Scrim

namespace World

/-- Every opacity written to a layer, newest first. -/
def written (world : World) (layer : Layer) : List Float32 :=
  match world.surface? layer with
  | some surface => surface.alphaHistory
  | none => []

/-- Every opacity written to the front, behind and auxiliary layers is in range. -/
def WellDrawn (world : World) : Prop :=
  ∀ layer, layer ≠ .notifications → ∀ opacity ∈ world.written layer, InRange opacity

instance (world : World) : Decidable world.WellDrawn :=
  decidable_of_iff (∀ layer ∈ Layer.all, layer ≠ .notifications →
    ∀ opacity ∈ world.written layer, InRange opacity)
    ⟨fun h layer => h layer layer.mem_all, fun h layer _ => h layer⟩

/-- The layer is attached, and one that states aim at. -/
def Aimed (world : World) (layer : Layer) : Prop :=
  layer ≠ .notifications ∧ world.hasLayer layer = true

/-- If states aim at the layer, its target is a number. -/
def AimsAtNumber (world : World) (layer : Layer) : Prop :=
  world.Aimed layer → (world.target layer).alpha.isNaN = false

def AimsAtNumbers (world : World) : Prop :=
  ∀ layer, world.AimsAtNumber layer

variable {world after : World}

theorem aimed_of_standing (h : after.standing = world.standing) {layer : Layer} :
    after.Aimed layer ↔ world.Aimed layer := by
  unfold Aimed
  rw [hasLayer_of_standing h]

theorem aimsAtNumber_of_standing (h : after.standing = world.standing) {layer : Layer} :
    after.AimsAtNumber layer ↔ world.AimsAtNumber layer := by
  have hAlpha : (after.target layer).alpha = (world.target layer).alpha :=
    congrArg (·.controller.targets.alpha.get layer) h
  unfold AimsAtNumber
  rw [aimed_of_standing h, hAlpha]

theorem aimed_of_scene {layer : Layer} (h : after.scene layer = world.scene layer) :
    after.Aimed layer ↔ world.Aimed layer := by
  have shown (w : World) : (w.scene layer).shown.isSome = w.hasLayer layer := Option.isSome_map
  unfold Aimed
  rw [← shown after, h, shown]

theorem aimsAtNumber_of_scene {layer : Layer} (h : after.scene layer = world.scene layer) :
    after.AimsAtNumber layer ↔ world.AimsAtNumber layer := by
  have hAlpha : (after.target layer).alpha = (world.target layer).alpha :=
    congrArg (·.target.alpha) h
  unfold AimsAtNumber
  rw [hAlpha, aimed_of_scene h]

theorem aimsAtNumber_applyPalette (world : World) (dressed layer : Layer) :
    (world.applyPalette dressed).AimsAtNumber layer ↔ world.AimsAtNumber layer := by
  have hHas : (world.applyPalette dressed).hasLayer layer = world.hasLayer layer :=
    Surfaces.has_modify ..
  unfold AimsAtNumber Aimed
  rw [hHas]
  exact Iff.rfl

theorem aimsAtNumbers_of_standing (h : after.standing = world.standing) :
    after.AimsAtNumbers ↔ world.AimsAtNumbers :=
  forall_congr' fun _ => aimsAtNumber_of_standing h

theorem aimsAtNumbers_of_sound (h : world.controller.targets.Sound) : world.AimsAtNumbers :=
  fun _ hAimed => h.get hAimed.1

/-! ## Drawing -/

theorem wellDrawn_congr
    (h : ∀ layer, layer ≠ .notifications → after.written layer = world.written layer) :
    after.WellDrawn ↔ world.WellDrawn := by
  unfold WellDrawn
  constructor
  · intro hDrawn layer hLayer
    rw [← h layer hLayer]
    exact hDrawn layer hLayer
  · intro hDrawn layer hLayer
    rw [h layer hLayer]
    exact hDrawn layer hLayer

theorem written_of_silent (h : after.silent = world.silent) (layer : Layer) :
    after.written layer = world.written layer := by
  show after.silent.written layer = world.silent.written layer
  rw [h]

theorem wellDrawn_of_silent (h : after.silent = world.silent) :
    after.WellDrawn ↔ world.WellDrawn :=
  wellDrawn_congr fun layer _ => written_of_silent h layer

theorem wellDrawn_modify (world : World) (layer : Layer) {change : Surface → Surface}
    (h : ∀ surface, (change surface).alphaHistory = surface.alphaHistory) :
    WellDrawn { world with host.surfaces := world.host.surfaces.modify layer change } ↔
      world.WellDrawn := by
  apply wellDrawn_congr
  intro other _
  unfold written surface?
  by_cases hOther : other = layer
  · subst hOther
    rw [Surfaces.get?_modify_self]
    cases world.host.surfaces.get? other with
    | none => rfl
    | some surface => exact h surface
  · rw [Surfaces.get?_modify_of_ne _ _ hOther]

theorem written_draw_self (world : World) {layer : Layer} (look : Look)
    (h : world.hasLayer layer = true) : (world.draw layer look).written layer =
      Curve.constrain look.alpha 0 1 :: world.written layer := by
  obtain ⟨surface, hSurface⟩ := Option.isSome_iff_exists.mp h
  unfold draw
  rw [if_pos h]
  dsimp only
  rw [written_of_silent (silent_dispatchVisibility _)]
  simp [written, surface?, hSurface, Surface.setAlpha, Surface.setTint]

theorem written_draw_of_ne (world : World) {layer other : Layer} (look : Look)
    (h : other ≠ layer) : (world.draw layer look).written other = world.written other := by
  unfold draw
  split
  · dsimp only
    rw [written_of_silent (silent_dispatchVisibility _)]
    simp [written, surface?, Surfaces.get?_modify_of_ne _ _ h]
  · rfl

/-- A layer is drawn well with a number, and with nothing else. -/
theorem wellDrawn_draw (world : World) (layer : Layer) (look : Look) :
    (world.draw layer look).WellDrawn ↔
      world.WellDrawn ∧ (world.Aimed layer → look.alpha.isNaN = false) := by
  by_cases hAimed : world.Aimed layer
  · have hSelf := written_draw_self world look hAimed.2
    constructor
    · intro hDrawn
      have hLayer := hDrawn layer hAimed.1
      rw [hSelf, List.forall_mem_cons] at hLayer
      refine ⟨fun other hOther => ?_, fun _ => Curve.inRange_constrain_iff.mp hLayer.1⟩
      by_cases h : other = layer
      · rw [h]
        exact hLayer.2
      · rw [← written_draw_of_ne world look h]
        exact hDrawn other hOther
    · rintro ⟨hDrawn, hNumber⟩ other hOther
      by_cases h : other = layer
      · rw [h, hSelf, List.forall_mem_cons]
        exact ⟨Curve.inRange_constrain_iff.mpr (hNumber hAimed), hDrawn layer hAimed.1⟩
      · rw [written_draw_of_ne world look h]
        exact hDrawn other hOther
  · -- nothing is written, or to the notifications layer
    have hSame : (world.draw layer look).WellDrawn ↔ world.WellDrawn := by
      apply wellDrawn_congr
      intro other hOther
      by_cases h : other = layer
      · have hAbsent : ¬world.hasLayer layer = true := fun hHas => hAimed ⟨h ▸ hOther, hHas⟩
        unfold draw
        rw [if_neg hAbsent]
      · exact written_draw_of_ne world look h
    rw [hSame]
    exact ⟨fun hDrawn => ⟨hDrawn, fun h => absurd h hAimed⟩, And.left⟩

/-! ## Updates of one layer -/

theorem wellDrawn_moveToTarget (world : World) (layer : Layer) (current : Look) :
    (world.moveToTarget layer current).WellDrawn ↔ world.WellDrawn ∧
      (world.controller.animateChange = false → world.AimsAtNumber layer) := by
  unfold moveToTarget
  dsimp only
  split
  · split
    · next hAnimates =>
      show world.WellDrawn ↔ _
      exact ⟨fun h => ⟨h, fun hAbrupt => absurd (hAbrupt.symm.trans hAnimates) nofun⟩, And.left⟩
    · next hAbrupt =>
      rw [wellDrawn_draw]
      exact and_congr_right fun _ => ⟨fun h _ => h, fun h => h (Bool.of_not_eq_true hAbrupt)⟩
  · next hThere =>
    -- what equals the present opacity is a number
    rw [Bool.or_eq_true, not_or] at hThere
    have hEqual : ((world.target layer).alpha == current.alpha) = true := by
      simpa [bne] using hThere.1
    exact ⟨fun h => ⟨h, fun _ _ => number_of_beq hEqual⟩, And.left⟩

theorem wellDrawn_updateLayer (h : world.Clear) (layer : Layer) :
    (world.updateLayer layer).WellDrawn ↔ world.WellDrawn ∧
      (world.controller.animateChange = false → world.AimsAtNumber layer) := by
  cases hSurface : world.surface? layer with
  | none =>
      have hAbsent : ¬world.Aimed layer := by
        rintro ⟨-, hHas⟩
        obtain ⟨surface, hSome⟩ := Option.isSome_iff_exists.mp hHas
        exact absurd (hSome.symm.trans hSurface) nofun
      rw [updateLayer, hSurface]
      exact ⟨fun h => ⟨h, fun _ hAimed => absurd hAimed hAbsent⟩, And.left⟩
  | some surface =>
      obtain ⟨ready, hReady, hUpdate⟩ := updateLayer_of_clear h hSurface
      have hAnimates : ready.controller.animateChange = world.controller.animateChange := by
        show ready.silent.controller.animateChange = _
        rw [hReady]
        rfl
      have hAimed : ready.AimsAtNumber layer ↔ world.AimsAtNumber layer :=
        aimsAtNumber_of_standing (standing_of_silent hReady)
      rw [hUpdate, wellDrawn_moveToTarget, wellDrawn_of_silent hReady, hAnimates, hAimed]
      exact Iff.rfl

/-- Behind a held black frame nothing is drawn. -/
theorem wellDrawn_updateLayer_of_pending (h : world.controller.blanking.isPending = true)
    (layer : Layer) : ((world.updateLayer layer).WellDrawn ↔ world.WellDrawn) ∧
      (world.updateLayer layer).controller.blanking.isPending = true := by
  cases hHas : world.hasLayer layer with
  | true =>
      rw [updateLayer_of_pending hHas h]
      exact ⟨Iff.rfl, h⟩
  | false =>
      rw [updateLayer_of_absent hHas]
      exact ⟨Iff.rfl, h⟩

theorem wellDrawn_blankDisplay (world : World) :
    world.blankDisplay.WellDrawn ↔ world.WellDrawn := by
  have hOpaque : (1 : Float32).isNaN = false := by decide
  have hDrawn := wellDrawn_draw world .front ⟨1, Color.black⟩
  show (world.draw .front ⟨1, Color.black⟩).WellDrawn ↔ _
  rw [hDrawn]
  exact ⟨And.left, fun h => ⟨h, fun _ => hOpaque⟩⟩

/-! ## Updates of all layers -/

theorem wellDrawn_applyPalette (world : World) (layer : Layer) :
    (world.applyPalette layer).WellDrawn ↔ world.WellDrawn :=
  wellDrawn_modify world layer fun _ => rfl

theorem wellDrawn_ready (world : World) :
    world.refreshPalette.hideBehind.WellDrawn ↔ world.WellDrawn := by
  have hRefreshed : world.refreshPalette.WellDrawn ↔ world.WellDrawn := by
    unfold refreshPalette
    split
    · dsimp only
      rw [wellDrawn_of_silent (silent_dispatchState ..)]
      simp only [wellDrawn_applyPalette]
      exact Iff.rfl
    · exact Iff.rfl
  refine Iff.trans ?_ hRefreshed
  unfold hideBehind
  dsimp only
  split
  · exact Iff.rfl
  · exact Iff.rfl

/-- An update draws the layers at their targets, unless changes are animated. -/
theorem wellDrawn_updateLayers (h : world.Clear) : world.updateLayers.WellDrawn ↔
    world.WellDrawn ∧
      (world.controller.animateChange = false → world.updateLayers.AimsAtNumbers) := by
  have hReady : world.refreshPalette.hideBehind.Clear := clear_of_agenda h (by simp)
  have hAnimates := animateChange_ready world
  rw [← wellDrawn_ready world]
  unfold updateLayers
  dsimp only
  generalize world.refreshPalette.hideBehind = ready at hReady hAnimates
  have hFront := hReady.updateLayer .front
  have hBehind := hFront.updateLayer .behind
  have hNotifications := hBehind.updateLayer .notifications
  have hDressed := clear_of_agenda hNotifications (agenda_applyPalette _ .auxiliary)
  have aims (w : World) (updated layer : Layer) :
      (w.updateLayer updated).AimsAtNumber layer ↔ w.AimsAtNumber layer :=
    aimsAtNumber_of_standing (standing_updateLayer w updated)
  have animates (w : World) (updated : Layer) :
      (w.updateLayer updated).controller.animateChange = w.controller.animateChange :=
    congrArg (·.controller.animateChange) (standing_updateLayer w updated)
  have bare (w : World) : (w.applyPalette .auxiliary).controller.animateChange =
      w.controller.animateChange := rfl
  unfold AimsAtNumbers
  rw [wellDrawn_updateLayer hDressed, wellDrawn_applyPalette, wellDrawn_updateLayer hBehind,
    wellDrawn_updateLayer hFront, wellDrawn_updateLayer hReady]
  simp only [aims, animates, aimsAtNumber_applyPalette, bare, hAnimates]
  constructor
  · rintro ⟨⟨⟨⟨hDrawn, front⟩, behind⟩, notifications⟩, auxiliary⟩
    refine ⟨hDrawn, fun hAbrupt layer => ?_⟩
    cases layer with
    | front => exact front hAbrupt
    | behind => exact behind hAbrupt
    | notifications => exact notifications hAbrupt
    | auxiliary => exact auxiliary hAbrupt
  · rintro ⟨hDrawn, hNumbers⟩
    exact ⟨⟨⟨⟨hDrawn, (hNumbers · .front)⟩, (hNumbers · .behind)⟩, (hNumbers · .notifications)⟩,
      (hNumbers · .auxiliary)⟩

/-- Where changes are animated, a layer that comes to rest at once had a number for a target. -/
theorem aimsAtNumber_of_still (h : world.Clear) (hAnimates : world.controller.animateChange = true)
    {layer : Layer} (hStill : ((world.updateLayer layer).scene layer).running = none) :
    world.AimsAtNumber layer := by
  intro hAimed
  obtain ⟨surface, hSurface⟩ := Option.isSome_iff_exists.mp hAimed.2
  obtain ⟨ready, hReady, hUpdate⟩ := updateLayer_of_clear h hSurface
  have hReadyAnimates : ready.controller.animateChange = true := by
    show ready.silent.controller.animateChange = true
    rw [hReady]
    exact hAnimates
  have hTarget : ready.target layer = world.target layer := by
    show ready.silent.target layer = _
    rw [hReady]
    rfl
  by_contra hNaN
  -- it differs from whatever is shown
  have hMoves : ((ready.target layer).alpha != surface.alpha) = true := by
    rw [bne, Bool.not_eq_true', Bool.eq_false_iff, hTarget]
    exact fun hEqual => hNaN (number_of_beq hEqual)
  have hStarted : world.updateLayer layer =
      ready.startAnimation layer ⟨surface.alpha, surface.tint⟩ := by
    rw [hUpdate]
    unfold moveToTarget
    simp only [hMoves, Bool.true_or, if_true, hReadyAnimates]
  rw [hStarted] at hStill
  simp [scene, startAnimation] at hStill

theorem aimsAtNumbers_of_still (h : world.Clear) (hAnimates : world.controller.animateChange = true)
    (hStill : world.updateLayers.agenda.moving = false) : world.updateLayers.AimsAtNumbers := by
  intro layer
  obtain ⟨ready, hReady, hReadyAnimates, -, hLayers⟩ := scene_updateLayers h layer
  have hNone : ((ready.updateLayer layer).scene layer).running = none := by
    rw [← hLayers]
    exact get?_of_still hStill layer
  rw [aimsAtNumber_of_scene hLayers, aimsAtNumber_of_standing (standing_updateLayer ready layer)]
  exact aimsAtNumber_of_still hReady (hReadyAnimates.trans hAnimates) hNone

/-! ## Settling -/

theorem wellDrawn_drawTarget (world : World) (layer : Layer) :
    (world.draw layer (world.target layer)).WellDrawn ↔
      world.WellDrawn ∧ world.AimsAtNumber layer :=
  wellDrawn_draw world layer (world.target layer)

theorem wellDrawn_dropUnlockTint (world : World) :
    world.dropUnlockTint.WellDrawn ↔ world.WellDrawn ∧ world.AimsAtNumbers := by
  have aims (w : World) (layer other : Layer) (look : Look) :
      (w.draw layer look).AimsAtNumber other ↔ w.AimsAtNumber other :=
    aimsAtNumber_of_standing (standing_draw w layer look)
  simp only [dropUnlockTint, List.foldl_cons, List.foldl_nil, wellDrawn_drawTarget, aims]
  constructor
  · rintro ⟨⟨⟨hDrawn, front⟩, behind⟩, auxiliary⟩
    refine ⟨hDrawn, fun layer => ?_⟩
    cases layer with
    | front => exact front
    | behind => exact behind
    | notifications => exact fun hAimed => absurd rfl hAimed.1
    | auxiliary => exact auxiliary
  · rintro ⟨hDrawn, hNumbers⟩
    exact ⟨⟨⟨hDrawn, hNumbers .front⟩, hNumbers .behind⟩, hNumbers .auxiliary⟩

theorem wellDrawn_settle_of_moving (registration : Option Registration)
    (h : world.agenda.moving = true) :
    (world.settle registration).WellDrawn ↔ world.WellDrawn := by
  unfold settle
  rw [anyAnimating_eq_moving, if_pos h]
  split
  · exact Iff.rfl
  · split
    · exact Iff.rfl
    · split
      · exact Iff.rfl
      · exact wellDrawn_of_silent (silent_terminate ..)

/-- Once nothing runs, settling draws the targets of an unlock. -/
theorem wellDrawn_settle_of_still (registration : Option Registration)
    (hIdle : world.agenda.blanking.isPending = false) (hStill : world.agenda.moving = false) :
    (world.settle registration).WellDrawn ↔
      world.WellDrawn ∧ (world.controller.state = .unlocked → world.AimsAtNumbers) := by
  have hPending : world.controller.blanking.isPending = false := hIdle
  unfold settle
  rw [anyAnimating_eq_moving, hPending, hStill, if_neg Bool.false_ne_true,
    if_neg Bool.false_ne_true]
  extract_lets released finished
  have hSilent : finished.silent = world.silent := by
    dsimp only [finished]
    split
    · rfl
    · exact silent_finishRegistration ..
  have hState : finished.controller.state = world.controller.state :=
    congrArg (·.controller.state) hSilent
  rw [hState]
  split
  · next hUnlocked =>
    rw [wellDrawn_dropUnlockTint, wellDrawn_of_silent hSilent,
      aimsAtNumbers_of_standing (standing_of_silent hSilent)]
    exact and_congr_right fun _ => ⟨fun h _ => h, fun h => h hUnlocked⟩
  · next hLocked =>
    rw [wellDrawn_of_silent hSilent]
    exact ⟨fun h => ⟨h, fun hUnlocked => absurd hUnlocked hLocked⟩, And.left⟩

/-! ## Updates -/

/-- The targets have just been drawn as they are, and one of them is not a number. -/
structure Misdrawn (world : World) : Prop where
  idle : world.controller.blanking = .idle
  abrupt : world.controller.animateChange = false
  nan : ¬world.AimsAtNumbers

theorem animateChange_update (world : World) :
    world.update.controller.animateChange = world.controller.animateChange := by
  obtain ⟨stale, alpha, surfaces, hPrepared⟩ := prepare_eq world.standing
  have hStanding := (standing_update world).trans hPrepared
  generalize world.update = updated at hStanding ⊢
  exact congrArg (·.controller.animateChange) hStanding

/-- What an update does behind a held black frame, once the front layer has had its turn. -/
theorem wellDrawn_updateLayers_behind (h : world.controller.blanking.isPending = true) :
    ((((world.updateLayer .behind).updateLayer .notifications).applyPalette .auxiliary).updateLayer
      .auxiliary).WellDrawn ↔ world.WellDrawn := by
  obtain ⟨hBehind, hPending⟩ := wellDrawn_updateLayer_of_pending h .behind
  obtain ⟨hNotifications, hPending⟩ := wellDrawn_updateLayer_of_pending hPending .notifications
  rw [(wellDrawn_updateLayer_of_pending _ .auxiliary).1, wellDrawn_applyPalette, hNotifications,
    hBehind]
  exact hPending

/-- An update that holds a black frame, or begins one, draws nothing else. -/
theorem wellDrawn_update_of_covered (hAttached : world.agenda.Attached)
    (h : world.agenda.blanking.isPending = true ∨ world.agenda.blankScreen = true) :
    world.update.WellDrawn ↔ world.WellDrawn := by
  have hReady : world.refreshPalette.hideBehind.agenda = world.agenda := by simp
  have hDrawn := wellDrawn_ready world
  have hLayers : world.updateLayers.WellDrawn ↔ world.WellDrawn := by
    unfold updateLayers
    generalize world.refreshPalette.hideBehind = ready at hReady hDrawn
    cases hPending : world.agenda.blanking.isPending with
    | true =>
        have hFront := @wellDrawn_updateLayer_of_pending ready
          ((congrArg (·.blanking.isPending) hReady).trans hPending) .front
        rw [wellDrawn_updateLayers_behind hFront.2, hFront.1, hDrawn]
    | false =>
        have hBlank := h.resolve_left (by simp [hPending])
        have hFront := @updateLayer_of_blank ready .front rfl
          ((congrArg (·.blanking.isPending) hReady).trans hPending)
          ((congrArg (·.blankScreen) hReady).trans hBlank)
        rw [wellDrawn_updateLayers_behind (by rw [hFront]; rfl), hFront, wellDrawn_blankDisplay]
        exact hDrawn
  have hHeld : world.updateLayers.agenda.blanking.isPending = true := by
    cases hPending : world.agenda.blanking.isPending with
    | true =>
        rw [agenda_updateLayers_of_pending hPending hAttached]
        exact hPending
    | false =>
        rw [agenda_updateLayers_of_blank hPending (h.resolve_left (by simp [hPending])) hAttached]
        rfl
  unfold update
  dsimp only
  rw [wellDrawn_of_silent (silent_dispatchVisibility _), settle_of_pending _ hHeld]
  exact hLayers

theorem wellDrawn_update_of_clear (hAttached : world.agenda.Attached) (h : world.Clear) :
    world.update.WellDrawn ↔ world.WellDrawn ∧
      (world.controller.animateChange = false → world.update.AimsAtNumbers) := by
  have hAims : world.update.AimsAtNumbers ↔ world.updateLayers.AimsAtNumbers :=
    aimsAtNumbers_of_standing ((standing_update world).trans (standing_updateLayers world).symm)
  have hLayers := wellDrawn_updateLayers h
  have hIdle : world.updateLayers.agenda.blanking.isPending = false := by
    obtain ⟨running, -, -, hAgenda⟩ := agenda_updateLayers h.idle h.unblanked hAttached
    exact (congrArg (·.blanking.isPending) hAgenda).trans h.idle
  rw [hAims]
  unfold update
  dsimp only
  rw [wellDrawn_of_silent (silent_dispatchVisibility _)]
  cases hMoving : world.updateLayers.agenda.moving with
  | true => rw [wellDrawn_settle_of_moving _ hMoving, hLayers]
  | false =>
      rw [wellDrawn_settle_of_still _ hIdle hMoving, hLayers]
      constructor
      · exact And.left
      · rintro ⟨hDrawn, hNumbers⟩
        refine ⟨⟨hDrawn, hNumbers⟩, fun _ => ?_⟩
        cases hAnimates : world.controller.animateChange with
        | true => exact aimsAtNumbers_of_still h hAnimates hMoving
        | false => exact hNumbers hAnimates

/-- An update draws well unless it draws targets as they are and one of them is not a number. -/
theorem wellDrawn_update (hAttached : world.agenda.Attached) :
    world.update.WellDrawn ↔ world.WellDrawn ∧ ¬world.update.Misdrawn := by
  have hUpdated := updated_update rfl hAttached
  by_cases hClear : world.Clear
  · have hIdle : world.update.controller.blanking = .idle := by
      have hPhase : world.update.agenda.blanking = .idle := by
        simpa [Blanking.isPending] using hUpdated.idle hClear.idle hClear.unblanked
      exact hPhase
    rw [wellDrawn_update_of_clear hAttached hClear, ← animateChange_update]
    refine and_congr_right fun _ => ⟨?_, ?_⟩
    · intro hNumbers hMisdrawn
      exact hMisdrawn.nan (hNumbers hMisdrawn.abrupt)
    · intro hWell hAbrupt
      by_contra hNaN
      exact hWell ⟨hIdle, hAbrupt, hNaN⟩
  · -- what is drawn is a black frame at most
    have hCovered : world.agenda.blanking.isPending = true ∨ world.agenda.blankScreen = true := by
      by_contra hNone
      rw [not_or, Bool.not_eq_true, Bool.not_eq_true] at hNone
      exact hClear ⟨hNone.1, hNone.2⟩
    rw [wellDrawn_update_of_covered hAttached hCovered]
    refine ⟨fun hDrawn => ⟨hDrawn, fun hMisdrawn => ?_⟩, And.left⟩
    exact hClear (clear_of_updated hUpdated hMisdrawn.idle)

theorem wellDrawn_preDraw (hAttached : world.agenda.Attached) :
    world.preDraw.WellDrawn ↔ world.WellDrawn ∧ ¬world.preDraw.Misdrawn := by
  have hUnlistened (w : World) :
      WellDrawn { w with
        controller.updatePending := false
        host.surfaces := w.host.surfaces.modify .behind Surface.unlisten } ↔ w.WellDrawn :=
    wellDrawn_modify w .behind fun _ => rfl
  unfold preDraw
  dsimp only
  rw [wellDrawn_update, wellDrawn_of_silent (silent_notifyActive ..), hUnlistened]
  rw [agenda_notifyActive]
  exact hAttached

theorem wellDrawn_reveal (hAttached : world.agenda.Attached) :
    world.reveal.WellDrawn ↔ world.WellDrawn ∧
      (world.controller.blanking = .awaitingReveal → ¬world.reveal.Misdrawn) := by
  by_cases hPhase : world.controller.blanking = .awaitingReveal
  · have hUpdate := @wellDrawn_update { world with
        controller.blanking := .idle, controller.blankScreen := false } hAttached
    have hReveal : world.reveal = World.update { world with
        controller.blanking := .idle, controller.blankScreen := false } := by
      simp only [reveal, Blanking.reveal, hPhase, if_true]
    rw [hReveal]
    exact hUpdate.trans (and_congr_right fun _ => ⟨fun h _ => h, fun h => h hPhase⟩)
  · rw [reveal_of_ne hPhase]
    exact ⟨fun h => ⟨h, fun hReveals => absurd hReveals hPhase⟩, And.left⟩

theorem wellDrawn_scheduleUpdate (world : World) :
    world.scheduleUpdate.WellDrawn ↔ world.WellDrawn := by
  unfold scheduleUpdate
  split
  · exact Iff.rfl
  · exact wellDrawn_modify world .behind fun _ => rfl

theorem wellDrawn_hideWallpaper (world : World) :
    world.hideWallpaper.WellDrawn ↔ world.WellDrawn := by
  unfold hideWallpaper
  split
  · exact wellDrawn_scheduleUpdate _
  · exact Iff.rfl

/-! ## Frames -/

/-- If states aim at the layer, what its begun animation shows is a number. -/
def ShowsNumber (world : World) (layer : Layer) : Prop :=
  world.Aimed layer → ∀ animation, world.controller.animations.get? layer = some animation →
    animation.hasBegun world.now = true → (animation.look world.now).alpha.isNaN = false

theorem wellDrawn_showLayer (world : World) (animations : Animations) (now : Nat)
    (layer : Layer) : (world.showLayer animations now layer).WellDrawn ↔
      world.WellDrawn ∧ (world.Aimed layer → ∀ animation, animations.get? layer = some animation →
        animation.hasBegun now = true → (animation.look now).alpha.isNaN = false) := by
  unfold showLayer
  split
  · next animation hRuns =>
    split
    · next hBegun =>
      rw [wellDrawn_draw, hRuns]
      refine and_congr_right fun _ => ⟨?_, fun h hAimed => h hAimed animation rfl hBegun⟩
      rintro hNumber hAimed _ ⟨⟩ _
      exact hNumber hAimed
    · next hWaits =>
      rw [hRuns]
      refine ⟨fun h => ⟨h, ?_⟩, And.left⟩
      rintro _ _ ⟨⟩ hBegun
      exact absurd hBegun hWaits
  · next hNone =>
    rw [hNone]
    exact ⟨fun h => ⟨h, fun _ _ => nofun⟩, And.left⟩

theorem standing_showLayer (world : World) (animations : Animations) (now : Nat)
    (layer : Layer) : (world.showLayer animations now layer).standing = world.standing := by
  unfold showLayer
  split
  · split
    · exact standing_draw ..
    · rfl
  · rfl

theorem wellDrawn_showAnimations (world : World) : world.showAnimations.WellDrawn ↔
    world.WellDrawn ∧ ∀ layer, world.ShowsNumber layer := by
  have shown : ∀ (layers : List Layer) (w : World), w.standing = world.standing →
      ((layers.foldl (fun w layer =>
        w.showLayer world.controller.animations world.now layer) w).WellDrawn ↔
        w.WellDrawn ∧ ∀ layer ∈ layers, world.ShowsNumber layer) := by
    intro layers
    induction layers with
    | nil => simp
    | cons head rest ih =>
        intro w hStanding
        rw [List.foldl_cons, ih _ ((standing_showLayer ..).trans hStanding), wellDrawn_showLayer,
          aimed_of_standing hStanding, List.forall_mem_cons, and_assoc]
        exact Iff.rfl
  rw [showAnimations_eq]
  refine (shown Layer.all { world with
    controller.animations := world.controller.animations.advance world.now } rfl).trans ?_
  exact and_congr Iff.rfl ⟨fun h layer => h layer layer.mem_all, fun h layer _ => h layer⟩

theorem wellDrawn_settleAll_of_moving {completions : List Completion}
    (h : world.agenda.moving = true) :
    (world.settleAll completions).WellDrawn ↔ world.WellDrawn := by
  induction completions generalizing world with
  | nil => exact Iff.rfl
  | cons completion rest ih =>
      have hFirst := agenda_settleOne_of_moving completion.registration h
      rw [settleAll, List.foldl_cons, ← settleAll, ih (by rw [hFirst]; exact h),
        wellDrawn_of_silent (silent_dispatchVisibility _), wellDrawn_settle_of_moving _ h]

theorem wellDrawn_settleAll_of_still {completions : List Completion} (hEnded : completions ≠ [])
    (hIdle : world.agenda.blanking.isPending = false) (hStill : world.agenda.moving = false) :
    (world.settleAll completions).WellDrawn ↔
      world.WellDrawn ∧ (world.controller.state = .unlocked → world.AimsAtNumbers) := by
  induction completions generalizing world with
  | nil => exact absurd rfl hEnded
  | cons completion rest ih =>
      have hAgenda := agenda_settleOne_of_still completion.registration hIdle hStill
      have hStanding := (standing_of_silent (silent_dispatchVisibility _)).trans
        (standing_settle world completion.registration)
      have hState : ((world.settle completion.registration).dispatchVisibility).controller.state =
          world.controller.state := congrArg (·.controller.state) hStanding
      have hFirst := wellDrawn_settle_of_still completion.registration hIdle hStill
      rw [← wellDrawn_of_silent (silent_dispatchVisibility _)] at hFirst
      rw [settleAll, List.foldl_cons, ← settleAll]
      cases rest with
      | nil => exact hFirst
      | cons next rest =>
          -- every completion draws the same targets, so the others add nothing to the first
          have hRest := ih (List.cons_ne_nil _ _) (by rw [hAgenda]; exact hIdle)
            (by rw [hAgenda]; exact hStill)
          rw [hRest, hFirst, aimsAtNumbers_of_standing hStanding, hState]
          exact ⟨And.left, fun h => ⟨h, h.2⟩⟩

/-- A frame draws well what the begun animations show, and the targets of an unlock with the last
frame of all. -/
theorem wellDrawn_animationFrame
    (hCovered : world.agenda.blanking.isPending = true → world.agenda.moving = false) :
    world.animationFrame.WellDrawn ↔ (world.WellDrawn ∧ ∀ layer, world.ShowsNumber layer) ∧
      (world.comesToRest = true → world.controller.state = .unlocked → world.AimsAtNumbers) := by
  have hFrame : world.animationFrame.WellDrawn ↔ (world.showAnimations.settleAll
      (world.controller.animations.completions world.now)).WellDrawn := by
    unfold animationFrame
    dsimp only
    split
    · exact Iff.rfl
    · exact Iff.rfl
  have hShown := agenda_showAnimations world
  have hMoving := moving_showAnimations world
  have hStanding := standing_showAnimations world
  have hState : world.showAnimations.controller.state = world.controller.state :=
    congrArg (·.controller.state) hStanding
  rw [hFrame, ← wellDrawn_showAnimations, comesToRest, ← hMoving]
  cases hRuns : world.showAnimations.agenda.moving with
  | true =>
      rw [wellDrawn_settleAll_of_moving hRuns, Bool.not_true, Bool.and_false]
      exact (and_iff_left fun h => absurd h Bool.false_ne_true).symm
  | false =>
      cases hCompletions : world.controller.animations.completions world.now with
      | nil => exact (and_iff_left fun h => absurd h Bool.false_ne_true).symm
      | cons completion rest =>
          -- something ran, so no black frame is held
          have hRan := moving_of_mem_completions (by rw [hCompletions]; exact List.mem_cons_self)
          have hIdle : world.showAnimations.agenda.blanking.isPending = false := by
            rw [hShown]
            exact Bool.of_not_eq_true fun h =>
              absurd ((hCovered h).symm.trans hRan) Bool.false_ne_true
          rw [wellDrawn_settleAll_of_still (List.cons_ne_nil _ _) hIdle hRuns, hState,
            aimsAtNumbers_of_standing hStanding]
          exact and_congr_right fun _ => ⟨fun h _ => h, fun h => h rfl⟩

/-! ## Gestures -/

end World

/-- What a layer is drawn with when a gesture has moved it. -/
def Scene.live (scene : Scene) (now : Nat) : Look :=
  match scene.running with
  | some animation => animation.look now
  | none => scene.target

theorem Scene.live_follow (scene : Scene) (now : Nat) : (scene.follow now).live now =
    match scene.running with
    | none => scene.target
    | some animation => (animation.retarget scene.target).look now := by
  obtain ⟨shown, running, target⟩ := scene
  cases running with
  | none => rfl
  | some animation => rfl

namespace World

variable {world after : World}

/-- If states aim at the layer, a gesture that is followed draws it with a number. -/
def FollowsNumber (world : World) (layer : Layer) : Prop :=
  world.Aimed layer →
    (((world.scene layer).follow world.now).live world.now).alpha.isNaN = false

theorem followsNumber_of_scene {layer : Layer} (h : after.scene layer = world.scene layer)
    (hNow : after.now = world.now) : after.FollowsNumber layer ↔ world.FollowsNumber layer := by
  unfold FollowsNumber
  rw [aimed_of_scene h, h, hNow]

theorem wellDrawn_followTarget (world : World) (layer : Layer) :
    (world.followTarget layer).WellDrawn ↔ world.WellDrawn ∧ world.FollowsNumber layer := by
  have hRunning : (world.scene layer).running = world.controller.animations.get? layer := rfl
  cases hHas : world.hasLayer layer with
  | false =>
      unfold followTarget FollowsNumber Aimed
      simp [hHas]
  | true =>
      unfold followTarget Animations.retarget FollowsNumber
      rw [if_pos hHas, Scene.live_follow, hRunning]
      cases world.controller.animations.get? layer with
      | none => exact wellDrawn_drawTarget world layer
      | some animation => exact wellDrawn_draw ..

theorem wellDrawn_followTargets {layers : List Layer} (hNodup : layers.Nodup) :
    (layers.foldl followTarget world).WellDrawn ↔
      world.WellDrawn ∧ ∀ layer ∈ layers, world.FollowsNumber layer := by
  induction layers generalizing world with
  | nil => simp
  | cons head rest ih =>
      obtain ⟨hHead, hRest⟩ := List.nodup_cons.mp hNodup
      have hNow : (world.followTarget head).now = world.now :=
        congrArg (·.scheduler.now) (agenda_followTarget world head)
      have hOthers : (∀ layer ∈ rest, (world.followTarget head).FollowsNumber layer) ↔
          ∀ layer ∈ rest, world.FollowsNumber layer := by
        refine forall₂_congr fun layer hLayer => followsNumber_of_scene ?_ hNow
        exact scene_followTarget_of_ne world (ne_of_mem_of_not_mem hLayer hHead)
      rw [List.foldl_cons, ih hRest, hOthers, wellDrawn_followTarget, List.forall_mem_cons,
        and_assoc]

/-- A gesture has just been followed, and some layer was drawn with something else than a
number. -/
def Misfollowed (world : World) : Prop :=
  ∃ layer, world.Aimed layer ∧ ((world.scene layer).live world.now).alpha.isNaN = true

theorem misfollowed_followGesture (world : World) :
    world.followGesture.Misfollowed ↔ ¬∀ layer, world.FollowsNumber layer := by
  rw [not_forall]
  refine exists_congr fun layer => ?_
  have hAimed : world.followGesture.Aimed layer ↔ world.Aimed layer := by
    unfold Aimed
    rw [hasLayer_followGesture]
  unfold FollowsNumber
  rw [hAimed, now_followGesture, Classical.not_imp, Bool.not_eq_false]
  refine and_congr_right fun h => ?_
  rw [scene_followGesture h.2]

/-- A gesture that is followed draws every layer with what it moves to. -/
theorem wellDrawn_followGesture (world : World) :
    world.followGesture.WellDrawn ↔ world.WellDrawn ∧ ¬world.followGesture.Misfollowed := by
  have restored (w : World) : w.restoreWallpaper.WellDrawn ↔ w.WellDrawn := by
    unfold restoreWallpaper
    split
    · exact Iff.rfl
    · exact Iff.rfl
  have hAll : (∀ layer ∈ [Layer.behind, .notifications, .front, .auxiliary],
      world.FollowsNumber layer) ↔ ∀ layer, world.FollowsNumber layer := by
    refine forall_congr' fun layer => ?_
    cases layer <;> simp
  rw [misfollowed_followGesture, not_not, ← hAll]
  unfold followGesture
  dsimp only
  rw [restored, wellDrawn_of_silent (silent_dispatchState ..)]
  exact wellDrawn_followTargets (by decide)

end World

end Scrim
