import Scrim.Proofs.Standing

/-!
# Updates with their checks

A layer is drawn on its surface, and a surface that was never attached cannot be addressed. The
functions here look every surface up before they use it and fail if it is missing, as deep inside
an update as that may be; `Checked.draw` is `draw` in that way, and so on. Beside each stands the
statement that it succeeds with what the unchecked function answers.

The front, behind and notifications layers are always there, and an update asks before it
addresses the auxiliary one, so an update never fails (`Checked.update_eq`). An animation frame
does not ask: it draws every layer whose animation it samples, so no animation may run on a layer
that is not there (`Checked.animationFrame_eq`).
-/

namespace Scrim.World

def addressed (world : World) (layer : Layer) : Except Error Surface :=
  match world.surface? layer with
  | some surface => .ok surface
  | none => .error (.layerNotAttached layer)

theorem addressed_of_surface? {world : World} {layer : Layer} {surface : Surface}
    (h : world.surface? layer = some surface) : world.addressed layer = pure surface := by
  simp only [addressed, h]
  rfl

theorem addressed_of_hasLayer {world : World} {layer : Layer} (h : world.hasLayer layer = true) :
    ∃ surface, world.addressed layer = pure surface := by
  obtain ⟨surface, hSurface⟩ := Option.isSome_iff_exists.mp h
  exact ⟨surface, addressed_of_surface? hSurface⟩

theorem hasLayer_of_surface? {world : World} {layer : Layer} {surface : Surface}
    (h : world.surface? layer = some surface) : world.hasLayer layer = true :=
  congrArg Option.isSome h

namespace Checked

/-! ## Drawing -/

def dispatchState (world : World) (behindAlpha : Float32) : Except Error World := do
  let _ ← world.addressed .front
  return world.dispatchState behindAlpha

@[simp] theorem dispatchState_eq (world : World) (behindAlpha : Float32) :
    dispatchState world behindAlpha = pure (world.dispatchState behindAlpha) := rfl

def dispatchVisibility (world : World) : Except Error World := do
  let front ← world.addressed .front
  let behind ← world.addressed .behind
  match Visibility.change? world.controller.visibility front.alpha behind.alpha with
  | none => return world
  | some seen =>
    let told := { world with
      controller.visibility := some seen
      journal.visibilityChanges := seen :: world.journal.visibilityChanges }
    return told.debug s!"Scrims are now {seen.name}"

@[simp] theorem dispatchVisibility_eq (world : World) :
    dispatchVisibility world = pure world.dispatchVisibility := by
  have hFront : world.addressed .front = pure world.host.surfaces.front := rfl
  have hBehind : world.addressed .behind = pure world.host.surfaces.behind := rfl
  rw [dispatchVisibility, hFront, pure_bind, hBehind, pure_bind, World.dispatchVisibility]
  dsimp only
  cases Visibility.change? world.controller.visibility world.host.surfaces.front.alpha
    world.host.surfaces.behind.alpha with
  | none => rfl
  | some seen => rfl

def draw (world : World) (layer : Layer) (look : Look) : Except Error World := do
  let _ ← world.addressed layer
  dispatchVisibility { world with
    host.surfaces := world.host.surfaces.modify layer fun surface =>
      (surface.setTint look.tint).setAlpha (Curve.constrain look.alpha 0 1) }

theorem draw_eq {world : World} {layer : Layer} (h : world.hasLayer layer = true) (look : Look) :
    draw world layer look = pure (world.draw layer look) := by
  obtain ⟨surface, hAddressed⟩ := addressed_of_hasLayer h
  rw [draw, hAddressed, pure_bind, dispatchVisibility_eq, World.draw, if_pos h]

def drawAttached (world : World) (layer : Layer) (look : Look) : Except Error World :=
  if world.hasLayer layer then draw world layer look else return world

@[simp] theorem drawAttached_eq (world : World) (layer : Layer) (look : Look) :
    drawAttached world layer look = pure (world.draw layer look) := by
  unfold drawAttached
  split
  · next hHas => exact draw_eq hHas look
  · next hAbsent => rw [World.draw, if_neg hAbsent]

def applyPalette (world : World) (layer : Layer) : Except Error World := do
  let _ ← world.addressed layer
  return world.applyPalette layer

theorem applyPalette_eq {world : World} {layer : Layer} (h : world.hasLayer layer = true) :
    applyPalette world layer = pure (world.applyPalette layer) := by
  obtain ⟨surface, hAddressed⟩ := addressed_of_hasLayer h
  rw [applyPalette, hAddressed, pure_bind]

def startAnimation (world : World) (layer : Layer) (alpha : Float32) : Except Error World := do
  let surface ← world.addressed layer
  return world.startAnimation layer ⟨alpha, surface.tint⟩

def blankDisplay (world : World) : Except Error World := do
  let covered ← draw world .front ⟨1, Color.black⟩
  let (phase, scheduler) := Blanking.begin covered.host.scheduler
  let waiting := { covered with controller.blanking := phase, host.scheduler := scheduler }
  return waiting.debug s!"Blanking display before revealing {waiting.controller.state.name}"

@[simp] theorem blankDisplay_eq (world : World) :
    blankDisplay world = pure world.blankDisplay := by
  rw [blankDisplay, draw_eq rfl, pure_bind]
  rfl

def moveToTarget (world : World) (layer : Layer) (alpha : Float32) : Except Error World := do
  let target := world.target layer
  let surface ← world.addressed layer
  if target.alpha != alpha || surface.tint ≠ target.tint then
    if world.controller.animateChange then startAnimation world layer alpha
    else draw world layer target
  else return world

theorem moveToTarget_eq {world : World} {layer : Layer} {surface : Surface}
    (h : world.surface? layer = some surface) (alpha : Float32) :
    moveToTarget world layer alpha = pure (world.moveToTarget layer ⟨alpha, surface.tint⟩) := by
  have hAddressed := addressed_of_surface? h
  unfold moveToTarget World.moveToTarget
  dsimp only
  rw [hAddressed, pure_bind]
  split
  · split
    · rw [startAnimation, hAddressed, pure_bind]
    · exact draw_eq (hasLayer_of_surface? h) _
  · rfl

/-! ## Layers -/

def updateLayer (world : World) (layer : Layer) : Except Error World := do
  let surface ← world.addressed layer
  let stopped := world.stopAnimation layer
  if stopped.controller.blanking.isPending then return stopped
  else if stopped.controller.blankScreen then blankDisplay stopped
  else
    let told := stopped.notifyBlankedOnce
    if layer = .behind then
      let announced ← dispatchState told (told.target .behind).alpha
      moveToTarget announced layer surface.alpha
    else moveToTarget told layer surface.alpha

theorem updateLayer_eq {world : World} {layer : Layer} (h : world.hasLayer layer = true) :
    updateLayer world layer = pure (world.updateLayer layer) := by
  obtain ⟨surface, hSurface⟩ := Option.isSome_iff_exists.mp h
  have hAddressed := addressed_of_surface? hSurface
  -- telling the callback takes no surface away
  have hTold : (world.stopAnimation layer).notifyBlankedOnce.surface? layer = some surface :=
    (congrArg (·.host.surfaces.get? layer)
      (silent_notifyBlankedOnce (world.stopAnimation layer))).trans hSurface
  unfold updateLayer World.updateLayer
  rw [hAddressed, pure_bind]
  simp only [surface?, hSurface]
  split
  · rfl
  · split
    · exact blankDisplay_eq _
    · split
      · rw [dispatchState_eq, pure_bind]
        refine moveToTarget_eq ?_ surface.alpha
        exact hTold
      · exact moveToTarget_eq hTold _

def dropUnlockTint (world : World) : Except Error World :=
  let tint := world.controller.targets.tint
  let cleared := { world with controller.targets.tint := { tint with
    front := Color.transparent
    behind := Catalog.behindTint .unlocked
    auxiliary := Color.transparent } }
  [Layer.front, .behind, .auxiliary].foldlM (fun w layer => drawAttached w layer (w.target layer))
    cleared

@[simp] theorem dropUnlockTint_eq (world : World) :
    dropUnlockTint world = pure world.dropUnlockTint := by
  simp only [dropUnlockTint, drawAttached_eq]
  exact List.foldlM_pure

def settle (world : World) (registration : Option Registration) : Except Error World :=
  if world.controller.blanking.isPending then return world
  else if world.controller.animations.anyAnimating then
    match registration with
    | none => return world
    | some registration =>
      if world.isActive registration then return world
      else return world.terminate registration .finished
  else
    let released := world.releaseWakeLock
    let finished := match registration with
      | none => released
      | some registration => released.finishRegistration registration
    if finished.controller.state = .unlocked then dropUnlockTint finished else return finished

@[simp] theorem settle_eq (world : World) (registration : Option Registration) :
    settle world registration = pure (world.settle registration) := by
  unfold settle World.settle
  split
  · rfl
  · split
    · cases registration with
      | none => rfl
      | some registration =>
          dsimp only
          split
          · rfl
          · rfl
    · extract_lets released finished
      show _ = pure (if finished.controller.state = .unlocked then finished.dropUnlockTint
        else finished)
      split
      · exact dropUnlockTint_eq _
      · rfl

/-! ## The update -/

def refreshPalette (world : World) : Except Error World := do
  if world.controller.paletteStale then
    let fresh := { world with controller.paletteStale := false }
    let applied ← [Layer.front, .behind, .notifications].foldlM applyPalette fresh
    let behind ← applied.addressed .behind
    dispatchState applied behind.alpha
  else return world

@[simp] theorem refreshPalette_eq (world : World) :
    refreshPalette world = pure world.refreshPalette := by
  unfold refreshPalette World.refreshPalette
  split
  · rfl
  · rfl

def updateLayers (world : World) : Except Error World := do
  let refreshed ← refreshPalette world
  let main ← [Layer.front, .behind, .notifications].foldlM updateLayer refreshed.hideBehind
  if main.hasLayer .auxiliary then
    let dressed ← applyPalette main .auxiliary
    updateLayer dressed .auxiliary
  else return main

/-- Where the auxiliary layer is missing, the palette has nobody to go to. -/
theorem applyPalette_of_absent {world : World} (h : world.hasLayer .auxiliary = false) :
    world.applyPalette .auxiliary = world := by
  rcases world with ⟨_, ⟨_, _, ⟨_, _, _, auxiliary⟩, _⟩, _⟩
  cases auxiliary with
  | none => rfl
  | some surface => cases h

@[simp] theorem updateLayers_eq (world : World) :
    updateLayers world = pure world.updateLayers := by
  -- the main layers are there in every world
  have hMain : ∀ ready : World, [Layer.front, .behind, .notifications].foldlM updateLayer ready =
      pure (((ready.updateLayer .front).updateLayer .behind).updateLayer .notifications) := by
    intro ready
    rw [List.foldlM_cons, updateLayer_eq rfl, pure_bind, List.foldlM_cons, updateLayer_eq rfl,
      pure_bind, List.foldlM_cons, updateLayer_eq rfl, pure_bind, List.foldlM_nil]
  rw [updateLayers, refreshPalette_eq, pure_bind, hMain, pure_bind, World.updateLayers]
  generalize World.updateLayer _ .notifications = main
  cases hHas : main.hasLayer .auxiliary with
  | true =>
      have hDressed : (main.applyPalette .auxiliary).hasLayer .auxiliary = true :=
        (congrArg Agenda.auxiliary (agenda_applyPalette main .auxiliary)).trans hHas
      rw [if_pos rfl, applyPalette_eq hHas, pure_bind, updateLayer_eq hDressed]
  | false =>
      rw [if_neg Bool.false_ne_true, applyPalette_of_absent hHas, updateLayer_of_absent hHas]

def update (world : World) : Except Error World := do
  let all ← updateLayers world
  let settled ← settle all all.controller.callback
  dispatchVisibility settled

@[simp] theorem update_eq (world : World) : update world = pure world.update := by
  simp only [update, updateLayers_eq, settle_eq, dispatchVisibility_eq, pure_bind]
  rfl

def scheduleUpdate (world : World) : Except Error World := do
  if world.controller.updatePending then return world
  else
    let _ ← world.addressed .behind
    return { world with
      controller.updatePending := true
      host.surfaces := world.host.surfaces.modify .behind Surface.listen }

@[simp] theorem scheduleUpdate_eq (world : World) :
    scheduleUpdate world = pure world.scheduleUpdate := by
  unfold scheduleUpdate World.scheduleUpdate
  split
  · rfl
  · rfl

def reveal (world : World) : Except Error World :=
  match world.controller.blanking.reveal with
  | (_, false) => return world
  | (phase, true) =>
    update { world with controller.blanking := phase, controller.blankScreen := false }

@[simp] theorem reveal_eq (world : World) : reveal world = pure world.reveal := by
  unfold reveal World.reveal
  rcases world.controller.blanking.reveal with ⟨phase, revealed⟩
  cases revealed with
  | false => rfl
  | true => exact update_eq _

/-! ## Host events -/

def preDraw (world : World) : Except Error World := do
  let _ ← world.addressed .behind
  let ready := { world with
    controller.updatePending := false
    host.surfaces := world.host.surfaces.modify .behind Surface.unlisten }
  update (ready.notifyActive .start)

@[simp] theorem preDraw_eq (world : World) : preDraw world = pure world.preDraw := by
  have hBehind : world.addressed .behind = pure world.host.surfaces.behind := rfl
  rw [preDraw, hBehind, pure_bind]
  exact update_eq _

def showAnimations (world : World) : Except Error World :=
  let animations := world.controller.animations
  let stepped := { world with controller.animations := animations.advance world.now }
  (animations.frames world.now).foldlM (fun w frame => draw w frame.layer frame.look) stepped

theorem foldlM_draw_eq {frames : List Frame} {world : World}
    (h : ∀ frame ∈ frames, world.hasLayer frame.layer = true) :
    frames.foldlM (fun w frame => draw w frame.layer frame.look) world =
      pure (frames.foldl (fun w frame => w.draw frame.layer frame.look) world) := by
  induction frames generalizing world with
  | nil => rfl
  | cons frame rest ih =>
      obtain ⟨hFrame, hRest⟩ := List.forall_mem_cons.mp h
      rw [List.foldlM_cons, draw_eq hFrame, pure_bind, List.foldl_cons]
      apply ih
      intro other hOther
      rw [hasLayer_of_standing (standing_draw ..)]
      exact hRest other hOther

theorem carried_of_mem_frames {animations : Animations} {now : Nat} {frame : Frame}
    (h : frame ∈ animations.frames now) : animations.carried.get frame.layer ≠ none := by
  obtain ⟨layer, -, hLayer⟩ := List.mem_filterMap.mp h
  rw [Animations.get_carried]
  cases hGet : animations.get? layer with
  | none => simp [hGet] at hLayer
  | some animation =>
      simp only [hGet] at hLayer
      split at hLayer
      · obtain rfl := Option.some.inj hLayer
        simp [hGet]
      · cases hLayer

theorem showAnimations_eq {world : World} (h : world.agenda.Attached) :
    showAnimations world = pure world.showAnimations := by
  apply foldlM_draw_eq
  intro frame hFrame
  have hRuns := carried_of_mem_frames hFrame
  cases hLayer : frame.layer
  case auxiliary =>
    cases hHas : world.hasLayer .auxiliary with
    | true => exact hHas
    | false =>
        -- where the layer is missing nothing runs on it
        rw [hLayer] at hRuns
        exact absurd (h hHas) hRuns
  all_goals rfl

def settleAll (world : World) (completions : List Completion) : Except Error World :=
  completions.foldlM (fun w completion => do
    let settled ← settle w completion.registration
    dispatchVisibility settled) world

@[simp] theorem settleAll_eq (world : World) (completions : List Completion) :
    settleAll world completions = pure (world.settleAll completions) := by
  simp only [settleAll, settle_eq, pure_bind, dispatchVisibility_eq]
  exact List.foldlM_pure

def animationFrame (world : World) : Except Error World := do
  let shown ← showAnimations world
  let settled ← settleAll shown (world.controller.animations.completions world.now)
  if settled.controller.animations.anyAnimating then
    return { settled with host.scheduler := settled.host.scheduler.requestFrame }
  else return settled

theorem animationFrame_eq {world : World} (h : world.agenda.Attached) :
    animationFrame world = pure world.animationFrame := by
  rw [animationFrame, showAnimations_eq h, pure_bind, settleAll_eq, pure_bind,
    World.animationFrame]
  dsimp only
  split
  · rfl
  · rfl

def runTask (world : World) : Task → Except Error World
  | .pendingFrame => return world.frameCommitted
  | .blankingTransition => reveal world
  | .scheduleWallpaperTimeout => return world.armAlarm
  | .cancelWallpaperTimeout => return { world with host.alarm := world.host.alarm.cancel }

@[simp] theorem runTask_eq (world : World) (task : Task) :
    runTask world task = pure (world.runTask task) := by
  cases task with
  | blankingTransition => exact reveal_eq world
  | _ => rfl

def hideWallpaper (world : World) : Except Error World :=
  if world.controller.state.isLowPower then
    let held := world.holdWakeLock
    let controller := held.controller
    scheduleUpdate { held with controller := { controller with
      wallpaperTimedOut := true
      animateChange := true
      animationDuration := controller.catalog.doze.wallpaperFadeOutDuration } }
  else return world

@[simp] theorem hideWallpaper_eq (world : World) :
    hideWallpaper world = pure world.hideWallpaper := by
  unfold hideWallpaper World.hideWallpaper
  split
  · exact scheduleUpdate_eq _
  · rfl

end Checked

end Scrim.World
