import Scrim.Proofs.Cover
import Scrim.Proofs.LastFrame
import Scrim.Proofs.Standing

/-!
# What one layer shows

The *scene* of a layer is what its surface shows, the animation that it runs, and its target.
Here is what updates, settling, frames and gestures make of the scene of every layer. The frame
is the main statement (`World.scene_animationFrame`): every layer shows its own animation, except
that the last frame of an unlock also drops the black that it faded from.
-/

namespace Scrim

/-- What a layer shows, runs and aims at. -/
structure Scene where
  /-- What its surface shows, if it is attached. -/
  shown : Option Look
  running : Option Animation
  target : Look

namespace Scene

def draw (scene : Scene) (look : Look) : Scene :=
  { scene with shown := scene.shown.map fun _ => ⟨Curve.constrain look.alpha 0 1, look.tint⟩ }

/-- What the layer shows at `now` on its own: its animation once that has begun, and what it
showed before otherwise. -/
def ownLook (scene : Scene) (now : Nat) : Option Look :=
  scene.shown.map fun look =>
    match scene.running with
    | some animation => if animation.hasBegun now then animation.look now else look
    | none => look

def step (scene : Scene) (now : Nat) : Scene :=
  { scene with
    shown := scene.ownLook now
    running := Animations.keep? now scene.running }

def follow (scene : Scene) (now : Nat) : Scene :=
  match scene.running with
  | none => scene.draw scene.target
  | some animation =>
    let moved := animation.retarget scene.target
    { scene with running := some moved }.draw (moved.look now)

/-- Takes over the tint of an unlocked display, if there is one for the layer, and draws it. -/
def unlock (scene : Scene) : Option Color → Scene
  | none => scene
  | some tint =>
    let target : Look := { scene.target with tint }
    { scene with target }.draw target

theorem step_of_still {scene : Scene} (h : scene.running = none) (now : Nat) :
    scene.step now = scene := by
  rcases scene with ⟨shown, _, target⟩
  obtain rfl : _ = none := h
  cases shown with
  | none => rfl
  | some look => rfl

@[simp] theorem unlock_unlock (scene : Scene) (tint : Option Color) :
    (scene.unlock tint).unlock tint = scene.unlock tint := by
  cases tint with
  | none => rfl
  | some tint =>
      simp only [unlock, draw, Option.map_map]
      rfl

end Scene

/-- The tint that the layer has once the display is unlocked; the notifications layer has none of
its own. -/
def Layer.unlockTint? : Layer → Option Color
  | .front | .auxiliary => some Color.transparent
  | .behind => some (Catalog.behindTint .unlocked)
  | .notifications => none

theorem Layer.unlockTint?_eq_some {layer : Layer} (h : layer ≠ .notifications) :
    ∃ tint, layer.unlockTint? = some tint := by
  cases layer with
  | notifications => exact absurd rfl h
  | _ => exact ⟨_, rfl⟩

namespace World

def scene (world : World) (layer : Layer) : Scene where
  shown := (world.surface? layer).map fun surface => ⟨surface.alpha, surface.tint⟩
  running := world.controller.animations.get? layer
  target := world.target layer

theorem scene_of_silent {world after : World} (h : after.silent = world.silent) (layer : Layer) :
    after.scene layer = world.scene layer := by
  show after.silent.scene layer = world.silent.scene layer
  rw [h]

theorem moving_of_scenes {world after : World}
    (h : ∀ layer, after.scene layer = world.scene layer) :
    after.agenda.moving = world.agenda.moving := by
  have hRunning (layer : Layer) : after.controller.animations.isAnimating layer =
      world.controller.animations.isAnimating layer :=
    congrArg (·.running.isSome) (h layer)
  rw [← anyAnimating_eq_moving, ← anyAnimating_eq_moving]
  unfold Animations.anyAnimating
  rw [funext hRunning]

theorem scene_modify (world : World) (layer other : Layer) {change : Surface → Surface}
    (hAlpha : ∀ surface, (change surface).alpha = surface.alpha)
    (hTint : ∀ surface, (change surface).tint = surface.tint) :
    scene { world with host.surfaces := world.host.surfaces.modify layer change } other =
      world.scene other := by
  have hSurface : ((world.host.surfaces.modify layer change).get? other).map
      (fun surface => (⟨surface.alpha, surface.tint⟩ : Look)) =
      (world.host.surfaces.get? other).map fun surface => ⟨surface.alpha, surface.tint⟩ := by
    by_cases h : other = layer
    · subst h
      rw [Surfaces.get?_modify_self, Option.map_map]
      simp only [Function.comp_def, hAlpha, hTint]
    · rw [Surfaces.get?_modify_of_ne _ _ h]
  exact congrArg (fun shown => { world.scene other with shown := shown }) hSurface

/-! ## Drawing -/

theorem scene_draw_self (world : World) (layer : Layer) (look : Look) :
    (world.draw layer look).scene layer = (world.scene layer).draw look := by
  unfold draw
  split
  · dsimp only
    rw [scene_of_silent (silent_dispatchVisibility _)]
    have hSurface : ((world.host.surfaces.modify layer fun surface =>
        (surface.setTint look.tint).setAlpha (Curve.constrain look.alpha 0 1)).get? layer).map
        (fun surface => (⟨surface.alpha, surface.tint⟩ : Look)) =
        ((world.host.surfaces.get? layer).map fun surface =>
          (⟨surface.alpha, surface.tint⟩ : Look)).map
            fun _ => ⟨Curve.constrain look.alpha 0 1, look.tint⟩ := by
      rw [Surfaces.get?_modify_self, Option.map_map, Option.map_map]
      rfl
    exact congrArg (fun shown => { world.scene layer with shown := shown }) hSurface
  · next hAbsent =>
    have hNone : world.host.surfaces.get? layer = none := by
      simpa [hasLayer, Surfaces.has] using hAbsent
    simp only [scene, Scene.draw, surface?, hNone, Option.map_none]

theorem scene_draw_of_ne (world : World) {layer other : Layer} (look : Look)
    (h : other ≠ layer) : (world.draw layer look).scene other = world.scene other := by
  unfold draw
  split
  · dsimp only
    rw [scene_of_silent (silent_dispatchVisibility _)]
    have hSurface := Surfaces.get?_modify_of_ne world.host.surfaces
      (fun surface => (surface.setTint look.tint).setAlpha (Curve.constrain look.alpha 0 1)) h
    exact congrArg (fun found : Option Surface => { world.scene other with
      shown := found.map fun surface : Surface => ⟨surface.alpha, surface.tint⟩ }) hSurface
  · rfl

theorem scene_applyPalette (world : World) (layer other : Layer) :
    (world.applyPalette layer).scene other = world.scene other :=
  scene_modify world layer other (fun _ => rfl) fun _ => rfl

theorem scene_stopAnimation_self (world : World) (layer : Layer) :
    (world.stopAnimation layer).scene layer = { world.scene layer with running := none } := by
  simp [scene, stopAnimation, target, surface?]

theorem scene_stopAnimation_of_ne (world : World) {layer other : Layer} (h : other ≠ layer) :
    (world.stopAnimation layer).scene other = world.scene other := by
  simp [scene, stopAnimation, target, surface?, Animations.get?, Animations.cancel,
    PerLayer.get_set_of_ne _ _ h]

theorem scene_moveToTarget_of_ne (world : World) {layer other : Layer} (current : Look)
    (h : other ≠ layer) :
    (world.moveToTarget layer current).scene other = world.scene other := by
  unfold moveToTarget
  dsimp only
  split
  · split
    · simp [scene, startAnimation, target, surface?, Animations.get?, Animations.start,
        PerLayer.get_set_of_ne _ _ h]
    · exact scene_draw_of_ne world _ h
  · rfl

/-! ## Updates -/

/-- No black frame is held, and none is asked for. -/
structure Clear (world : World) : Prop where
  idle : world.controller.blanking.isPending = false
  unblanked : world.controller.blankScreen = false

theorem clear_of_agenda {world after : World} (h : world.Clear)
    (hAgenda : after.agenda = world.agenda) : after.Clear :=
  ⟨(congrArg (·.blanking.isPending) hAgenda).trans h.idle,
    (congrArg (·.blankScreen) hAgenda).trans h.unblanked⟩

/-- Only a clear world has none after an update. -/
theorem clear_of_updated {world : World} {after : Agenda} (update : world.agenda.Updated after)
    (hIdle : after.blanking = .idle) : world.Clear := by
  cases update with
  | held pending =>
      rw [show world.agenda.blanking = .idle from hIdle] at pending
      cases pending
  | blanked idle blank => cases hIdle
  | moving idle clear holders attached moves => exact ⟨idle, clear⟩
  | settled idle clear => exact ⟨idle, clear⟩

theorem Clear.updateLayer {world : World} (h : world.Clear) (layer : Layer) :
    (world.updateLayer layer).Clear := by
  cases hHas : world.hasLayer layer with
  | true =>
      obtain ⟨holder, -, hAgenda⟩ := agenda_updateLayer hHas h.idle h.unblanked
      exact ⟨(congrArg (·.blanking.isPending) hAgenda).trans h.idle,
        (congrArg (·.blankScreen) hAgenda).trans h.unblanked⟩
  | false =>
      rw [updateLayer_of_absent hHas]
      exact h

/-- Unless a black frame comes in between, an update of a layer moves it from its present look to
its target. -/
theorem updateLayer_of_clear {world : World} (h : world.Clear) {layer : Layer} {surface : Surface}
    (hSurface : world.surface? layer = some surface) :
    ∃ ready : World, ready.silent = (world.stopAnimation layer).silent ∧
      world.updateLayer layer = ready.moveToTarget layer ⟨surface.alpha, surface.tint⟩ := by
  rw [updateLayer_eq hSurface]
  simp only [h.idle, h.unblanked, Bool.false_eq_true, if_false]
  refine ⟨_, ?_, rfl⟩
  split
  · exact silent_notifyBlankedOnce (world.stopAnimation layer)
  · exact silent_notifyBlankedOnce (world.stopAnimation layer)

theorem scene_updateLayer_of_ne {world : World} (h : world.Clear) {layer other : Layer}
    (hOther : other ≠ layer) : (world.updateLayer layer).scene other = world.scene other := by
  cases hSurface : world.surface? layer with
  | none => rw [updateLayer, hSurface]
  | some surface =>
      obtain ⟨ready, hReady, hUpdate⟩ := updateLayer_of_clear h hSurface
      rw [hUpdate, scene_moveToTarget_of_ne _ _ hOther, scene_of_silent hReady,
        scene_stopAnimation_of_ne _ hOther]

theorem animateChange_ready (world : World) :
    world.refreshPalette.hideBehind.controller.animateChange = world.controller.animateChange := by
  unfold hideBehind refreshPalette
  split
  · dsimp only
    split
    · rfl
    · rfl
  · dsimp only
    split
    · rfl
    · rfl

/-- Until its turn comes an update leaves a layer alone, and so it does afterwards. -/
theorem scene_updateLayers {world : World} (h : world.Clear) (layer : Layer) :
    ∃ ready : World, ready.Clear ∧
      ready.controller.animateChange = world.controller.animateChange ∧
      ready.scene layer = world.refreshPalette.hideBehind.scene layer ∧
      world.updateLayers.scene layer = (ready.updateLayer layer).scene layer := by
  have hReady : world.refreshPalette.hideBehind.Clear := clear_of_agenda h (by simp)
  have hAnimates := animateChange_ready world
  unfold updateLayers
  dsimp only
  generalize world.refreshPalette.hideBehind = ready at hReady hAnimates
  have hFront := hReady.updateLayer .front
  have hBehind := hFront.updateLayer .behind
  have hNotifications := hBehind.updateLayer .notifications
  have hDressed := clear_of_agenda hNotifications (agenda_applyPalette _ .auxiliary)
  have other (w : World) (hClear : w.Clear) (updated : Layer) (h : layer ≠ updated) :
      (w.updateLayer updated).scene layer = w.scene layer := scene_updateLayer_of_ne hClear h
  have animates (w : World) (updated : Layer) :
      (w.updateLayer updated).controller.animateChange = w.controller.animateChange :=
    congrArg (·.controller.animateChange) (standing_updateLayer w updated)
  cases layer with
  | front =>
      refine ⟨ready, hReady, hAnimates, rfl, ?_⟩
      rw [other _ hDressed .auxiliary nofun, scene_applyPalette,
        other _ hBehind .notifications nofun, other _ hFront .behind nofun]
  | behind =>
      refine ⟨ready.updateLayer .front, hFront, (animates ..).trans hAnimates,
        other _ hReady .front nofun, ?_⟩
      rw [other _ hDressed .auxiliary nofun, scene_applyPalette,
        other _ hBehind .notifications nofun]
  | notifications =>
      refine ⟨(ready.updateLayer .front).updateLayer .behind, hBehind, ?_, ?_, ?_⟩
      · rw [animates, animates, hAnimates]
      · rw [other _ hFront .behind nofun, other _ hReady .front nofun]
      · rw [other _ hDressed .auxiliary nofun, scene_applyPalette]
  | auxiliary =>
      refine ⟨_, hDressed, ?_, ?_, rfl⟩
      · exact (animates ..).trans ((animates ..).trans ((animates ..).trans hAnimates))
      · rw [scene_applyPalette, other _ hBehind .notifications nofun,
          other _ hFront .behind nofun, other _ hReady .front nofun]

/-! ## Settling -/

theorem scene_settle_of_moving {world : World} (registration : Option Registration)
    (h : world.agenda.moving = true) (layer : Layer) :
    (world.settle registration).scene layer = world.scene layer := by
  unfold settle
  rw [anyAnimating_eq_moving, if_pos h]
  split
  · rfl
  · split
    · rfl
    · split
      · rfl
      · exact scene_of_silent (silent_terminate ..) layer

theorem scene_drawTarget (world : World) (layer : Layer) :
    (world.draw layer (world.target layer)).scene layer =
      (world.scene layer).draw (world.scene layer).target :=
  scene_draw_self world layer (world.target layer)

theorem scene_dropUnlockTint (world : World) (layer : Layer) :
    world.dropUnlockTint.scene layer = (world.scene layer).unlock layer.unlockTint? := by
  have front (w : World) (look : Look) (h : layer ≠ .front) :
      (w.draw .front look).scene layer = w.scene layer := scene_draw_of_ne w look h
  have behind (w : World) (look : Look) (h : layer ≠ .behind) :
      (w.draw .behind look).scene layer = w.scene layer := scene_draw_of_ne w look h
  have auxiliary (w : World) (look : Look) (h : layer ≠ .auxiliary) :
      (w.draw .auxiliary look).scene layer = w.scene layer := scene_draw_of_ne w look h
  simp only [dropUnlockTint, List.foldl_cons, List.foldl_nil]
  cases layer with
  | front =>
      rw [auxiliary _ _ (by decide), behind _ _ (by decide), scene_drawTarget]
      rfl
  | behind =>
      rw [auxiliary _ _ (by decide), scene_drawTarget, front _ _ (by decide)]
      rfl
  | notifications =>
      rw [auxiliary _ _ (by decide), behind _ _ (by decide), front _ _ (by decide)]
      rfl
  | auxiliary =>
      rw [scene_drawTarget, behind _ _ (by decide), front _ _ (by decide)]
      rfl

/-- Once nothing runs, all that settling changes of a layer is the tint of an unlock. -/
theorem scene_settle_of_still {world : World} (registration : Option Registration)
    (hIdle : world.agenda.blanking.isPending = false) (hStill : world.agenda.moving = false)
    (layer : Layer) : (world.settle registration).scene layer =
      if world.controller.state = .unlocked then (world.scene layer).unlock layer.unlockTint?
      else world.scene layer := by
  have hPending : world.controller.blanking.isPending = false := hIdle
  unfold settle
  rw [anyAnimating_eq_moving, hPending, hStill, if_neg Bool.false_ne_true,
    if_neg Bool.false_ne_true]
  extract_lets released finished
  have hSilent : finished.silent = world.silent := by
    dsimp only [finished]
    split
    · rfl
    · exact silent_finishRegistration ..
  have hState : finished.controller.state = world.controller.state :=
    congrArg (·.controller.state) hSilent
  rw [hState]
  split
  · rw [scene_dropUnlockTint, scene_of_silent hSilent]
  · exact scene_of_silent hSilent layer

/-! ## Frames -/

def showLayer (world : World) (animations : Animations) (now : Nat) (layer : Layer) : World :=
  match animations.get? layer with
  | some animation =>
    if animation.hasBegun now then world.draw layer (animation.look now) else world
  | none => world

theorem scene_showLayer_of_ne (world : World) (animations : Animations) (now : Nat)
    {layer other : Layer} (h : other ≠ layer) :
    (world.showLayer animations now layer).scene other = world.scene other := by
  unfold showLayer
  split
  · split
    · exact scene_draw_of_ne world _ h
    · rfl
  · rfl

theorem scene_showLayer_self (world : World) (animations : Animations) (now : Nat)
    (layer : Layer) : (world.showLayer animations now layer).scene layer =
      { world.scene layer with
        shown := Scene.ownLook { world.scene layer with
          running := animations.get? layer } now } := by
  unfold showLayer Scene.ownLook
  cases animations.get? layer with
  | none => simp
  | some animation =>
      dsimp only
      split
      · rw [scene_draw_self, Scene.draw, Animation.look, Animation.constrain_sample]
      · simp

theorem showAnimations_eq (world : World) : world.showAnimations =
    Layer.all.foldl (fun w layer => w.showLayer world.controller.animations world.now layer)
      { world with controller.animations := world.controller.animations.advance world.now } := by
  unfold showAnimations Animations.frames
  dsimp only
  rw [List.foldl_filterMap]
  congr 1
  funext w layer
  unfold showLayer
  cases world.controller.animations.get? layer with
  | none => rfl
  | some animation => by_cases hBegun : animation.hasBegun world.now = true <;> simp [hBegun]

theorem scene_showAnimations (world : World) (layer : Layer) :
    world.showAnimations.scene layer = (world.scene layer).step world.now := by
  have shown : ∀ (layers : List Layer) (w : World), layers.Nodup →
      (layers.foldl (fun w layer =>
        w.showLayer world.controller.animations world.now layer) w).scene layer =
        if layer ∈ layers then
          { w.scene layer with
            shown := Scene.ownLook { w.scene layer with
              running := world.controller.animations.get? layer } world.now }
        else w.scene layer := by
    intro layers
    induction layers with
    | nil => exact fun _ _ => rfl
    | cons head rest ih =>
        intro w hNodup
        have hHead := (List.nodup_cons.mp hNodup).1
        rw [List.foldl_cons, ih _ (List.nodup_cons.mp hNodup).2]
        by_cases h : layer = head
        · subst h
          rw [if_neg hHead, if_pos List.mem_cons_self, scene_showLayer_self]
        · rw [scene_showLayer_of_ne _ _ _ h]
          simp [h]
  rw [showAnimations_eq, shown _ _ (by decide), if_pos layer.mem_all]
  simp only [scene, Scene.step, Animations.get?_advance]
  rfl

theorem moving_showAnimations (world : World) : world.showAnimations.agenda.moving =
    (world.controller.animations.advance world.now).anyAnimating := by
  rw [agenda_showAnimations]
  simp only [Agenda.moving, Animations.get_carried, Option.isSome_map]
  rfl

theorem scene_settleAll_of_moving {world : World} (completions : List Completion)
    (h : world.agenda.moving = true) (layer : Layer) :
    (world.settleAll completions).scene layer = world.scene layer := by
  induction completions generalizing world with
  | nil => rfl
  | cons completion rest ih =>
      have hFirst := agenda_settleOne_of_moving completion.registration h
      rw [settleAll, List.foldl_cons, ← settleAll, ih (by rw [hFirst]; exact h),
        scene_of_silent (silent_dispatchVisibility _), scene_settle_of_moving _ h]

/-- At rest every completion settles, and settling twice is settling once. -/
theorem scene_settleAll_of_still {world : World} {completions : List Completion}
    (hIdle : world.agenda.blanking.isPending = false) (hStill : world.agenda.moving = false)
    (hEnded : completions ≠ []) (layer : Layer) : (world.settleAll completions).scene layer =
      if world.controller.state = .unlocked then (world.scene layer).unlock layer.unlockTint?
      else world.scene layer := by
  induction completions generalizing world with
  | nil => exact absurd rfl hEnded
  | cons completion rest ih =>
      have hAgenda := agenda_settleOne_of_still completion.registration hIdle hStill
      have hScene := scene_settle_of_still completion.registration hIdle hStill layer
      rw [← scene_of_silent (silent_dispatchVisibility _)] at hScene
      have hState : ((world.settle completion.registration).dispatchVisibility).controller.state =
          world.controller.state :=
        congrArg (·.controller.state) ((standing_of_silent (silent_dispatchVisibility _)).trans
          (standing_settle world completion.registration))
      rw [settleAll, List.foldl_cons, ← settleAll]
      cases rest with
      | nil => exact hScene
      | cons next rest =>
          rw [ih (by rw [hAgenda]; exact hIdle) (by rw [hAgenda]; exact hStill)
            (List.cons_ne_nil _ _), hState, hScene]
          by_cases hUnlocked : world.controller.state = .unlocked
          · simp only [hUnlocked, if_true, Scene.unlock_unlock]
          · simp only [hUnlocked, if_false]

/-- Whether the frame at the present time is the last one of all that runs. -/
def comesToRest (world : World) : Bool :=
  !(world.controller.animations.completions world.now).isEmpty &&
    !(world.controller.animations.advance world.now).anyAnimating

theorem running_of_comesToRest {world : World} (h : world.comesToRest = true) (layer : Layer) :
    ((world.scene layer).step world.now).running = none := by
  have hStill := (Bool.not_eq_true' _).mp (Bool.and_eq_true_iff.mp h).2
  have hLayer := List.any_eq_false.mp hStill layer layer.mem_all
  show Animations.keep? world.now (world.controller.animations.get? layer) = none
  rw [← Animations.get?_advance]
  simpa [Animations.isAnimating] using hLayer

/-- A frame shows every layer its own animation, except that the last one of an unlock also drops
the black that it faded from. -/
theorem scene_animationFrame {world : World}
    (hCovered : world.agenda.blanking.isPending = true → world.agenda.moving = false)
    (layer : Layer) : world.animationFrame.scene layer =
      if world.comesToRest && world.controller.state = .unlocked then
        ((world.scene layer).step world.now).unlock layer.unlockTint?
      else (world.scene layer).step world.now := by
  have hFrame : world.animationFrame.scene layer = (world.showAnimations.settleAll
      (world.controller.animations.completions world.now)).scene layer := by
    unfold animationFrame
    dsimp only
    split
    · rfl
    · rfl
  have hShown := agenda_showAnimations world
  have hMoving := moving_showAnimations world
  have hState : world.showAnimations.controller.state = world.controller.state :=
    congrArg (·.controller.state) (standing_showAnimations world)
  rw [hFrame, comesToRest, ← hMoving]
  cases hRuns : world.showAnimations.agenda.moving with
  | true =>
      rw [scene_settleAll_of_moving _ hRuns, scene_showAnimations]
      simp
  | false =>
      cases hCompletions : world.controller.animations.completions world.now with
      | nil =>
          rw [settleAll, List.foldl_nil, scene_showAnimations]
          simp
      | cons completion rest =>
          -- something ran, so no black frame is held
          have hRan := moving_of_mem_completions (by rw [hCompletions]; exact List.mem_cons_self)
          have hIdle : world.showAnimations.agenda.blanking.isPending = false := by
            rw [hShown]
            exact Bool.of_not_eq_true fun h =>
              absurd ((hCovered h).symm.trans hRan) Bool.false_ne_true
          rw [scene_settleAll_of_still hIdle hRuns (List.cons_ne_nil _ _), hState,
            scene_showAnimations]
          simp

/-! ## Gestures -/

theorem scene_followTarget_of_ne (world : World) {layer other : Layer} (h : other ≠ layer) :
    (world.followTarget layer).scene other = world.scene other := by
  unfold followTarget Animations.retarget
  split
  · cases world.controller.animations.get? layer with
    | none => exact scene_draw_of_ne world _ h
    | some animation =>
        dsimp only
        rw [scene_draw_of_ne _ _ h]
        simp [scene, target, surface?, Animations.get?, Animations.start,
          PerLayer.get_set_of_ne _ _ h]
  · rfl

theorem scene_followTarget_self {world : World} {layer : Layer}
    (h : world.hasLayer layer = true) :
    (world.followTarget layer).scene layer = (world.scene layer).follow world.now := by
  have hRunning : (world.scene layer).running = world.controller.animations.get? layer := rfl
  unfold followTarget Animations.retarget Scene.follow
  rw [if_pos h, hRunning]
  cases world.controller.animations.get? layer with
  | none => exact scene_drawTarget world layer
  | some animation =>
      dsimp only
      rw [scene_draw_self]
      congr 1
      simp [scene, target, surface?]

theorem scene_restoreWallpaper (world : World) (layer : Layer) :
    world.restoreWallpaper.scene layer = world.scene layer := by
  unfold restoreWallpaper
  split
  · rfl
  · rfl

/-- A gesture that is followed has every attached layer follow its target. -/
theorem scene_followGesture {world : World} {layer : Layer} (h : world.hasLayer layer = true) :
    world.followGesture.scene layer = (world.scene layer).follow world.now := by
  have other (w : World) (moved : Layer) (h : layer ≠ moved) :
      (w.followTarget moved).scene layer = w.scene layer := scene_followTarget_of_ne w h
  have hNow (w : World) (moved : Layer) : (w.followTarget moved).now = w.now :=
    congrArg (·.scheduler.now) (agenda_followTarget w moved)
  unfold followGesture
  simp only [List.foldl_cons, List.foldl_nil]
  rw [scene_restoreWallpaper, scene_of_silent (silent_dispatchState ..)]
  cases layer with
  | behind =>
      rw [other _ .auxiliary nofun, other _ .front nofun, other _ .notifications nofun,
        scene_followTarget_self rfl]
  | notifications =>
      rw [other _ .auxiliary nofun, other _ .front nofun, scene_followTarget_self rfl,
        other _ .behind nofun, hNow]
  | front =>
      rw [other _ .auxiliary nofun, scene_followTarget_self rfl, other _ .notifications nofun,
        other _ .behind nofun, hNow, hNow]
  | auxiliary =>
      have hHas (w : World) (moved : Layer) :
          (w.followTarget moved).hasLayer .auxiliary = w.hasLayer .auxiliary :=
        congrArg Agenda.auxiliary (agenda_followTarget w moved)
      rw [scene_followTarget_self (by rw [hHas, hHas, hHas, h]), other _ .front nofun,
        other _ .notifications nofun, other _ .behind nofun, hNow, hNow, hNow]

theorem scene_followGesture_of_absent {world : World} (h : world.hasLayer .auxiliary = false) :
    world.followGesture.scene .auxiliary = world.scene .auxiliary := by
  have other (w : World) (moved : Layer) (h : Layer.auxiliary ≠ moved) :
      (w.followTarget moved).scene .auxiliary = w.scene .auxiliary := scene_followTarget_of_ne w h
  have hAbsent (w : World) (moved : Layer) :
      (w.followTarget moved).hasLayer .auxiliary = w.hasLayer .auxiliary :=
    congrArg Agenda.auxiliary (agenda_followTarget w moved)
  unfold followGesture
  simp only [List.foldl_cons, List.foldl_nil]
  rw [scene_restoreWallpaper, scene_of_silent (silent_dispatchState ..),
    followTarget.eq_def _ .auxiliary, if_neg, other _ .front nofun, other _ .notifications nofun,
    other _ .behind nofun]
  rw [hAbsent, hAbsent, hAbsent, h]
  exact Bool.false_ne_true

theorem scene_followNotifications_of_ne (world : World) (fraction : Float32) (panelBottom : Int)
    {layer : Layer} (h : layer ≠ .notifications) :
    (world.followNotifications fraction panelBottom).scene layer = world.scene layer := by
  unfold followNotifications
  dsimp only
  split
  · cases layer with
    | notifications => exact absurd rfl h
    | _ => rfl
  · rfl

theorem hasLayer_followGesture (world : World) (layer : Layer) :
    world.followGesture.hasLayer layer = world.hasLayer layer := by
  cases layer with
  | auxiliary =>
      rcases agenda_followGesture world with hAgenda | hAgenda
      · exact congrArg Agenda.auxiliary hAgenda
      · exact congrArg Agenda.auxiliary hAgenda
  | _ => rfl

theorem now_followGesture (world : World) : world.followGesture.now = world.now := by
  rcases agenda_followGesture world with hAgenda | hAgenda
  · exact congrArg (·.scheduler.now) hAgenda
  · exact congrArg (·.scheduler.now) hAgenda

end World

end Scrim
