import Scrim.Proofs.Driven

/-!
# What drawing leaves standing

Telling others changes nothing that is drawn (`World.silent`), and drawing changes little else:
the state, the facts it was resolved from, the flags of the next update, the wanted opacities, the
palettes of the surfaces and the alarm stay as they are (`World.standing`). An update changes of
these only what it does before it draws: it hands the palette on, and hides the wallpaper from a
dozing display (`World.prepare`).
-/

namespace Scrim

/-- Surfaces of which only the palette is known. -/
def Surfaces.bare (surfaces : Surfaces) : Surfaces where
  front := { palette := surfaces.front.palette }
  behind := { palette := surfaces.behind.palette }
  notifications := { palette := surfaces.notifications.palette }
  auxiliary := surfaces.auxiliary.map fun surface => { palette := surface.palette }

theorem Surfaces.bare_modify (surfaces : Surfaces) (layer : Layer) {change : Surface → Surface}
    (h : ∀ surface, (change surface).palette = surface.palette) :
    (surfaces.modify layer change).bare = surfaces.bare := by
  cases layer
  case auxiliary => cases hAuxiliary : surfaces.auxiliary <;> simp [modify, bare, hAuxiliary, h]
  all_goals simp [modify, bare, h]

namespace World

/-- A world without what is there for others only: callbacks, the wake lock, the journal. -/
def silent (world : World) : World :=
  { world with
    controller := { world.controller with
      wakeGuard := { lock := none }
      visibility := none
      callback := none
      registry := {}
      blankedNotified := false }
    journal := {} }

/-- A world without what is there for others and without what updates and frames change. -/
def standing (world : World) : World :=
  { world.silent with
    controller := { world.silent.controller with
      animations := {}
      blanking := .idle
      blankScreen := false
      targets := { world.controller.targets with tint := .splat Color.transparent } }
    host := { world.host with scheduler := {}, surfaces := world.host.surfaces.bare } }

theorem standing_modify (world : World) (layer : Layer) {change : Surface → Surface}
    (h : ∀ surface, (change surface).palette = surface.palette) :
    standing { world with host.surfaces := world.host.surfaces.modify layer change } =
      world.standing :=
  congrArg (fun surfaces => { world.standing with host.surfaces := surfaces })
    (Surfaces.bare_modify _ layer h)

theorem standing_of_silent {world after : World} (h : after.silent = world.silent) :
    after.standing = world.standing := by
  show after.silent.standing = world.silent.standing
  rw [h]

theorem hasLayer_of_standing {world after : World} (h : after.standing = world.standing)
    (layer : Layer) : after.hasLayer layer = world.hasLayer layer := by
  have bare (w : World) : w.standing.hasLayer layer = w.hasLayer layer := by
    cases layer
    case auxiliary => exact Option.isSome_map
    all_goals rfl
  rw [← bare after, h, bare]

/-! ## Telling -/

section Silent

variable (world : World)

@[simp] theorem silent_dispatchState (alpha : Float32) :
    (world.dispatchState alpha).silent = world.silent := rfl

@[simp] theorem silent_dispatchVisibility : world.dispatchVisibility.silent = world.silent := by
  unfold dispatchVisibility
  dsimp only
  split
  · rfl
  · rfl

@[simp] theorem silent_notify (registration : Registration) (kind : Notification) :
    (world.notify registration kind).silent = world.silent := by
  unfold notify
  split
  · rfl
  · rfl

@[simp] theorem silent_terminate (registration : Registration) (kind : Notification) :
    (world.terminate registration kind).silent = world.silent := by
  unfold terminate
  split
  · rfl
  · rfl

@[simp] theorem silent_notifyActive (kind : Notification) :
    (world.notifyActive kind).silent = world.silent := by
  unfold notifyActive
  split
  · rfl
  · exact silent_notify ..

@[simp] theorem silent_notifyBlankedOnce : world.notifyBlankedOnce.silent = world.silent := by
  unfold notifyBlankedOnce
  split
  · exact silent_notifyActive world .displayBlanked
  · rfl

@[simp] theorem silent_finishRegistration (registration : Registration) :
    (world.finishRegistration registration).silent = world.silent := by
  have hTold := silent_terminate world registration .finished
  unfold finishRegistration
  dsimp only
  split
  · exact hTold
  · exact hTold

@[simp] theorem silent_confirm (callback : Option Callback) :
    (world.confirm callback).silent = world.silent := by
  cases callback with
  | none => rfl
  | some callback =>
      unfold confirm
      dsimp -zeta only
      extract_lets registered
      split
      · rfl
      · rfl

theorem silent_replaceCallback (callback : Option Callback) :
    (world.replaceCallback callback).silent = world.silent := by
  unfold replaceCallback
  extract_lets cancelled
  have hCancelled : cancelled.silent = world.silent := by
    dsimp only [cancelled]
    split
    · rfl
    · exact silent_terminate ..
  cases callback with
  | none => exact hCancelled
  | some callback => exact hCancelled

end Silent

/-! ## Drawing -/

section Standing

variable (world : World)

theorem standing_notifyActive (kind : Notification) :
    (world.notifyActive kind).standing = world.standing :=
  standing_of_silent (silent_notifyActive world kind)

@[simp] theorem standing_draw (layer : Layer) (look : Look) :
    (world.draw layer look).standing = world.standing := by
  unfold draw
  split
  · dsimp only
    rw [standing_of_silent (silent_dispatchVisibility _)]
    exact standing_modify world layer fun _ => rfl
  · rfl

@[simp] theorem standing_startAnimation (layer : Layer) (current : Look) :
    (world.startAnimation layer current).standing = world.standing := rfl

@[simp] theorem standing_blankDisplay : world.blankDisplay.standing = world.standing :=
  standing_draw world .front ⟨1, Color.black⟩

@[simp] theorem standing_moveToTarget (layer : Layer) (current : Look) :
    (world.moveToTarget layer current).standing = world.standing := by
  unfold moveToTarget
  dsimp only
  split
  · split
    · exact standing_startAnimation ..
    · exact standing_draw ..
  · rfl

@[simp] theorem standing_updateLayer (layer : Layer) :
    (world.updateLayer layer).standing = world.standing := by
  unfold updateLayer
  split
  · rfl
  · dsimp only
    split
    · rfl
    · split
      · exact standing_blankDisplay _
      · rw [standing_moveToTarget]
        have hTold := standing_of_silent (silent_notifyBlankedOnce (world.stopAnimation layer))
        split
        · exact hTold
        · exact hTold

@[simp] theorem standing_dropUnlockTint : world.dropUnlockTint.standing = world.standing := by
  simp only [dropUnlockTint, List.foldl_cons, List.foldl_nil, standing_draw]
  rfl

@[simp] theorem standing_settle (registration : Option Registration) :
    (world.settle registration).standing = world.standing := by
  unfold settle
  split
  · rfl
  · split
    · split
      · rfl
      · split
        · rfl
        · exact standing_of_silent (silent_terminate ..)
    · extract_lets released finished
      have hFinished : finished.standing = world.standing := by
        apply standing_of_silent
        dsimp only [finished]
        split
        · rfl
        · exact silent_finishRegistration ..
      split
      · rw [standing_dropUnlockTint, hFinished]
      · exact hFinished

/-! ## Frames -/

theorem standing_showAnimations : world.showAnimations.standing = world.standing := by
  have drawn : ∀ (frames : List Frame) (w : World),
      (frames.foldl (fun w frame => w.draw frame.layer frame.look) w).standing = w.standing := by
    intro frames
    induction frames with
    | nil => exact fun _ => rfl
    | cons frame rest ih =>
        intro w
        rw [List.foldl_cons, ih, standing_draw]
  unfold showAnimations
  exact drawn ..

theorem standing_settleAll (completions : List Completion) :
    (world.settleAll completions).standing = world.standing := by
  induction completions generalizing world with
  | nil => rfl
  | cons completion rest ih =>
      rw [settleAll, List.foldl_cons, ← settleAll, ih,
        standing_of_silent (silent_dispatchVisibility _), standing_settle]

@[simp] theorem standing_animationFrame : world.animationFrame.standing = world.standing := by
  have hSettled := standing_settleAll world.showAnimations
    (world.controller.animations.completions world.now)
  rw [standing_showAnimations] at hSettled
  unfold animationFrame
  dsimp only
  split
  · exact hSettled
  · exact hSettled

@[simp] theorem standing_followTarget (layer : Layer) :
    (world.followTarget layer).standing = world.standing := by
  unfold followTarget
  split
  · split
    · exact standing_draw ..
    · exact standing_draw ..
  · rfl

theorem standing_frameCommitted : world.frameCommitted.standing = world.standing := by
  unfold frameCommitted
  dsimp only
  split
  · rfl
  · split
    · exact standing_notifyActive _ .displayBlanked
    · rfl

theorem standing_scheduleUpdate : world.scheduleUpdate.standing =
    { world.standing with controller.updatePending := true } := by
  unfold scheduleUpdate
  split
  · next hPending => rw [← hPending]; rfl
  · rfl

end Standing

/-! ## Updates -/

def clothe (world : World) (layer : Layer) : World :=
  { world with host.surfaces := world.host.surfaces.modify layer fun surface =>
      { surface with palette := world.controller.palette } }

def refresh (world : World) : World :=
  if world.controller.paletteStale then
    let fresh := { world with controller.paletteStale := false }
    ((fresh.clothe .front).clothe .behind).clothe .notifications
  else world

/-- What an update does before it draws: it hands the palette on, a stale one to the main layers
and the present one to the auxiliary layer, and hides what a dozing display must not show. -/
def prepare (world : World) : World :=
  world.refresh.hideBehind.clothe .auxiliary

theorem prepare_eq (world : World) : ∃ stale alpha surfaces, world.prepare =
    { world with
      controller.paletteStale := stale
      controller.targets := { world.controller.targets with alpha := alpha }
      host.surfaces := surfaces } := by
  unfold prepare refresh hideBehind
  split
  · dsimp only
    split
    · exact ⟨_, _, _, rfl⟩
    · exact ⟨_, _, _, rfl⟩
  · dsimp only
    split
    · exact ⟨_, _, _, rfl⟩
    · exact ⟨_, _, _, rfl⟩

theorem standing_applyPalette (world : World) (layer : Layer) :
    (world.applyPalette layer).standing = world.standing.clothe layer := by
  cases layer
  case auxiliary =>
    rcases world with ⟨controller, ⟨_, _, ⟨_, _, _, auxiliary⟩, _⟩, _⟩
    cases auxiliary
    · rfl
    · rfl
  all_goals rfl

theorem standing_refreshPalette (world : World) :
    world.refreshPalette.standing = world.standing.refresh := by
  have hStale : world.standing.controller.paletteStale = world.controller.paletteStale := rfl
  unfold refreshPalette refresh
  rw [hStale]
  split
  · dsimp only
    rw [standing_of_silent (silent_dispatchState ..)]
    simp only [standing_applyPalette]
    rfl
  · rfl

theorem standing_hideBehind (world : World) :
    world.hideBehind.standing = world.standing.hideBehind := by
  have hHides : (world.standing.controller.state.isLowPower &&
      (world.standing.controller.wallpaperTimedOut || world.standing.controller.keyguardOccluded)) =
      (world.controller.state.isLowPower &&
        (world.controller.wallpaperTimedOut || world.controller.keyguardOccluded)) := rfl
  unfold hideBehind
  dsimp only
  rw [hHides]
  split
  · rfl
  · rfl

theorem standing_updateLayers (world : World) :
    world.updateLayers.standing = world.standing.prepare := by
  simp only [updateLayers, standing_updateLayer, standing_applyPalette, standing_hideBehind,
    standing_refreshPalette]
  rfl

theorem standing_update (world : World) : world.update.standing = world.standing.prepare := by
  unfold update
  dsimp only
  rw [standing_of_silent (silent_dispatchVisibility _), standing_settle, standing_updateLayers]

theorem standing_preDraw (world : World) : world.preDraw.standing =
    World.prepare { world.standing with controller.updatePending := false } := by
  unfold preDraw
  dsimp only
  rw [standing_update, standing_notifyActive]
  exact congrArg (fun w : World => World.prepare { w with controller.updatePending := false })
    (standing_modify world .behind fun _ => rfl)

theorem standing_reveal (world : World) : world.reveal.standing =
    if world.controller.blanking = .awaitingReveal then world.standing.prepare
    else world.standing := by
  unfold reveal Blanking.reveal
  by_cases hPhase : world.controller.blanking = .awaitingReveal
  · simp only [hPhase, if_true]
    rw [standing_update]
    rfl
  · simp only [hPhase, if_false]

theorem behind_prepare (world : World) : world.prepare.controller.targets.alpha.behind =
    if world.controller.state.isLowPower &&
      (world.controller.wallpaperTimedOut || world.controller.keyguardOccluded)
    then 1 else world.controller.targets.alpha.behind := by
  have clothed (w : World) : (w.clothe .auxiliary).controller = w.controller := rfl
  have hRefreshed : ∃ stale, world.refresh.controller =
      { world.controller with paletteStale := stale } := by
    unfold refresh
    split
    · exact ⟨_, rfl⟩
    · exact ⟨_, rfl⟩
  obtain ⟨stale, hController⟩ := hRefreshed
  unfold prepare hideBehind
  rw [clothed]
  dsimp only
  rw [hController]
  split
  · rfl
  · rw [hController]

/-- What an update of a dozing display aims at behind the layers: a solid layer once the wallpaper
has had its time, or where an activity is shown. -/
theorem behind_update (world : World) : world.update.controller.targets.alpha.behind =
    if world.controller.state.isLowPower &&
      (world.controller.wallpaperTimedOut || world.controller.keyguardOccluded)
    then 1 else world.controller.targets.alpha.behind :=
  (congrArg (·.controller.targets.alpha.behind) (standing_update world)).trans
    (behind_prepare world.standing)

theorem behind_preDraw (world : World) : world.preDraw.controller.targets.alpha.behind =
    if world.controller.state.isLowPower &&
      (world.controller.wallpaperTimedOut || world.controller.keyguardOccluded)
    then 1 else world.controller.targets.alpha.behind :=
  (congrArg (·.controller.targets.alpha.behind) (standing_preDraw world)).trans (behind_prepare _)

/-! ## Fresh simulations -/

def fresh (settings : Settings) (options : SimulationOptions) : World :=
  let catalog : Catalog :=
    { defaultAlpha := settings.defaultAlpha
      keyguardAlpha := settings.keyguardAlpha
      doze := settings.doze }
  let initial := catalog.descriptor .uninitialized .uninitialized
  let world : World :=
    { controller :=
        { catalog
          expansion := { darkenWhileDragging := settings.darkenWhileDragging }
          wakeGuard := { lock := if options.wakeLock then some () else none }
          targets := ⟨initial.alpha, initial.tint⟩
          animationDuration := initial.duration }
      host :=
        { surfaces := { auxiliary := if options.auxiliary then some {} else none }
          theme := Simulation.defaultTheme } }
  world.readTheme

/-- Once attached, a controller has had its first update. -/
theorem attach_eq {settings : Settings} {options : SimulationOptions} {world : World}
    (h : attach settings Simulation.defaultTheme options.auxiliary options.wakeLock = .ok world) :
    ∃ message, world = (fresh settings options).update.debug message := by
  unfold attach at h
  split at h
  · cases h
  · obtain rfl := Except.ok.inj h
    unfold fresh
    exact ⟨_, rfl⟩

/-- All that a simulation does after that is to report the screen as on. -/
theorem create_eq {settings : Settings} {options : SimulationOptions} {simulation : Simulation}
    (h : Simulation.create settings options = .ok simulation) : ∃ message screenOn,
    simulation.world = { (fresh settings options).update.debug message with
      controller.screenOn := screenOn } := by
  unfold Simulation.create at h
  split at h
  · cases h
  · next world hAttach =>
    obtain ⟨message, hWorld⟩ := attach_eq hAttach
    obtain rfl := Except.ok.inj h
    have hIdle : world.controller.blanking.isPending = false :=
      (updated_attach hAttach).idle rfl rfl
    have hPhase : world.controller.blanking = .idle := by simpa [Blanking.isPending] using hIdle
    have hLit : world.screenTurnedOn = { world with controller.screenOn := true } := by
      simp [screenTurnedOn, Blanking.expediteReveal, hPhase]
    refine ⟨message, ?_⟩
    rw [← hWorld]
    dsimp only
    rw [hLit]
    split
    · exact ⟨true, rfl⟩
    · exact ⟨world.controller.screenOn, rfl⟩

end World

end Scrim
