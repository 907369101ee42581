import Scrim.Proofs.Checked

/-!
# Requests with their checks

The requests of a controller, and how one is set up, over the functions of `World.Checked`. A
request fails if and only if it is refused, and with the error that it is refused with
(`Checked.run_eq`): no surface is ever found missing on the way.
-/

namespace Scrim

def Outcome.toExcept (outcome : Outcome) : Except Error World :=
  match outcome.error with
  | none => .ok outcome.world
  | some error => .error error

namespace World.Checked

/-! ## Transitions -/

def applyTransition (world : World) (previous : State) : Except Error World :=
  if world.controller.slowUnlock && world.controller.state = .unlocked then
    scheduleUpdate { world with controller.animationDelay := Time.ofMillis 100 }
  else if world.appliesAtOnce previous then preDraw world
  else scheduleUpdate world

@[simp] theorem applyTransition_eq (world : World) (previous : State) :
    applyTransition world previous = pure (world.applyTransition previous) := by
  unfold applyTransition World.applyTransition
  split
  · exact scheduleUpdate_eq _
  · split
    · exact preDraw_eq world
    · exact scheduleUpdate_eq world

def completeTransition (world : World) (previous : State) : Except Error World := do
  let abandoned := world.abandonBlanking
  let state := abandoned.controller.state
  let marked := { abandoned with controller.paletteStale := state ≠ State.brightnessMirror }
  let awake := if state.isLowPower then marked.holdWakeLock else marked
  let applied ← applyTransition awake.restartWallpaper previous
  let behind ← applied.addressed .behind
  dispatchState applied behind.alpha

@[simp] theorem completeTransition_eq (world : World) (previous : State) :
    completeTransition world previous = pure (world.completeTransition previous) := by
  unfold completeTransition
  extract_lets abandoned state marked awake
  rw [applyTransition_eq, pure_bind]
  rfl

def transition (world : World) (state : State) (callback : Option Callback) :
    Except Error World := do
  if state = .uninitialized then throw (.invalidArgument .uninitializedTarget)
  else if state = world.controller.state then return world.confirm callback
  else
    let entered := world.enter state callback
    match entered.controller.targets.nanError? state with
    | some error => throw error
    | none =>
      let overlaid ← entered.overlayGesture.toExcept
      completeTransition overlaid world.controller.state

theorem transition_eq (world : World) (state : State) (callback : Option Callback) :
    transition world state callback = (world.transition state callback).toExcept := by
  unfold transition World.transition
  split
  · rfl
  · split
    · rfl
    · dsimp only
      generalize world.enter state callback = entered
      cases entered.controller.targets.nanError? state with
      | some error => rfl
      | none =>
          dsimp only
          rcases entered.overlayGesture with ⟨overlaid, _ | error⟩
          · exact completeTransition_eq overlaid _
          · rfl

/-! ## Gestures -/

def followTarget (world : World) (layer : Layer) : Except Error World :=
  if world.hasLayer layer then
    match world.controller.animations.retarget layer (world.target layer) world.now with
    | (_, none) => draw world layer (world.target layer)
    | (animations, some look) => draw { world with controller.animations := animations } layer look
  else return world

@[simp] theorem followTarget_eq (world : World) (layer : Layer) :
    followTarget world layer = pure (world.followTarget layer) := by
  unfold followTarget World.followTarget
  split
  · next hHas =>
    rcases world.controller.animations.retarget layer (world.target layer) world.now
      with ⟨animations, _ | look⟩
    · exact draw_eq hHas _
    · refine draw_eq ?_ look
      exact hHas
  · rfl

def followGesture (world : World) : Except Error World := do
  let moved ← [Layer.behind, .notifications, .front, .auxiliary].foldlM followTarget world
  let behind ← moved.addressed .behind
  let told ← dispatchState moved behind.alpha
  return told.restoreWallpaper

@[simp] theorem followGesture_eq (world : World) :
    followGesture world = pure world.followGesture := by
  have hMoved : [Layer.behind, .notifications, .front, .auxiliary].foldlM followTarget world =
      pure ([Layer.behind, .notifications, .front, .auxiliary].foldl World.followTarget world) := by
    rw [show followTarget = fun w layer => pure (w.followTarget layer) from
      funext₂ followTarget_eq]
    exact List.foldlM_pure
  rw [followGesture, hMoved, pure_bind]
  rfl

def applyGesture (world : World) : Except Error World := do
  let overlaid ← world.overlayGesture.toExcept
  if overlaid.controller.updatePending then return overlaid else followGesture overlaid

theorem applyGesture_eq (world : World) :
    applyGesture world = world.applyGesture.toExcept := by
  unfold applyGesture World.applyGesture
  rcases world.overlayGesture with ⟨overlaid, _ | error⟩
  · show (if overlaid.controller.updatePending then _ else _) = _
    dsimp only
    split
    · rfl
    · exact followGesture_eq overlaid
  · rfl

def setPanelExpansion (world : World) (fraction : Float32) : Except Error World := do
  match world.controller.expansion.setPanel fraction with
  | .error error => throw error
  | .ok (_, false) => return world
  | .ok (expansion, true) =>
    let moved := { world with controller.expansion := expansion }
    if moved.controller.state.tracksPanel && expansion.affectsAlpha then applyGesture moved
    else return moved

theorem setPanelExpansion_eq (world : World) (fraction : Float32) :
    setPanelExpansion world fraction = (world.setPanelExpansion fraction).toExcept := by
  unfold setPanelExpansion World.setPanelExpansion
  rcases world.controller.expansion.setPanel fraction with error | ⟨expansion, _ | _⟩
  · rfl
  · rfl
  · dsimp only
    split
    · exact applyGesture_eq _
    · rfl

def followNotifications (world : World) (fraction : Float32) (panelBottom : Int) :
    Except Error World := do
  let controller := world.controller
  let alpha := controller.expansion.notificationsAlpha controller.state fraction panelBottom
  if alpha != controller.targets.alpha.notifications then
    let _ ← world.addressed .notifications
    return { world with
      controller.targets.alpha := { controller.targets.alpha with notifications := alpha }
      host.surfaces := world.host.surfaces.modify .notifications (·.setAlpha alpha) }
  else return world

@[simp] theorem followNotifications_eq (world : World) (fraction : Float32) (panelBottom : Int) :
    followNotifications world fraction panelBottom =
      pure (world.followNotifications fraction panelBottom) := by
  unfold followNotifications World.followNotifications
  dsimp only
  split
  · rfl
  · rfl

def setQuickSettings (world : World) (fraction : Float32) (panelBottom : Int) :
    Except Error World := do
  if fraction.isNaN then return world
  else
    let followed ← followNotifications world fraction panelBottom
    match followed.controller.expansion.setQuickSettings fraction with
    | (_, false) => return followed
    | (expansion, true) =>
      let moved := { followed with controller.expansion := expansion }
      if moved.controller.state.tracksQuickSettings && expansion.affectsAlpha then
        applyGesture moved
      else return moved

theorem setQuickSettings_eq (world : World) (fraction : Float32) (panelBottom : Int) :
    setQuickSettings world fraction panelBottom =
      (world.setQuickSettings fraction panelBottom).toExcept := by
  unfold setQuickSettings World.setQuickSettings
  split
  · rfl
  · rw [followNotifications_eq, pure_bind]
    dsimp only
    generalize world.followNotifications fraction panelBottom = followed
    rcases followed.controller.expansion.setQuickSettings fraction with ⟨expansion, _ | _⟩
    · rfl
    · dsimp only
      split
      · exact applyGesture_eq _
      · rfl

def setExpansionAffectsAlpha (world : World) (affects : Bool) : Except Error World :=
  let changed := { world with controller.expansion.affectsAlpha := affects }
  if affects then applyGesture changed else return changed

theorem setExpansionAffectsAlpha_eq (world : World) (affects : Bool) :
    setExpansionAffectsAlpha world affects = (world.setExpansionAffectsAlpha affects).toExcept := by
  cases affects with
  | true => exact applyGesture_eq _
  | false => rfl

/-! ## Surroundings -/

def setAodFrontAlpha (world : World) (alpha : Float32) : Except Error World := do
  if alpha.isNaN then throw (.invalidArgument .nanAodFrontAlpha)
  else
    let applies := world.controller.targets.alpha.front != alpha && world.showsAodFrontAlpha
    let changed := world.override fun overrides => { overrides with aodFrontAlpha := alpha }
    if applies then
      let targets := changed.controller.targets
      update { changed with controller.targets.alpha := { targets.alpha with front := alpha } }
    else return changed

theorem setAodFrontAlpha_eq (world : World) (alpha : Float32) :
    setAodFrontAlpha world alpha = (world.setAodFrontAlpha alpha).toExcept := by
  unfold setAodFrontAlpha World.setAodFrontAlpha
  split
  · rfl
  · dsimp only
    split
    · exact update_eq _
    · rfl

def refreshBehind (world : World) : Except Error World := do
  let controller := world.controller
  let behind := controller.catalog.behindAlpha controller.state
  if behind == controller.targets.alpha.behind then return world
  else
    let changed := { world with
      controller.targets.alpha := { controller.targets.alpha with behind := behind } }
    match changed.controller.targets.nanError? controller.state with
    | some error => throw error
    | none => update changed

theorem refreshBehind_eq (world : World) :
    refreshBehind world = world.refreshBehind.toExcept := by
  unfold refreshBehind World.refreshBehind
  dsimp only
  split
  · rfl
  · cases Targets.nanError? _ world.controller.state with
    | some error => rfl
    | none => exact update_eq _

def setScreenSensor (world : World) (active : Bool) : Except Error World :=
  let changed := world.override fun overrides => { overrides with screenSensorActive := active }
  if changed.controller.state = .pulsing then refreshBehind changed else return changed

theorem setScreenSensor_eq (world : World) (active : Bool) :
    setScreenSensor world active = (world.setScreenSensor active).toExcept := by
  unfold setScreenSensor World.setScreenSensor
  dsimp only
  split
  · exact refreshBehind_eq _
  · rfl

def setBackdrop (world : World) (visible : Bool) : Except Error World :=
  let changed := world.override fun overrides => { overrides with hasBackdrop := visible }
  if changed.controller.state.isLowPower then refreshBehind changed else return changed

theorem setBackdrop_eq (world : World) (visible : Bool) :
    setBackdrop world visible = (world.setBackdrop visible).toExcept := by
  unfold setBackdrop World.setBackdrop
  dsimp only
  split
  · exact refreshBehind_eq _
  · rfl

def setKeyguardOccluded (world : World) (occluded : Bool) : Except Error World :=
  update { world with controller.keyguardOccluded := occluded }

def setKeyguardAlpha (world : World) (alpha : Float32) : Except Error World :=
  if alpha.isNaN then throw (.invalidArgument .nanKeyguardAlpha)
  else scheduleUpdate { world with controller.catalog.keyguardAlpha := alpha }

theorem setKeyguardAlpha_eq (world : World) (alpha : Float32) :
    setKeyguardAlpha world alpha = (world.setKeyguardAlpha alpha).toExcept := by
  unfold setKeyguardAlpha World.setKeyguardAlpha
  split
  · rfl
  · exact scheduleUpdate_eq _

def themeChanged (world : World) : Except Error World :=
  scheduleUpdate world.readTheme

def keyguardVisibilityChanged (world : World) (showing : Bool) : Except Error World :=
  let logged := world.debug s!"Keyguard visibility changed: showing={showing}"
  scheduleUpdate { logged with controller.paletteStale := true }

def screenTurnedOn (world : World) : Except Error World :=
  let lit := { world with controller.screenOn := true }
  match lit.controller.blanking.expediteReveal lit.host.scheduler with
  | (_, false) => return lit
  | (scheduler, true) =>
    let cleared := { lit with host.scheduler := scheduler }
    reveal (cleared.debug "Shorter blanking because screen turned on")

@[simp] theorem screenTurnedOn_eq (world : World) :
    screenTurnedOn world = pure world.screenTurnedOn := by
  unfold screenTurnedOn World.screenTurnedOn
  dsimp only
  rcases world.controller.blanking.expediteReveal world.host.scheduler with ⟨scheduler, _ | _⟩
  · rfl
  · exact reveal_eq _

/-! ## All requests -/

def run (operation : Operation) (world : World) : Except Error World :=
  match operation with
  | .transition state callback => transition world state callback
  | .panelExpansion fraction => setPanelExpansion world fraction
  | .quickSettings fraction panelBottom => setQuickSettings world fraction panelBottom
  | .expansionAffectsAlpha affects => setExpansionAffectsAlpha world affects
  | .aodFrontAlpha alpha => setAodFrontAlpha world alpha
  | .screenSensor active => setScreenSensor world active
  | .backdrop visible => setBackdrop world visible
  | .keyguardOccluded occluded => setKeyguardOccluded world occluded
  | .keyguardAlpha alpha => setKeyguardAlpha world alpha
  | .theme palette => themeChanged { world with host.theme := palette }
  | .themeChanged => themeChanged world
  | .keyguardVisibility showing => keyguardVisibilityChanged world showing
  | .screenOn => screenTurnedOn world
  | .wallpaperTimeout => hideWallpaper world
  | .trackingStarted _ | .expandingFinished | .ambientWallpaper _ | .keyguardFadingAway _ _
  | .launchingAffordance _ | .docked _ | .alwaysOn _ | .slowUnlock _ | .wakeLock | .screenOff =>
    return (operation.run world).world

/-- A request fails only if it is refused. -/
theorem run_eq (operation : Operation) (world : World) :
    run operation world = (operation.run world).toExcept := by
  cases operation with
  | transition state callback => exact transition_eq world state callback
  | panelExpansion fraction => exact setPanelExpansion_eq world fraction
  | quickSettings fraction panelBottom => exact setQuickSettings_eq world fraction panelBottom
  | expansionAffectsAlpha affects => exact setExpansionAffectsAlpha_eq world affects
  | aodFrontAlpha alpha => exact setAodFrontAlpha_eq world alpha
  | screenSensor active => exact setScreenSensor_eq world active
  | backdrop visible => exact setBackdrop_eq world visible
  | keyguardOccluded occluded => exact update_eq _
  | keyguardAlpha alpha => exact setKeyguardAlpha_eq world alpha
  | theme palette => exact scheduleUpdate_eq _
  | themeChanged => exact scheduleUpdate_eq _
  | keyguardVisibility showing => exact scheduleUpdate_eq _
  | screenOn => exact screenTurnedOn_eq world
  | wallpaperTimeout => exact hideWallpaper_eq world
  | _ => rfl

/-! ## Setting up -/

def attach (settings : Settings) (theme : Palette) (auxiliary wakeLock : Bool) :
    Except Error World := do
  if settings.defaultAlpha.isNaN || settings.keyguardAlpha.isNaN then
    throw (.invalidArgument .nanSettings)
  else
    let catalog : Catalog :=
      { defaultAlpha := settings.defaultAlpha
        keyguardAlpha := settings.keyguardAlpha
        doze := settings.doze }
    let initial := catalog.descriptor .uninitialized .uninitialized
    let world : World :=
      { controller :=
          { catalog
            expansion := { darkenWhileDragging := settings.darkenWhileDragging }
            wakeGuard := { lock := if wakeLock then some () else none }
            targets := ⟨initial.alpha, initial.tint⟩
            animationDuration := initial.duration }
        host :=
          { surfaces := { auxiliary := if auxiliary then some {} else none }
            theme } }
    let updated ← update world.readTheme
    return updated.debug
      s!"Scrim controller attached (auxiliary layer: {updated.hasLayer .auxiliary})"

theorem attach_eq (settings : Settings) (theme : Palette) (auxiliary wakeLock : Bool) :
    attach settings theme auxiliary wakeLock = World.attach settings theme auxiliary wakeLock := by
  unfold attach World.attach
  split
  · rfl
  · dsimp only
    rw [update_eq, pure_bind]
    rfl

end World.Checked

end Scrim
