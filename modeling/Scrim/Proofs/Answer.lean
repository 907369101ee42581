import Scrim.Proofs.Run

/-!
# What becomes of a request

A transition enters a state, and a gesture is followed. Every other request is *plain*: it sets
facts from which the looks of the layers are resolved, and then, unless they are left to the next
transition, it has an update run at once or before the next frame, makes an awaited reveal, or hides
the wallpaper (`World.Answered`). A world without its facts (`World.factless`) has all that is
drawn, queued or pending, so what only depends on that is shown of plain requests by the few cases
of `World.answered_run`, whatever their number.
-/

namespace Scrim

/-- Whether a request neither enters a state nor is followed as a gesture. -/
def Operation.isPlain : Operation → Bool
  | .transition _ _ | .panelExpansion _ | .quickSettings _ _ | .expansionAffectsAlpha _ => false
  | _ => true

namespace World

/-- A world without what plain requests set: the facts from which targets are resolved, the targets,
the palette, and the wake lock that is wired. The log is dropped as well. -/
def factless (world : World) : World :=
  { world with
    controller := { world.controller with
      catalog := { defaultAlpha := 0, keyguardAlpha := 0, doze := {} }
      expansion := { darkenWhileDragging := false }
      wakeGuard := { lock := none }
      palette := default
      targets := ⟨.splat 0, .splat Color.transparent⟩
      screenOn := false
      keyguardOccluded := false
      paletteStale := false
      slowUnlock := false }
    host := { world.host with theme := default }
    journal := { world.journal with log := [] } }

inductive Answered (world : World) : World → Prop where
  /-- Facts are set, and nothing shows them yet. -/
  | noted {changed : World} (facts : changed.factless = world.factless) : Answered world changed
  | updated {changed : World} (facts : changed.factless = world.factless) :
      Answered world changed.update
  | scheduled {changed : World} (facts : changed.factless = world.factless) :
      Answered world changed.scheduleUpdate
  /-- The awaited reveal is taken out of the queue and made now. -/
  | revealed {changed : World} (facts : changed.factless = world.factless) :
      Answered world { changed with
        host.scheduler := changed.host.scheduler.cancel .blankingTransition }.reveal
  | hidden : Answered world world.hideWallpaper

theorem answered_refreshBehind {world changed : World} (facts : changed.factless = world.factless) :
    world.Answered changed.refreshBehind.world := by
  unfold refreshBehind
  dsimp only
  split
  · exact .noted facts
  · split
    · exact .noted facts
    · exact .updated facts

theorem answered_screenTurnedOn (world : World) : world.Answered world.screenTurnedOn := by
  have hLit : (World.debug { world with controller.screenOn := true }
    "Shorter blanking because screen turned on").factless = world.factless := rfl
  unfold screenTurnedOn Blanking.expediteReveal
  dsimp only
  cases (world.controller.blanking = .awaitingReveal : Bool) &&
      world.host.scheduler.hasPending .blankingTransition with
  | true => exact .revealed hLit
  | false => exact .noted rfl

theorem answered_run {operation : Operation} (plain : operation.isPlain = true) (world : World) :
    world.Answered (operation.run world).world := by
  cases operation with
  | transition _ _ => cases plain
  | panelExpansion _ => cases plain
  | quickSettings _ _ => cases plain
  | expansionAffectsAlpha _ => cases plain
  | aodFrontAlpha alpha =>
      simp only [Operation.run, setAodFrontAlpha]
      split
      · exact .noted rfl
      · split
        · exact .updated rfl
        · exact .noted rfl
  | screenSensor active =>
      simp only [Operation.run, setScreenSensor]
      split
      · exact answered_refreshBehind rfl
      · exact .noted rfl
  | backdrop visible =>
      simp only [Operation.run, setBackdrop]
      split
      · exact answered_refreshBehind rfl
      · exact .noted rfl
  | keyguardOccluded occluded =>
      simp only [Operation.run, setKeyguardOccluded]
      exact .updated rfl
  | keyguardAlpha alpha =>
      simp only [Operation.run, setKeyguardAlpha]
      split
      · exact .noted rfl
      · exact .scheduled rfl
  | theme palette => exact .scheduled rfl
  | themeChanged => exact .scheduled rfl
  | keyguardVisibility showing => exact .scheduled rfl
  | screenOn => exact answered_screenTurnedOn world
  | wallpaperTimeout => exact .hidden
  | _ => exact .noted rfl

end World

end Scrim
