import Scrim.Proofs.Scene

/-!
# Frames before the targets are applied

Between a transition and its update a frame is to show every layer its own animation, and leave
those without one as they are; the targets wait. An unlock breaks this: settling looks at the
active state and not at the one whose animation ended, so the last frame of what ran before draws
the front, behind and auxiliary layers at the targets of the unlock, update or no update
(`World.UnlocksEarly`).

`World.frame_shows_own_looks_iff` says that this is the only way for a frame to show anything
else.
-/

namespace Scrim.World

/-- What an attached layer shows once the tint of an unlock has been dropped; the notifications
layer has none to drop. -/
def unlockLook? (world : World) (layer : Layer) : Option Look :=
  layer.unlockTint?.map fun tint => ⟨Curve.constrain (world.target layer).alpha 0 1, tint⟩

/-- The frame at the present time is the last of what runs, an unlock is active, and some layer
should show something else than the target of that unlock. -/
def UnlocksEarly (world : World) : Prop :=
  world.comesToRest = true ∧ world.controller.state = .unlocked ∧
    ∃ layer own unlocked, (world.scene layer).ownLook world.now = some own ∧
      world.unlockLook? layer = some unlocked ∧ own ≠ unlocked

/-- Dropping the tint of an unlock draws every attached layer that has one. -/
theorem shown_unlock (world : World) (layer : Layer) :
    (((world.scene layer).step world.now).unlock layer.unlockTint?).shown =
      ((world.scene layer).ownLook world.now).map fun own =>
        (world.unlockLook? layer).getD own := by
  unfold unlockLook? Scene.unlock
  cases layer.unlockTint? with
  | none => simp [Scene.step]
  | some tint =>
      simp only [Scene.draw, Scene.step, Option.map_some, Option.getD_some]
      rfl

/-- In every reachable world, whether an update is pending or not, a frame shows every layer its
own animation and leaves the others as they are, unless it unlocks them early. -/
theorem frame_shows_own_looks_iff {settings : Settings} {options : SimulationOptions}
    {world : World} (h : Reachable settings options world) :
    (∀ layer, (world.animationFrame.scene layer).shown =
        (world.scene layer).ownLook world.now) ↔ ¬world.UnlocksEarly := by
  have hFrame (layer : Layer) := scene_animationFrame h.driven.covered layer
  constructor
  · rintro hOwn ⟨hRest, hState, layer, own, unlocked, hShown, hUnlock, hOther⟩
    have hLayer := hOwn layer
    rw [hFrame, if_pos (by simp [hRest, hState]), shown_unlock, hShown, hUnlock] at hLayer
    exact hOther (Option.some.inj hLayer).symm
  · intro hLate layer
    rw [hFrame]
    split
    · next hUnlocks =>
      rw [Bool.and_eq_true, decide_eq_true_eq] at hUnlocks
      rw [shown_unlock]
      cases hShown : (world.scene layer).ownLook world.now with
      | none => rfl
      | some own =>
          cases hUnlock : world.unlockLook? layer with
          | none => rfl
          | some unlocked =>
              have hSame : own = unlocked := by
                by_contra hOther
                exact hLate ⟨hUnlocks.1, hUnlocks.2, layer, own, unlocked, hShown, hUnlock, hOther⟩
              rw [hSame]
              rfl
    · rfl

set_option maxRecDepth 100000 in
/-- A frame between a transition to the bouncer and its update shows the end of the unlock before
it. -/
theorem frame_shows_own_looks_before_bouncer : ∃ simulation,
    Simulation.play {} {} [.perform (.expansionAffectsAlpha false),
      .perform (.keyguardFadingAway true 0), .perform (.transition .unlocked none), .advance 0,
      .perform (.transition .bouncer none)] = some simulation ∧
    simulation.world.controller.updatePending = true ∧
    (simulation.world.controller.animations.get? .behind).isSome = true ∧
    ∀ layer, (simulation.world.animationFrame.scene layer).shown =
      (simulation.world.scene layer).ownLook simulation.world.now := by
  have hPlayed : (Simulation.play {} {} [.perform (.expansionAffectsAlpha false),
      .perform (.keyguardFadingAway true 0), .perform (.transition .unlocked none), .advance 0,
      .perform (.transition .bouncer none)]).any (fun simulation =>
        let world := simulation.world
        world.controller.updatePending && (world.controller.animations.get? .behind).isSome &&
          (world.controller.state = .bouncer)) = true := by
    decide +kernel
  obtain ⟨simulation, hPlay, hFacts⟩ := (Option.any_eq_true _ _).mp hPlayed
  simp only [Bool.and_eq_true, decide_eq_true_eq] at hFacts
  obtain ⟨⟨hPending, hRuns⟩, hState⟩ := hFacts
  refine ⟨simulation, hPlay, hPending, hRuns, ?_⟩
  refine (frame_shows_own_looks_iff (Simulation.reached_play hPlay).reachable).mpr ?_
  rintro ⟨-, hUnlocked, -⟩
  rw [hState] at hUnlocked
  cases hUnlocked

def abruptDoze : Settings where
  doze :=
    { alwaysOn := true
      controlsScreenOff := false
      wallpaperAodDuration := Time.ofMillis 16
      wallpaperFadeOutDuration := 0 }

/-- Dozing behind a black front layer until the wallpaper's time is over, and then an unlock that
waits for its update. -/
def unlockOfTimedOutDoze : List Simulation.Call :=
  [.perform (.expansionAffectsAlpha false), .perform (.ambientWallpaper true),
    .perform (.aodFrontAlpha 1), .perform (.transition .aod none), .advance (Time.ofMillis 16),
    .perform (.slowUnlock true), .perform (.transition .unlocked none)]

set_option maxRecDepth 100000 in
/-- The wallpaper disappears with the frame that the unlock waits for, and that frame shows the
target of the unlock: the front layer, which runs no animation, loses its black. -/
theorem front_unlocked_early : ∃ simulation,
    Simulation.play abruptDoze {} unlockOfTimedOutDoze = some simulation ∧
    simulation.world.controller.updatePending = true ∧
    simulation.world.host.scheduler.frameRequested = true ∧
    simulation.world.controller.animations.get? .front = none ∧
    simulation.world.frontLook = .solidBlack ∧
    simulation.world.animationFrame.frontLook ≠ .solidBlack := by
  have hPlayed : (Simulation.play abruptDoze {} unlockOfTimedOutDoze).any (fun simulation =>
      let world := simulation.world
      world.controller.updatePending && world.host.scheduler.frameRequested &&
        (world.controller.animations.get? .front).isNone &&
        (world.frontLook.alpha = 1) && (world.frontLook.tint = Color.black) &&
        (world.animationFrame.frontLook.alpha = 0)) = true := by
    decide +kernel
  obtain ⟨simulation, hPlay, hFacts⟩ := (Option.any_eq_true _ _).mp hPlayed
  simp only [Bool.and_eq_true, decide_eq_true_eq, Option.isNone_iff_eq_none] at hFacts
  obtain ⟨⟨⟨⟨⟨hPending, hFrame⟩, hStill⟩, hAlpha⟩, hTint⟩, hBare⟩ := hFacts
  refine ⟨simulation, hPlay, hPending, hFrame, hStill, ?_, ?_⟩
  · show simulation.world.frontLook = ⟨1, Color.black⟩
    rw [← hAlpha, ← hTint]
  · intro hBlack
    have hOpaque : (0 : Float32) = 1 := hBare.symm.trans (congrArg Look.alpha hBlack)
    exact absurd hOpaque (by decide)

end Scrim.World
