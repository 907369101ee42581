import Scrim.Proofs.Standing

/-!
# Animations arrive

An animation is over in the first frame in which its progress has reached one. Progress is a
quotient of times, rounded to single precision, and nothing is known here of that rounding: that an
animation of some duration arrives, once that time has passed, is an assumption (`Arrives`). Without
a request only few durations occur: those of the running animations, that of the present change, and
that in which the wallpaper fades. If these arrive, so does every animation that is yet to start,
for the host's events keep it so (`World.Step.arriving`).

A frame drops the animations that are over and leaves the others as they are
(`World.animations_animationFrame`).
-/

namespace Scrim

/-- Once an animation of this duration has had its time, its progress has reached one. -/
def Arrives (duration : Nat) : Prop :=
  ∀ animation : Animation, animation.duration = duration →
    ∀ now, animation.begins + duration ≤ now → 1 ≤ animation.progress now

/-- Without a duration an animation is at its end whenever it is looked at. -/
theorem arrives_zero : Arrives 0 := by
  intro animation hDuration now _
  have hOne : (1 : Float32) ≤ 1 := by decide
  rw [Animation.progress, if_pos hDuration]
  exact hOne

theorem Arrives.isOver {animation : Animation} {now : Nat} (h : Arrives animation.duration)
    (hNow : animation.begins + animation.duration ≤ now) : animation.isOver now = true := by
  have hBegun : animation.hasBegun now = true :=
    decide_eq_true (Nat.le_trans (Nat.le_add_right _ _) hNow)
  exact Bool.and_eq_true_iff.mpr ⟨hBegun, decide_eq_true (h animation rfl now hNow)⟩

/-- An animation that is left after a step was there before, and is not over. -/
theorem Animations.eq_of_keep? {now : Nat} {running : Option Animation} {animation : Animation}
    (h : keep? now running = some animation) :
    running = some animation ∧ animation.isOver now = false := by
  cases running with
  | none => cases h
  | some other =>
      unfold keep? at h
      dsimp only at h
      split at h
      · cases h
      · next hGoesOn =>
        obtain rfl := Option.some.inj h
        exact ⟨rfl, Bool.of_not_eq_true hGoesOn⟩

namespace World

/-- Every animation arrives that runs or that may start without a request. -/
structure Arriving (world : World) : Prop where
  running : ∀ layer animation, world.controller.animations.get? layer = some animation →
    Arrives animation.duration
  /-- An update starts animations of this duration. -/
  next : world.controller.animateChange = true → Arrives world.controller.animationDuration
  /-- The alarm has the next update take this one. -/
  fade : Arrives world.controller.catalog.doze.wallpaperFadeOutDuration

/-! ## What leaves animations alone -/

section Animations

variable (world : World)

theorem animations_of_silent {world after : World} (h : after.silent = world.silent) :
    after.controller.animations = world.controller.animations :=
  congrArg (·.controller.animations) h

@[simp] theorem animations_draw (layer : Layer) (look : Look) :
    (world.draw layer look).controller.animations = world.controller.animations := by
  unfold draw
  split
  · dsimp only
    rw [animations_of_silent (silent_dispatchVisibility _)]
  · rfl

theorem animations_settle (registration : Option Registration) :
    (world.settle registration).controller.animations = world.controller.animations := by
  have dropped (w : World) :
      w.dropUnlockTint.controller.animations = w.controller.animations := by
    simp only [dropUnlockTint, List.foldl_cons, List.foldl_nil, animations_draw]
  unfold settle
  split
  · rfl
  · split
    · split
      · rfl
      · split
        · rfl
        · exact animations_of_silent (silent_terminate ..)
    · extract_lets released finished
      have hFinished : finished.controller.animations = world.controller.animations := by
        dsimp only [finished]
        split
        · rfl
        · exact animations_of_silent (silent_finishRegistration ..)
      split
      · rw [dropped, hFinished]
      · exact hFinished

theorem animations_settleAll (completions : List Completion) :
    (world.settleAll completions).controller.animations = world.controller.animations := by
  induction completions generalizing world with
  | nil => rfl
  | cons completion rest ih =>
      rw [settleAll, List.foldl_cons, ← settleAll, ih,
        animations_of_silent (silent_dispatchVisibility _), animations_settle]

theorem animations_showAnimations : world.showAnimations.controller.animations =
    world.controller.animations.advance world.now := by
  have drawn : ∀ (frames : List Frame) (w : World),
      (frames.foldl (fun w frame => w.draw frame.layer frame.look) w).controller.animations =
        w.controller.animations := by
    intro frames
    induction frames with
    | nil => exact fun _ => rfl
    | cons frame rest ih =>
        intro w
        rw [List.foldl_cons, ih, animations_draw]
  unfold showAnimations
  exact drawn ..

theorem animations_animationFrame : world.animationFrame.controller.animations =
    world.controller.animations.advance world.now := by
  have hSettled := animations_settleAll world.showAnimations
    (world.controller.animations.completions world.now)
  rw [animations_showAnimations] at hSettled
  unfold animationFrame
  dsimp only
  split
  · exact hSettled
  · exact hSettled

theorem animations_frameCommitted :
    world.frameCommitted.controller.animations = world.controller.animations := by
  unfold frameCommitted
  dsimp only
  split
  · rfl
  · split
    · show (World.notifyActive _ .displayBlanked).controller.animations = _
      rw [animations_of_silent (silent_notifyActive ..)]
    · rfl

end Animations

/-! ## What the host delivers -/

namespace Arriving

variable {world after : World}

theorem of_standing (hStanding : after.standing = world.standing)
    (hAnimations : after.controller.animations = world.controller.animations)
    (h : world.Arriving) : after.Arriving where
  running := by
    rw [hAnimations]
    exact h.running
  next := by
    rw [show after.controller.animateChange = world.controller.animateChange from
      congrArg (·.controller.animateChange) hStanding,
      show after.controller.animationDuration = world.controller.animationDuration from
      congrArg (·.controller.animationDuration) hStanding]
    exact h.next
  fade := by
    rw [show after.controller.catalog = world.controller.catalog from
      congrArg (·.controller.catalog) hStanding]
    exact h.fade

theorem of_silent (hSilent : after.silent = world.silent) (h : world.Arriving) :
    after.Arriving :=
  of_standing (standing_of_silent hSilent) (animations_of_silent hSilent) h

theorem draw (h : world.Arriving) (layer : Layer) (look : Look) :
    (world.draw layer look).Arriving :=
  of_standing (standing_draw world layer look) (animations_draw world layer look) h

theorem settle (h : world.Arriving) (registration : Option Registration) :
    (world.settle registration).Arriving :=
  of_standing (standing_settle world registration) (animations_settle world registration) h

theorem stopAnimation (h : world.Arriving) (layer : Layer) :
    (world.stopAnimation layer).Arriving where
  running other animation hRuns := by
    by_cases hSame : other = layer
    · subst hSame
      cases (Animations.get?_cancel_self ..).symm.trans hRuns
    · exact h.running other animation ((PerLayer.get_set_of_ne _ _ hSame).symm.trans hRuns)
  next := h.next
  fade := h.fade

theorem startAnimation (h : world.Arriving) (hAnimates : world.controller.animateChange = true)
    (layer : Layer) (current : Look) : (world.startAnimation layer current).Arriving where
  running other animation hRuns := by
    by_cases hSame : other = layer
    · subst hSame
      obtain rfl := Option.some.inj ((Animations.get?_start_self ..).symm.trans hRuns)
      exact h.next hAnimates
    · exact h.running other animation ((PerLayer.get_set_of_ne _ _ hSame).symm.trans hRuns)
  next := h.next
  fade := h.fade

theorem moveToTarget (h : world.Arriving) (layer : Layer) (current : Look) :
    (world.moveToTarget layer current).Arriving := by
  unfold World.moveToTarget
  dsimp only
  split
  · split
    · next hAnimates => exact h.startAnimation hAnimates layer current
    · exact h.draw layer _
  · exact h

theorem updateLayer (h : world.Arriving) (layer : Layer) :
    (world.updateLayer layer).Arriving := by
  have hStopped := h.stopAnimation layer
  have hTold := of_silent (silent_notifyBlankedOnce _) hStopped
  unfold World.updateLayer
  split
  · exact h
  · dsimp only
    split
    · exact hStopped
    · split
      · exact { hStopped.draw .front ⟨1, Color.black⟩ with }
      · apply moveToTarget
        split
        · exact { hTold with }
        · exact hTold

theorem applyPalette (h : world.Arriving) (layer : Layer) :
    (world.applyPalette layer).Arriving :=
  { h with }

theorem update (h : world.Arriving) : world.update.Arriving := by
  have hReady : world.refreshPalette.hideBehind.Arriving := by
    unfold hideBehind refreshPalette
    split
    · dsimp only
      split
      · exact { h with }
      · exact { h with }
    · dsimp only
      split
      · exact { h with }
      · exact h
  have hMain := ((hReady.updateLayer .front).updateLayer .behind).updateLayer .notifications
  have hLayers := (hMain.applyPalette .auxiliary).updateLayer .auxiliary
  exact of_silent (silent_dispatchVisibility _) (hLayers.settle _)

theorem preDraw (h : world.Arriving) : world.preDraw.Arriving := by
  unfold World.preDraw
  apply update
  apply of_silent (silent_notifyActive _ .start)
  exact { h with }

theorem reveal (h : world.Arriving) : world.reveal.Arriving := by
  unfold World.reveal
  split
  · exact h
  · apply update
    exact { h with }

theorem runTask (h : world.Arriving) (task : Task) : (world.runTask task).Arriving := by
  cases task with
  | pendingFrame =>
      exact of_standing (standing_frameCommitted world) (animations_frameCommitted world) h
  | blankingTransition => exact h.reveal
  | scheduleWallpaperTimeout => exact { h with }
  | cancelWallpaperTimeout => exact { h with }

theorem hideWallpaper (h : world.Arriving) : world.hideWallpaper.Arriving := by
  have scheduled : ∀ w : World, w.Arriving → w.scheduleUpdate.Arriving := by
    intro w h
    unfold scheduleUpdate
    split
    · exact h
    · exact { h with }
  unfold World.hideWallpaper
  split
  · apply scheduled
    exact ⟨h.running, fun _ => h.fade, h.fade⟩
  · exact h

theorem animationFrame (h : world.Arriving) : world.animationFrame.Arriving where
  running layer animation hRuns := by
    rw [animations_animationFrame, Animations.get?_advance] at hRuns
    exact h.running layer animation (Animations.eq_of_keep? hRuns).1
  next := by
    rw [show world.animationFrame.controller.animateChange = world.controller.animateChange from
      congrArg (·.controller.animateChange) (standing_animationFrame world),
      show world.animationFrame.controller.animationDuration = world.controller.animationDuration
      from congrArg (·.controller.animationDuration) (standing_animationFrame world)]
    exact h.next
  fade := by
    rw [show world.animationFrame.controller.catalog = world.controller.catalog from
      congrArg (·.controller.catalog) (standing_animationFrame world)]
    exact h.fade

end Arriving

/-- What the host delivers starts no animation but those that arrive. -/
theorem Step.arriving {before after : World} {event : Event} (step : Step before event after)
    (handed : Moment.Handed ⟨before, event, after⟩) (h : before.Arriving) : after.Arriving := by
  cases step with
  | request accepted => exact absurd rfl (handed.2 _)
  | clock time => exact absurd rfl (handed.1 _)
  | alarm due => exact Arriving.hideWallpaper { h with }
  | task due =>
      refine Arriving.runTask ?_ _
      exact { h with }
  | animationFrame requested => exact Arriving.animationFrame { h with }
  | preDraw listening => exact h.preDraw

theorem LeadsBy.arriving {start last : World} (leads : LeadsBy Moment.Handed start last)
    (h : start.Arriving) : last.Arriving := by
  obtain ⟨moments, run, handed⟩ := leads
  exact (run.invariant_while Arriving Moment.Handed
    (fun _ _ _ h step handed => step.arriving handed h) h handed).1

end World

end Scrim
