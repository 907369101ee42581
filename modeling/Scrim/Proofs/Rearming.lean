import Scrim.Proofs.Occlusion

/-!
# Bringing the wallpaper back

Once the wallpaper has had its time, every update of a dozing display hides it behind a solid layer
(`World.behind_update`). A pull during a pulse is to bring it back: the time starts over, the order
to arm the alarm is posted, and updates show what the gesture reveals (`World.Restored`).

A pull does all this where it is drawn (`World.restored_followGesture`). While an update is pending
a pull is not drawn, and then it leaves the wallpaper to its fate (`World.applyGesture_of_pending`),
so the update hides it over the gesture. `World.restored_throughout_iff` says that pulls bring the
wallpaper back exactly if none comes while an update is pending, and
`World.pull_before_update_overruled` is one that does.
-/

namespace Scrim

namespace Pull

theorem move_eq {pull : Pull} {gesture : Expansion} (moves : (pull.move gesture).2 = true) :
    pull.move gesture = (pull.place gesture, true) := by
  rcases pull.move_cases gesture with hMove | hMove
  · rw [hMove] at moves
    cases moves
  · exact hMove

theorem isTracked_pulsing (pull : Pull) : pull.isTracked .pulsing = true := by
  cases pull with
  | shade fraction => rfl
  | quickSettings fraction panelBottom => rfl

end Pull

namespace World

variable {world : World}

/-! ## Gestures -/

/-- A gesture that is drawn brings back a wallpaper that has had its time. -/
theorem restored_followGesture (expired : world.controller.wallpaperTimedOut = true) :
    world.followGesture.controller.wallpaperTimedOut = false ∧
      world.followGesture.host.scheduler =
        world.host.scheduler.post .scheduleWallpaperTimeout := by
  unfold followGesture
  simp only [List.foldl_cons, List.foldl_nil]
  generalize hMoved : (((world.followTarget .behind).followTarget .notifications).followTarget
    .front).followTarget .auxiliary = moved
  have hStanding : moved.standing = world.standing := by
    rw [← hMoved]
    simp only [standing_followTarget]
  have hAgenda : moved.agenda = world.agenda := by
    rw [← hMoved]
    simp only [agenda_followTarget]
  have hExpired : moved.controller.wallpaperTimedOut = true :=
    (congrArg (·.controller.wallpaperTimedOut) hStanding).trans expired
  have hScheduler : moved.host.scheduler = world.host.scheduler := congrArg Agenda.scheduler hAgenda
  have hRestored : (moved.dispatchState moved.host.surfaces.behind.alpha).restoreWallpaper =
      { moved.dispatchState moved.host.surfaces.behind.alpha with
        controller.wallpaperTimedOut := false
        host.scheduler := moved.host.scheduler.post .scheduleWallpaperTimeout } :=
    if_pos hExpired
  rw [hRestored, ← hScheduler]
  exact ⟨rfl, rfl⟩

/-- While an update is pending, a gesture is only laid over the targets. -/
theorem applyGesture_of_pending (pending : world.controller.updatePending = true) :
    world.applyGesture.world = world.overlayGesture.world := by
  have hPending : world.overlayGesture.world.controller.updatePending = true := pending
  unfold applyGesture
  split
  · next hOverlay => rw [hOverlay]
  · next hOverlay =>
    rw [hOverlay] at hPending ⊢
    exact congrArg Outcome.world (if_pos hPending)

theorem applyGesture_of_updated (updated : world.controller.updatePending = false)
    (accepted : world.applyGesture.error = none) :
    world.applyGesture.world = world.overlayGesture.world.followGesture := by
  have hUpdated : ¬world.overlayGesture.world.controller.updatePending = true :=
    Bool.not_eq_true _ ▸ updated
  unfold applyGesture at accepted ⊢
  split
  · next hOverlay =>
    rw [hOverlay] at accepted
    cases accepted
  · next hOverlay =>
    rw [hOverlay] at hUpdated ⊢
    exact congrArg Outcome.world (if_neg hUpdated)

/-- A pull that is followed moves the gesture and lays it over the targets. -/
theorem run_eq_applyGesture {pull : Pull}
    (tracked : pull.isTracked world.controller.state = true)
    (counts : world.controller.expansion.affectsAlpha = true)
    (moves : (pull.move world.controller.expansion).2 = true) : ∃ moved : World,
    moved.controller.state = world.controller.state ∧
    moved.controller.wallpaperTimedOut = world.controller.wallpaperTimedOut ∧
    moved.controller.updatePending = world.controller.updatePending ∧
    moved.host.scheduler = world.host.scheduler ∧
    pull.operation.run world = moved.applyGesture := by
  have hMove := Pull.move_eq moves
  have hFollowed : (pull.isTracked world.controller.state &&
      (pull.place world.controller.expansion).affectsAlpha) = true := by
    rw [tracked, pull.affectsAlpha_place, counts]
    rfl
  cases pull with
  | shade fraction =>
      have hSet : world.controller.expansion.setPanel fraction =
          .ok (Pull.place (.shade fraction) world.controller.expansion, true) := by
        unfold Pull.move at hMove
        dsimp only at hMove
        split at hMove
        · next moved hMoved => rw [hMoved, hMove]
        · exact absurd (congrArg Prod.snd hMove) Bool.false_ne_true
      refine ⟨{ world with
        controller.expansion := Pull.place (.shade fraction) world.controller.expansion },
        rfl, rfl, rfl, rfl, ?_⟩
      simp only [Pull.operation, Operation.run, setPanelExpansion, hSet]
      exact if_pos hFollowed
  | quickSettings fraction panelBottom =>
      obtain ⟨targets, surfaces, -, hNotified⟩ :=
        followNotifications_eq world fraction panelBottom
      have hNumber : fraction.isNaN = false := by
        by_contra hNaN
        rw [Bool.not_eq_false] at hNaN
        simp only [Pull.move, Expansion.setQuickSettings, hNaN, Bool.true_or, if_true] at moves
        cases moves
      refine ⟨{ world with
        controller.expansion :=
          Pull.place (.quickSettings fraction panelBottom) world.controller.expansion
        controller.targets := targets
        host.surfaces := surfaces }, rfl, rfl, rfl, rfl, ?_⟩
      simp only [Pull.operation, Operation.run, setQuickSettings, hNumber, Bool.false_eq_true,
        if_false, hNotified]
      simp only [Pull.move] at hMove
      rw [hMove]
      exact if_pos hFollowed

/-! ## Pulls during a pulse -/

/-- During a pulse whose wallpaper has had its time, a pull moves the gesture. -/
structure Recalls (world : World) (pull : Pull) : Prop where
  pulses : world.controller.state = .pulsing
  counts : world.controller.expansion.affectsAlpha = true
  expired : world.controller.wallpaperTimedOut = true
  moves : (pull.move world.controller.expansion).2 = true

instance (world : World) (pull : Pull) : Decidable (world.Recalls pull) :=
  decidable_of_iff (world.controller.state = .pulsing ∧
      world.controller.expansion.affectsAlpha = true ∧
      world.controller.wallpaperTimedOut = true ∧
      (pull.move world.controller.expansion).2 = true)
    ⟨fun ⟨pulses, counts, expired, moves⟩ => ⟨pulses, counts, expired, moves⟩,
      fun h => ⟨h.pulses, h.counts, h.expired, h.moves⟩⟩

/-- The wallpaper is back: its time starts over, and an update leaves behind the layers what the
gesture reveals, unless it has an activity to hide. -/
structure Restored (before after : World) : Prop where
  shown : after.controller.wallpaperTimedOut = false
  rearmed : after.host.scheduler = before.host.scheduler.post .scheduleWallpaperTimeout
  revealed : after.controller.keyguardOccluded = false →
    after.update.controller.targets.alpha.behind =
      after.controller.expansion.revealedAlpha .pulsing after.controller.catalog

namespace Recalls

variable {pull : Pull}

theorem tracked (h : world.Recalls pull) : pull.isTracked world.controller.state = true := by
  rw [h.pulses]
  exact pull.isTracked_pulsing

theorem dozes (h : world.Recalls pull) : world.controller.state.isLowPower = true := by
  rw [h.pulses]
  rfl

theorem draws (h : world.Recalls pull) (updated : world.controller.updatePending = false) :
    pull.operation.drawsGesture world = true := by
  rw [drawsGesture_pull pull updated, Pull.move_eq h.moves, h.tracked, pull.affectsAlpha_place,
    h.counts]
  rfl

/-- A pull while no update is pending brings the wallpaper back. -/
theorem restored (h : world.Recalls pull) (updated : world.controller.updatePending = false)
    (accepted : (pull.operation.run world).error = none) :
    world.Restored (pull.operation.run world).world := by
  have hGestured := gestured_pull pull updated
  have hState := hGestured.state
  have hBehind := hGestured.behind h.dozes
  rw [h.draws updated, if_pos (by rw [h.pulses]; rfl)] at hBehind
  obtain ⟨moved, -, hExpired, hPending, hScheduler, hRun⟩ :=
    run_eq_applyGesture h.tracked h.counts h.moves
  rw [hRun] at accepted hState hBehind ⊢
  have hFollowed := applyGesture_of_updated (hPending.trans updated) accepted
  obtain ⟨hShown, hRearmed⟩ :=
    @restored_followGesture moved.overlayGesture.world (hExpired.trans h.expired)
  rw [← hFollowed] at hShown hRearmed
  refine ⟨hShown, hRearmed.trans (congrArg (·.post .scheduleWallpaperTimeout) hScheduler), ?_⟩
  intro hVisible
  rw [behind_update, hShown, hVisible, Bool.or_self, Bool.and_false, if_neg Bool.false_ne_true]
  exact hBehind

/-- A pull while an update is pending leaves the wallpaper to be hidden, and that update hides it
over the gesture. -/
theorem overruled (h : world.Recalls pull) (pending : world.controller.updatePending = true) :
    (pull.operation.run world).world.controller.wallpaperTimedOut = true ∧
      (pull.operation.run world).world.host.scheduler = world.host.scheduler ∧
      (pull.operation.run world).world.preDraw.controller.targets.alpha.behind = 1 := by
  obtain ⟨moved, hState, hExpired, hPending, hScheduler, hRun⟩ :=
    run_eq_applyGesture h.tracked h.counts h.moves
  have hOverlaid : moved.overlayGesture.world.controller.wallpaperTimedOut = true :=
    hExpired.trans h.expired
  have hDozes : moved.overlayGesture.world.controller.state.isLowPower = true :=
    (congrArg State.isLowPower hState).trans h.dozes
  rw [hRun, applyGesture_of_pending (hPending.trans pending), behind_preDraw]
  refine ⟨hOverlaid, hScheduler, if_pos ?_⟩
  rw [hOverlaid, hDozes]
  rfl

end Recalls

/-! ## Whole runs -/

def Moment.Recalls (moment : Moment) : Prop :=
  ∃ pull : Pull, moment.event = .request pull.operation ∧ moment.before.Recalls pull

theorem Step.restored_iff {before after : World} {event : Event} (step : Step before event after)
    (recalls : Moment.Recalls ⟨before, event, after⟩) :
    before.Restored after ↔ before.controller.updatePending = false := by
  obtain ⟨pull, hEvent, hRecalls⟩ := recalls
  obtain rfl : event = .request pull.operation := hEvent
  cases step with
  | request accepted =>
      constructor
      · intro hRestored
        by_contra hPending
        rw [Bool.not_eq_false] at hPending
        exact absurd (hRestored.shown.symm.trans (hRecalls.overruled hPending).1) nofun
      · exact fun updated => hRecalls.restored updated accepted

/-- In every run, all pulls that are to bring the wallpaper back do so, exactly if none of them
comes while an update is pending. -/
theorem restored_throughout_iff {start last : World} {moments : List Moment}
    (run : Run start moments last) :
    (∀ moment ∈ moments, moment.Recalls → moment.before.Restored moment.after) ↔
      ∀ moment ∈ moments, moment.Recalls → moment.before.controller.updatePending = false := by
  constructor
  · intro hRestored moment hMem recalls
    exact ((run.step moment hMem).restored_iff recalls).mp (hRestored moment hMem recalls)
  · intro hUpdated moment hMem recalls
    exact ((run.step moment hMem).restored_iff recalls).mpr (hUpdated moment hMem recalls)

def expiredPulse : List Simulation.Call :=
  [.perform (.panelExpansion 0), .perform (.transition .pulsing none), .advance 0,
    .perform .wallpaperTimeout]

def hiddenPulse : List Simulation.Call :=
  [.perform (.panelExpansion 0), .perform (.transition .pulsing none),
    .perform .wallpaperTimeout, .advance 0]

set_option maxRecDepth 100000 in
/-- Once the update has hidden the wallpaper, a pull brings it back. -/
theorem restored_throughout_after_update : ∃ simulation last,
    Simulation.play {} {} hiddenPulse = some simulation ∧
    Run simulation.world [⟨simulation.world, .request (.panelExpansion 0.125), last⟩] last ∧
    Moment.Recalls ⟨simulation.world, .request (.panelExpansion 0.125), last⟩ ∧
    simulation.world.controller.updatePending = false ∧ simulation.world.Restored last := by
  have hPlayed : (Simulation.play {} {} hiddenPulse).any (fun pulse =>
      pulse.world.Recalls (.shade 0.125) &&
        ((Operation.panelExpansion 0.125).run pulse.world).error.isNone &&
        !pulse.world.controller.updatePending) = true := by
    decide +kernel
  obtain ⟨pulse, hPulse, hFacts⟩ := (Option.any_eq_true _ _).mp hPlayed
  simp only [Bool.and_eq_true, Bool.not_eq_true', decide_eq_true_eq,
    Option.isNone_iff_eq_none] at hFacts
  obtain ⟨⟨hRecalls, hAccepted⟩, hUpdated⟩ := hFacts
  have hRun : Run pulse.world
      [⟨pulse.world, .request (.panelExpansion 0.125), _⟩] _ := Run.nil.snoc (.request hAccepted)
  have hMoment (after : World) :
      Moment.Recalls ⟨pulse.world, .request (.panelExpansion 0.125), after⟩ :=
    ⟨.shade 0.125, rfl, hRecalls⟩
  refine ⟨pulse, _, hPulse, hRun, hMoment _, hUpdated, ?_⟩
  refine (restored_throughout_iff hRun).mpr ?_ _ List.mem_cons_self (hMoment _)
  intro moment hMem _
  rw [List.mem_singleton.mp hMem]
  exact hUpdated

set_option maxRecDepth 100000 in
/-- A pull that comes before the update does not bring the wallpaper back: nothing is queued, and
the update makes the layer solid that the gesture has just opened. -/
theorem pull_before_update_overruled : ∃ simulation pulled,
    Simulation.play {} {} expiredPulse = some simulation ∧
    Simulation.play {} {} (expiredPulse ++ [.perform (.panelExpansion 0.125)]) = some pulled ∧
    simulation.world.Recalls (.shade 0.125) ∧ ¬simulation.world.Restored pulled.world ∧
    pulled.world.controller.wallpaperTimedOut = true ∧
    pulled.world.host.scheduler.queue = [] ∧
    pulled.world.controller.targets.alpha.behind ≠ 1 ∧
    pulled.world.preDraw.controller.targets.alpha.behind = 1 := by
  have hPlayed : (Simulation.play {} {} expiredPulse).any (fun pulse =>
      let pulled := pulse.world.outlook.pull (.shade 0.125)
      pulse.world.Recalls (.shade 0.125) &&
        ((Operation.panelExpansion 0.125).run pulse.world).error.isNone &&
        pulse.world.controller.updatePending && pulse.world.host.scheduler.queue.isEmpty &&
        (pulled.targets.alpha.behind ≠ 1)) = true := by
    decide +kernel
  obtain ⟨pulse, hPulse, hFacts⟩ := (Option.any_eq_true _ _).mp hPlayed
  simp only [Bool.and_eq_true, List.isEmpty_iff, decide_eq_true_eq, Option.isNone_iff_eq_none,
    ← outlook_pull] at hFacts
  obtain ⟨⟨⟨⟨hRecalls, hAccepted⟩, hPending⟩, hEmpty⟩, hOpened⟩ := hFacts
  obtain ⟨pulled, hPlay, hPulled⟩ := Simulation.exists_play_perform hPulse hAccepted
  obtain ⟨hExpired, hScheduler, hOverruled⟩ := hRecalls.overruled hPending
  have hOperation : (Pull.shade 0.125).operation = .panelExpansion 0.125 := rfl
  rw [hOperation] at hExpired hScheduler hOverruled
  refine ⟨pulse, pulled, hPulse, hPlay, hRecalls, ?_⟩
  rw [hPulled]
  refine ⟨fun hRestored => ?_, hExpired, ?_, hOpened, hOverruled⟩
  · exact absurd (hExpired.symm.trans hRestored.shown) nofun
  · exact (congrArg Scheduler.queue hScheduler).trans hEmpty

end World

end Scrim
