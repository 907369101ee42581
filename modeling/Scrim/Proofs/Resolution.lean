import Scrim.Proofs.Notifications
import Scrim.Proofs.Outlook

/-!
# Targets are resolved by transitions

A transition resolves targets and an update brings the stored ones to the surfaces; it does not
resolve them again. All that happens to the targets of a locked display that nobody asks anything of
is that an update hides what is behind a dozing one, and it does so by overwriting the target
(`Outlook.Hid`).

Two requests leave more than that to an update. An activity that leaves the lock screen does not
bring back the target that it was hidden with (`World.occlusion_restores_iff`), and another opacity
of the lock screen does not become the target (`World.keyguard_alpha_applies_iff`).
-/

namespace Scrim

/-- Targets are left alone, or hide what is behind a dozing display. -/
inductive Outlook.Hid (outlook : Outlook) : Outlook → Prop where
  | kept : Hid outlook outlook
  | hidden (dozes : outlook.state.isLowPower = true) :
      Hid outlook { outlook with targets := outlook.targets.hidden }

/-- The lock screen resolves to its opacity under the gesture. -/
theorem Outlook.behind_resolve_keyguard (outlook : Outlook) :
    (outlook.resolve .keyguard).overlay.targets.alpha.behind =
      if outlook.expansion.affectsAlpha then
        outlook.expansion.revealedAlpha .keyguard outlook.catalog
      else outlook.catalog.keyguardAlpha := by
  have hKept : (outlook.resolve .keyguard).expansion = outlook.expansion := rfl
  unfold overlay Expansion.laid Expansion.apply
  rw [hKept]
  dsimp only
  cases outlook.expansion.affectsAlpha with
  | true => rfl
  | false => rfl

namespace Outlook.Hid

variable {outlook middle after : Outlook}

theorem trans (first : outlook.Hid middle) (second : middle.Hid after) : outlook.Hid after := by
  cases first with
  | kept => exact second
  | hidden dozes =>
      cases second with
      | kept => exact .hidden dozes
      | hidden _ => exact .hidden dozes

theorem state (hid : outlook.Hid after) : after.state = outlook.state := by
  cases hid with
  | kept => rfl
  | hidden dozes => rfl

/-- What shows in a state in which the device is awake stays as it is. -/
theorem eq_of_awake (hid : outlook.Hid after) (awake : outlook.state.isLowPower = false) :
    after = outlook := by
  cases hid with
  | kept => rfl
  | hidden dozes => exact absurd (awake.symm.trans dozes) Bool.false_ne_true

/-- What is hidden stays hidden. -/
theorem eq_of_hidden (hid : outlook.Hid after) (hides : outlook.targets.hidden = outlook.targets) :
    after = outlook := by
  cases hid with
  | kept => rfl
  | hidden dozes => rw [hides]

end Outlook.Hid

namespace World

def hides (world : World) : Bool :=
  let controller := world.controller
  controller.state.isLowPower && (controller.wallpaperTimedOut || controller.keyguardOccluded)

variable {world after : World}

/-! ## Updates -/

theorem outlook_hideBehind_of_hides (h : world.hides = true) :
    world.hideBehind.outlook = { world.outlook with targets := world.outlook.targets.hidden } := by
  have hHidden : world.hideBehind = { world with controller.targets.alpha :=
      { world.controller.targets.alpha with behind := 1 } } := if_pos h
  rw [hHidden]
  rfl

theorem outlook_hideBehind_of_not_hides (h : world.hides = false) :
    world.hideBehind.outlook = world.outlook := by
  have hKept : world.hideBehind = world := if_neg (ne_true_of_eq_false h)
  rw [hKept]

theorem hides_refreshPalette (world : World) : world.refreshPalette.hides = world.hides := by
  have hStanding (w : World) : w.hides = w.standing.hides := rfl
  rw [hStanding, standing_refreshPalette, hStanding world]
  unfold refresh
  split
  · rfl
  · rfl

/-- On a locked display an update does to the targets what hiding does. -/
theorem outlook_update_of_locked (locked : world.controller.state ≠ .unlocked) :
    world.update.outlook = world.refreshPalette.hideBehind.outlook := by
  have hLayers := outlook_updateLayers world
  have hReady : world.refreshPalette.hideBehind.outlook.state = world.controller.state := by
    unfold hideBehind
    dsimp only
    split
    · exact congrArg Outlook.state (outlook_refreshPalette world)
    · exact congrArg Outlook.state (outlook_refreshPalette world)
  have hState : world.updateLayers.controller.state = world.controller.state :=
    (congrArg Outlook.state hLayers).trans hReady
  rw [← hState] at locked
  unfold update
  dsimp only
  rw [outlook_of_silent (silent_dispatchVisibility _)]
  exact (outlook_settle_of_ne _ _ locked).trans hLayers

theorem outlook_update_of_hides (h : world.hides = true) :
    world.update.outlook = { world.outlook with targets := world.outlook.targets.hidden } := by
  have locked : world.controller.state ≠ .unlocked := by
    intro hUnlocked
    simp [hides, hUnlocked, State.isLowPower] at h
  rw [outlook_update_of_locked locked, outlook_hideBehind_of_hides, outlook_refreshPalette]
  rw [hides_refreshPalette]
  exact h

theorem hid_update (locked : world.controller.state ≠ .unlocked) :
    world.outlook.Hid world.update.outlook := by
  cases hHides : world.hides with
  | true =>
      rw [outlook_update_of_hides hHides]
      exact .hidden (Bool.and_eq_true_iff.mp hHides).1
  | false =>
      rw [outlook_update_of_locked locked, outlook_hideBehind_of_not_hides, outlook_refreshPalette]
      · exact .kept
      · rw [hides_refreshPalette]
        exact hHides

theorem hid_preDraw (locked : world.controller.state ≠ .unlocked) :
    world.outlook.Hid world.preDraw.outlook := by
  unfold preDraw
  dsimp only
  generalize hReady : { world with
    controller.updatePending := false
    host.surfaces := world.host.surfaces.modify .behind Surface.unlisten } = ready
  have hOutlook : (ready.notifyActive .start).outlook = world.outlook := by
    rw [outlook_of_silent (silent_notifyActive ..), ← hReady]
    rfl
  rw [← hOutlook]
  apply hid_update
  exact fun hUnlocked => locked ((congrArg Outlook.state hOutlook).symm.trans hUnlocked)

theorem hid_reveal (locked : world.controller.state ≠ .unlocked) :
    world.outlook.Hid world.reveal.outlook := by
  unfold reveal
  split
  · exact .kept
  · next phase hReveals =>
    exact @hid_update { world with controller.blanking := phase, controller.blankScreen := false }
      locked

/-! ## Host events -/

theorem outlook_frameCommitted (world : World) : world.frameCommitted.outlook = world.outlook := by
  unfold frameCommitted
  dsimp only
  split
  · rfl
  · next phase scheduler delay hCommits =>
    have hTold := outlook_of_silent (silent_notifyActive
      { world with controller.blanking := phase, host.scheduler := scheduler } .displayBlanked)
    split
    · exact hTold
    · rfl

theorem outlook_showAnimations (world : World) : world.showAnimations.outlook = world.outlook := by
  have shown (frames : List Frame) (w : World) :
      (frames.foldl (fun w frame => w.draw frame.layer frame.look) w).outlook = w.outlook := by
    induction frames generalizing w with
    | nil => rfl
    | cons frame rest ih => rw [List.foldl_cons, ih, outlook_draw]
  unfold showAnimations
  exact shown ..

theorem outlook_settleAll (locked : world.controller.state ≠ .unlocked)
    (completions : List Completion) : (world.settleAll completions).outlook = world.outlook := by
  induction completions generalizing world with
  | nil => rfl
  | cons completion rest ih =>
      have hFirst : ((world.settle completion.registration).dispatchVisibility).outlook =
          world.outlook :=
        (outlook_of_silent (silent_dispatchVisibility _)).trans
          (outlook_settle_of_ne world completion.registration locked)
      have hState := congrArg Outlook.state hFirst
      rw [settleAll, List.foldl_cons, ← settleAll, ih, hFirst]
      exact fun hUnlocked => locked (hState.symm.trans hUnlocked)

theorem outlook_animationFrame (locked : world.controller.state ≠ .unlocked) :
    world.animationFrame.outlook = world.outlook := by
  have hShown := outlook_showAnimations world
  have hState := congrArg Outlook.state hShown
  have hSettled := @outlook_settleAll world.showAnimations
    (fun hUnlocked => locked (hState.symm.trans hUnlocked))
    (world.controller.animations.completions world.now)
  unfold animationFrame
  dsimp only
  split
  · exact hSettled.trans hShown
  · exact hSettled.trans hShown

theorem outlook_hideWallpaper (world : World) : world.hideWallpaper.outlook = world.outlook := by
  unfold hideWallpaper
  split
  · exact outlook_scheduleUpdate _
  · rfl

theorem hid_runTask (locked : world.controller.state ≠ .unlocked) (task : Task) :
    world.outlook.Hid (world.runTask task).outlook := by
  cases task with
  | pendingFrame =>
      rw [runTask, outlook_frameCommitted]
      exact .kept
  | blankingTransition => exact hid_reveal locked
  | scheduleWallpaperTimeout => exact .kept
  | cancelWallpaperTimeout => exact .kept

/-! ## Waiting -/

/-- What nobody asks for resolves nothing. -/
theorem Step.hid {before after : World} {event : Event} (step : Step before event after)
    (locked : before.controller.state ≠ .unlocked)
    (unasked : Moment.Unasked ⟨before, event, after⟩) : before.outlook.Hid after.outlook := by
  cases step with
  | @request operation accepted => exact absurd rfl (unasked operation)
  | clock time => exact .kept
  | alarm due =>
      rw [outlook_hideWallpaper]
      exact .kept
  | @task task scheduler due =>
      exact @hid_runTask { before with host.scheduler := scheduler } locked task
  | animationFrame requested =>
      rw [outlook_animationFrame]
      · exact .kept
      · exact locked
  | preDraw listening => exact hid_preDraw locked

theorem LeadsBy.hid (waits : LeadsBy Moment.Unasked world after)
    (locked : world.controller.state ≠ .unlocked) : world.outlook.Hid after.outlook := by
  obtain ⟨moments, run, hUnasked⟩ := waits
  have kept (before : World) (event : Event) (after : World)
      (hBefore : world.outlook.Hid before.outlook) (step : Step before event after)
      (unasked : Moment.Unasked ⟨before, event, after⟩) : world.outlook.Hid after.outlook := by
    have hState : before.controller.state = world.controller.state := hBefore.state
    exact hBefore.trans (step.hid (fun hUnlocked => locked (hState.symm.trans hUnlocked)) unasked)
  exact (run.invariant_while (fun middle => world.outlook.Hid middle.outlook) _ kept .kept
    hUnasked).1

/-! ## Activities over the lock screen -/

/-- Quick settings ask nothing of the notifications layer. -/
def Moment.SparesNotifications (moment : Moment) : Prop :=
  moment.event.notificationsAlpha? moment.before = none

theorem Moment.Unasked.sparesNotifications {moment : Moment} (unasked : moment.Unasked) :
    moment.SparesNotifications := by
  unfold SparesNotifications Event.notificationsAlpha?
  split
  · next hEvent => exact absurd hEvent (unasked _)
  · rfl

theorem LeadsBy.target_notifications (spares : LeadsBy Moment.SparesNotifications world after)
    (steady : world.agenda.Steady) : after.target .notifications = world.target .notifications := by
  obtain ⟨moments, run, hSpared⟩ := spares
  have hKept := run.invariant_while
    (fun middle =>
      middle.agenda.Steady ∧ middle.target .notifications = world.target .notifications)
    Moment.SparesNotifications (by
      intro before event after hBefore step spared
      have hTarget := step.target_notifications hBefore.1
      rw [show event.notificationsAlpha? before = none from spared] at hTarget
      exact ⟨step.steady hBefore.1, hTarget.trans hBefore.2⟩) ⟨steady, rfl⟩ hSpared
  exact hKept.1.2

/-- What an activity hides it leaves hidden when it goes, however long it was there. -/
theorem outlook_uncovered {later : World} (dozes : world.controller.state.isLowPower = true)
    (waits : LeadsBy Moment.Unasked (world.setKeyguardOccluded true) later) :
    (later.setKeyguardOccluded false).outlook = { world.outlook with
      occluded := false, targets := world.outlook.targets.hidden } := by
  have locked (w : World) (h : w.outlook.state = world.outlook.state) :
      w.controller.state ≠ .unlocked := by
    intro hUnlocked
    have hDozes : w.outlook.state.isLowPower = true := by
      rw [h]
      exact dozes
    rw [show w.outlook.state = .unlocked from hUnlocked] at hDozes
    cases hDozes
  have hCovered : (world.setKeyguardOccluded true).outlook = { world.outlook with
      occluded := true, targets := world.outlook.targets.hidden } := by
    apply outlook_update_of_hides
    show (world.controller.state.isLowPower && (world.controller.wallpaperTimedOut || true)) = true
    rw [dozes, Bool.or_true]
    rfl
  generalize world.setKeyguardOccluded true = covered at waits hCovered
  have hWaited : later.outlook = covered.outlook := by
    have hHid := waits.hid (locked covered (by rw [hCovered]))
    apply hHid.eq_of_hidden
    rw [hCovered]
    rfl
  rw [hCovered] at hWaited
  have hGone : outlook { later with controller.keyguardOccluded := false } =
      { world.outlook with occluded := false, targets := world.outlook.targets.hidden } :=
    congrArg (fun outlook : Outlook => { outlook with occluded := false }) hWaited
  have hHid := @hid_update { later with controller.keyguardOccluded := false }
    (locked later (by rw [hWaited]))
  rw [hGone] at hHid
  exact hHid.eq_of_hidden rfl

theorem step_setKeyguardOccluded (world : World) (occluded : Bool) :
    Step world (.request (.keyguardOccluded occluded)) (world.setKeyguardOccluded occluded) := by
  have hRun : (Operation.keyguardOccluded occluded).run world =
      { world := world.setKeyguardOccluded occluded } := rfl
  have hStep := @Step.request world (.keyguardOccluded occluded) (by rw [hRun])
  rw [hRun] at hStep
  dsimp only at hStep
  exact hStep

theorem target_notifications_uncovered {later : World} (steady : world.agenda.Steady)
    (waits : LeadsBy Moment.Unasked (world.setKeyguardOccluded true) later) :
    (later.setKeyguardOccluded false).target .notifications = world.target .notifications := by
  have hCovers := step_setKeyguardOccluded world true
  have hUncovers := step_setKeyguardOccluded later false
  generalize world.setKeyguardOccluded true = covered at hCovers waits
  generalize later.setKeyguardOccluded false = last at hUncovers ⊢
  have first : LeadsBy Moment.SparesNotifications world covered :=
    (LeadsBy.refl world).step hCovers rfl
  have second := first.trans (waits.mono fun _ unasked => unasked.sparesNotifications)
  exact (second.step hUncovers rfl).target_notifications steady

/-- An activity over a dozing display leaves behind, when it goes, the target that hid it. So all
targets are what they were before it came exactly if they hid what is behind even then. -/
theorem occlusion_restores_iff {settings : Settings} {options : SimulationOptions}
    {world later : World} (reachable : Reachable settings options world)
    (dozes : world.controller.state.isLowPower = true)
    (waits : LeadsBy Moment.Unasked (world.setKeyguardOccluded true) later) :
    (∀ layer, (later.setKeyguardOccluded false).target layer =
      if layer = .behind then { world.target .behind with alpha := 1 } else world.target layer) ∧
    ((∀ layer, (later.setKeyguardOccluded false).target layer = world.target layer) ↔
      (world.target .behind).alpha = 1) := by
  have hTargets := congrArg Outlook.targets (outlook_uncovered dozes waits)
  have hNotifications := target_notifications_uncovered reachable.driven.steady waits
  generalize later.setKeyguardOccluded false = last at hTargets hNotifications ⊢
  have hLayers (layer : Layer) : last.target layer =
      if layer = .behind then { world.target .behind with alpha := 1 } else world.target layer := by
    by_cases hLayer : layer = .notifications
    · rw [hLayer]
      exact hNotifications
    · rw [target_eq_outlook last hLayer, hTargets]
      cases layer with
      | notifications => exact absurd rfl hLayer
      | _ => rfl
  refine ⟨hLayers, ?_, ?_⟩
  · intro hSame
    exact congrArg Look.alpha ((hSame .behind).symm.trans (hLayers .behind))
  · intro hHid layer
    rw [hLayers]
    split
    · next hBehind => rw [hBehind, ← hHid]
    · rfl

def fadelessDoze : Settings where
  doze := { alwaysOn := true, controlsScreenOff := false }

set_option maxRecDepth 100000 in
/-- Without an ambient wallpaper the always-on display hides what is behind by itself. -/
theorem occlusion_restores_solid_doze : ∃ simulation waited : Simulation,
    Simulation.play fadelessDoze {} [.perform (.transition .aod none), .advance 0] =
      some simulation ∧
    simulation.world.controller.state = .aod ∧
    { simulation with world := simulation.world.setKeyguardOccluded true }.advance Time.perSecond =
      some waited ∧
    ∀ layer, (waited.world.setKeyguardOccluded false).target layer =
      simulation.world.target layer := by
  have hPlayed : (Simulation.play fadelessDoze {}
      [.perform (.transition .aod none), .advance 0]).any
      (fun simulation => (simulation.world.controller.state = .aod) &&
        ((simulation.world.target .behind).alpha = 1) &&
        ({ simulation with world := simulation.world.setKeyguardOccluded true }.advance
          Time.perSecond).isSome) = true := by
    decide +kernel
  obtain ⟨simulation, hPlay, hLast⟩ := (Option.any_eq_true _ _).mp hPlayed
  simp only [Bool.and_eq_true, decide_eq_true_eq] at hLast
  obtain ⟨⟨hState, hHid⟩, hWaits⟩ := hLast
  obtain ⟨waited, hWaited⟩ := Option.isSome_iff_exists.mp hWaits
  have dozes : simulation.world.controller.state.isLowPower = true := by
    rw [hState]
    rfl
  have hRestored := occlusion_restores_iff (Simulation.reached_play hPlay).reachable dozes
    (Simulation.unasked_advance hWaited)
  exact ⟨simulation, waited, hPlay, hState, hWaited, hRestored.2.mpr hHid⟩

set_option maxRecDepth 100000 in
/-- The ambient wallpaper of an always-on display is gone once an activity has come and gone, long
before it had its time. -/
theorem occlusion_forgets_wallpaper : ∃ before last : Simulation,
    Simulation.play fadelessDoze {} [.perform (.ambientWallpaper true),
      .perform (.transition .aod none), .advance 0] = some before ∧
    Simulation.callAll [.perform (.keyguardOccluded true), .advance Time.perSecond,
      .perform (.keyguardOccluded false)] before = some last ∧
    before.world.controller.state = .aod ∧ before.world.controller.keyguardOccluded = false ∧
    before.world.controller.blanking = .idle ∧ last.world.controller.wallpaperTimedOut = false ∧
    (before.world.target .behind).alpha = 0 ∧ (last.world.target .behind).alpha = 1 := by
  have hPlayed : (Simulation.play fadelessDoze {} [.perform (.ambientWallpaper true),
      .perform (.transition .aod none), .advance 0]).any (fun before =>
        (Simulation.callAll [.perform (.keyguardOccluded true), .advance Time.perSecond,
          .perform (.keyguardOccluded false)] before).any fun last =>
            (before.world.controller.state = .aod) &&
            (before.world.controller.keyguardOccluded = false) &&
            (before.world.controller.blanking = .idle) &&
            (last.world.controller.wallpaperTimedOut = false) &&
            ((before.world.target .behind).alpha = 0) &&
            (last.world.target .behind).alpha = 1) = true := by
    decide +kernel
  obtain ⟨before, hPlay, hCalls⟩ := (Option.any_eq_true _ _).mp hPlayed
  obtain ⟨last, hCalled, hLast⟩ := (Option.any_eq_true _ _).mp hCalls
  simp only [Bool.and_eq_true, decide_eq_true_eq] at hLast
  obtain ⟨⟨⟨⟨⟨hState, hOccluded⟩, hIdle⟩, hTimely⟩, hBefore⟩, hAfter⟩ := hLast
  exact ⟨before, last, hPlay, hCalled, hState, hOccluded, hIdle, hTimely, hBefore, hAfter⟩

/-! ## The opacity of the lock screen -/

/-- Another opacity of the lock screen does not move any target, with or without an update. -/
theorem outlook_preDraw_keyguardAlpha {later : World} {alpha : Float32}
    (locked : world.controller.state = .keyguard) (number : alpha.isNaN = false)
    (waits : LeadsBy Moment.Unasked (world.setKeyguardAlpha alpha).world later) :
    later.preDraw.outlook = { world.outlook with
      catalog := { world.controller.catalog with keyguardAlpha := alpha } } := by
  have hAsked : (world.setKeyguardAlpha alpha).world.outlook = { world.outlook with
      catalog := { world.controller.catalog with keyguardAlpha := alpha } } := by
    unfold setKeyguardAlpha
    rw [number, if_neg Bool.false_ne_true]
    exact outlook_scheduleUpdate { world with controller.catalog.keyguardAlpha := alpha }
  generalize (world.setKeyguardAlpha alpha).world = asked at waits hAsked
  have hState : asked.controller.state = .keyguard := (congrArg Outlook.state hAsked).trans locked
  have hWaited := waits.hid (by rw [hState]; exact nofun)
  have hLater : later.controller.state = .keyguard := hWaited.state.trans hState
  have hDrawn := hWaited.trans (hid_preDraw (by rw [hLater]; exact nofun))
  rw [← hAsked]
  apply hDrawn.eq_of_awake
  rw [show asked.outlook.state = .keyguard from hState]
  rfl

/-- Another opacity of the lock screen does not move the target of the behind layer, so after the
update that it asks for the target is what entering the lock screen would resolve exactly if it was
that before. -/
theorem keyguard_alpha_applies_iff {world later : World} {alpha : Float32}
    (locked : world.controller.state = .keyguard) (number : alpha.isNaN = false)
    (waits : LeadsBy Moment.Unasked (world.setKeyguardAlpha alpha).world later) :
    later.preDraw.target .behind = world.target .behind ∧
    ((later.preDraw.target .behind).alpha =
        (later.preDraw.outlook.resolve .keyguard).overlay.targets.alpha.behind ↔
      (world.target .behind).alpha =
        if world.controller.expansion.affectsAlpha then
          world.controller.expansion.revealedAlpha .keyguard
            { world.controller.catalog with keyguardAlpha := alpha }
        else alpha) := by
  have hDrawn := outlook_preDraw_keyguardAlpha locked number waits
  generalize later.preDraw = last at hDrawn ⊢
  have hMain : Layer.behind ≠ .notifications := nofun
  have hTarget : last.target .behind = world.target .behind := by
    rw [target_eq_outlook last hMain, target_eq_outlook world hMain, hDrawn]
  have hResolved := last.outlook.behind_resolve_keyguard
  rw [hDrawn] at hResolved
  rw [hTarget, hDrawn, hResolved]
  exact ⟨rfl, Iff.rfl⟩

set_option maxRecDepth 100000 in
/-- Where the shade is away, the behind layer has no opacity of its own, whatever is set. -/
theorem keyguard_alpha_applies_under_gesture : ∃ simulation waited : Simulation,
    Simulation.play {} {} [.perform (.panelExpansion 0), .perform (.transition .keyguard none),
      .advance 0] = some simulation ∧
    simulation.world.controller.state = .keyguard ∧
    { simulation with world := (simulation.world.setKeyguardAlpha 0.5).world }.advance
      Time.perMilli = some waited ∧
    (waited.world.preDraw.target .behind).alpha =
      (waited.world.preDraw.outlook.resolve .keyguard).overlay.targets.alpha.behind := by
  have hPlayed : (Simulation.play {} {} [.perform (.panelExpansion 0),
      .perform (.transition .keyguard none), .advance 0]).any (fun simulation =>
        let controller := simulation.world.controller
        (controller.state = .keyguard) &&
          ((simulation.world.target .behind).alpha =
            if controller.expansion.affectsAlpha then
              controller.expansion.revealedAlpha .keyguard
                { controller.catalog with keyguardAlpha := 0.5 }
            else 0.5) &&
          ({ simulation with world := (simulation.world.setKeyguardAlpha 0.5).world }.advance
            Time.perMilli).isSome) = true := by
    decide +kernel
  obtain ⟨simulation, hPlay, hLast⟩ := (Option.any_eq_true _ _).mp hPlayed
  simp only [Bool.and_eq_true, decide_eq_true_eq] at hLast
  obtain ⟨⟨hState, hBehind⟩, hWaits⟩ := hLast
  obtain ⟨waited, hWaited⟩ := Option.isSome_iff_exists.mp hWaits
  have hNumber : (0.5 : Float32).isNaN = false := by decide
  have hApplies := keyguard_alpha_applies_iff hState hNumber
    (Simulation.unasked_advance hWaited)
  exact ⟨simulation, waited, hPlay, hState, hWaited, hApplies.2.mpr hBehind⟩

set_option maxRecDepth 100000 in
/-- Where no gesture counts, the behind layer stays as it was before the lock screen was to be
darker. -/
theorem keyguard_alpha_does_not_apply : ∃ simulation : Simulation,
    Simulation.play {} {} [.perform (.expansionAffectsAlpha false),
      .perform (.transition .keyguard none), .advance 0] = some simulation ∧
    simulation.world.controller.state = .keyguard ∧
    simulation.world.controller.expansion.affectsAlpha = false ∧
    let asked := simulation.world.setKeyguardAlpha 0.5
    asked.error = none ∧ asked.world.controller.updatePending = true ∧
      asked.world.preDraw.controller.catalog.keyguardAlpha = 0.5 ∧
      (asked.world.preDraw.target .behind).alpha ≠ 0.5 := by
  have hPlayed : (Simulation.play {} {} [.perform (.expansionAffectsAlpha false),
      .perform (.transition .keyguard none), .advance 0]).any (fun simulation =>
        let asked := simulation.world.setKeyguardAlpha 0.5
        (simulation.world.controller.state = .keyguard) &&
          (simulation.world.controller.expansion.affectsAlpha = false) && asked.error.isNone &&
          asked.world.controller.updatePending &&
          (asked.world.preDraw.controller.catalog.keyguardAlpha = 0.5) &&
          (asked.world.preDraw.target .behind).alpha ≠ 0.5) = true := by
    decide +kernel
  obtain ⟨simulation, hPlay, hLast⟩ := (Option.any_eq_true _ _).mp hPlayed
  simp only [Bool.and_eq_true, decide_eq_true_eq, Option.isNone_iff_eq_none] at hLast
  obtain ⟨⟨⟨⟨⟨hState, hInert⟩, hAccepted⟩, hPending⟩, hSet⟩, hStays⟩ := hLast
  exact ⟨simulation, hPlay, hState, hInert, hAccepted, hPending, hSet, hStays⟩

end World

end Scrim
