import Scrim.Proofs.Ledger.Update

/-!
# What a step does to the ledger

Between transitions a ledger only follows the one before: `World.Step.follows`. A transition
into another state replaces the registration first, and asking for the active state tells at
most a callback that has no registration.
-/

namespace Scrim.World

open Ledger

/-! ## Host events -/

theorem follows_preDraw {world : World} {ledger : Ledger} (hLedger : world.ledger = ledger)
    (h : ledger.Accounted) : ledger.Follows world.preDraw.ledger := by
  subst hLedger
  have ready : ∀ w : World, w.ledger = world.ledger →
      world.ledger.Follows (w.notifyActive .start).update.ledger := by
    intro w hLedger
    have hTold := follows_notifyActive hLedger .start rfl
    exact hTold.trans (follows_update rfl (h.follows hTold))
  exact ready _ rfl

theorem follows_reveal {world : World} {ledger : Ledger} (hLedger : world.ledger = ledger)
    (h : ledger.Accounted) : ledger.Follows world.reveal.ledger := by
  unfold reveal
  split
  · rw [hLedger]
    exact .refl
  · exact follows_update hLedger h

theorem follows_frameCommitted {world : World} {ledger : Ledger}
    (hLedger : world.ledger = ledger) : ledger.Follows world.frameCommitted.ledger := by
  subst hLedger
  have waiting : ∀ w : World, w.ledger = world.ledger →
      world.ledger.Follows (w.notifyActive .displayBlanked).ledger :=
    fun w hWaiting => follows_notifyActive hWaiting .displayBlanked rfl
  unfold frameCommitted
  dsimp only
  split
  · exact .refl
  · split
    · exact waiting _ rfl
    · exact .refl

theorem follows_runTask {world : World} {ledger : Ledger} (hLedger : world.ledger = ledger)
    (h : ledger.Accounted) (task : Task) : ledger.Follows (world.runTask task).ledger := by
  cases task with
  | pendingFrame => exact follows_frameCommitted hLedger
  | blankingTransition => exact follows_reveal hLedger h
  | scheduleWallpaperTimeout =>
      rw [← hLedger]
      exact .refl
  | cancelWallpaperTimeout =>
      rw [← hLedger]
      exact .refl

theorem hearing_showAnimations (world : World) :
    world.showAnimations.hearing = world.hearing := by
  have hDrawn : ∀ (frames : List Frame) (w : World),
      (frames.foldl (fun w frame => w.draw frame.layer frame.look) w).hearing = w.hearing := by
    intro frames
    induction frames with
    | nil => exact fun w => rfl
    | cons frame rest ih =>
        intro w
        rw [List.foldl_cons, ih, hearing_draw]
  unfold showAnimations
  exact hDrawn ..

theorem ledger_showAnimations (world : World) :
    world.showAnimations.ledger = world.ledger :=
  congrArg Hearing.ledger (hearing_showAnimations world)

theorem follows_settleAll {world : World} {ledger : Ledger} (hLedger : world.ledger = ledger)
    (h : ledger.Accounted) {completions : List Completion}
    (known : ∀ completion ∈ completions, ∀ held, completion.registration = some held →
      held.id < ledger.registry.next) : ledger.Follows (world.settleAll completions).ledger := by
  induction completions generalizing world ledger with
  | nil =>
      rw [← hLedger]
      exact .refl
  | cons completion rest ih =>
      have hFirst := follows_settle hLedger h (known completion List.mem_cons_self)
      have hSettled := ledger_dispatchVisibility (world.settle completion.registration)
      refine hFirst.trans (ih hSettled (h.follows hFirst) fun other hMem held hHeld => ?_)
      rw [hFirst.next_eq]
      exact known other (List.mem_cons_of_mem _ hMem) held hHeld

theorem follows_animationFrame {world : World} {ledger : Ledger}
    (hLedger : world.ledger = ledger) (h : ledger.Accounted)
    (known : ∀ layer held, world.agenda.running.get layer = some (some held) →
      held.id < ledger.registry.next) : ledger.Follows world.animationFrame.ledger := by
  have hShown := (ledger_showAnimations world).trans hLedger
  have hSettled : ledger.Follows (world.showAnimations.settleAll
      (world.controller.animations.completions world.now)).ledger := by
    apply follows_settleAll hShown h
    intro completion hMem held hHeld
    refine known completion.layer held ?_
    rw [← hHeld]
    exact Animations.carried_of_mem_completions hMem
  unfold animationFrame
  dsimp only
  split
  · exact hSettled
  · exact hSettled

@[simp] theorem hearing_hideWallpaper (world : World) :
    world.hideWallpaper.hearing = world.hearing := by
  unfold hideWallpaper
  split
  · exact hearing_scheduleUpdate _
  · rfl

theorem ledger_hideWallpaper (world : World) : world.hideWallpaper.ledger = world.ledger :=
  congrArg Hearing.ledger (hearing_hideWallpaper world)

/-! ## Requests -/

theorem hearing_followTarget (world : World) (layer : Layer) :
    (world.followTarget layer).hearing = world.hearing := by
  unfold followTarget
  split
  · split
    · exact hearing_draw ..
    · exact hearing_draw ..
  · rfl

theorem hearing_followGesture (world : World) :
    world.followGesture.hearing = world.hearing := by
  unfold followGesture
  simp only [List.foldl_cons, List.foldl_nil]
  generalize hMoved : (((world.followTarget .behind).followTarget .notifications).followTarget
    .front).followTarget .auxiliary = moved
  have hHearing : moved.hearing = world.hearing := by
    rw [← hMoved]
    simp only [hearing_followTarget]
  unfold restoreWallpaper
  split
  · exact hHearing
  · exact hHearing

theorem hearing_applyGesture {world : World} {hearing : Hearing}
    (hHearing : world.hearing = hearing) : world.applyGesture.world.hearing = hearing := by
  subst hHearing
  unfold applyGesture overlayGesture
  dsimp only
  split
  · next h =>
    obtain ⟨rfl, -⟩ := Outcome.mk.inj h
    rfl
  · next h =>
    obtain ⟨rfl, -⟩ := Outcome.mk.inj h
    split
    · rfl
    · exact hearing_followGesture _

theorem hearing_setPanelExpansion (world : World) (fraction : Float32) :
    (world.setPanelExpansion fraction).world.hearing = world.hearing := by
  unfold setPanelExpansion
  split
  · rfl
  · rfl
  · dsimp only
    split
    · exact hearing_applyGesture rfl
    · rfl

theorem hearing_setQuickSettings (world : World) (fraction : Float32) (panelBottom : Int) :
    (world.setQuickSettings fraction panelBottom).world.hearing = world.hearing := by
  have hFollowed : (world.followNotifications fraction panelBottom).hearing = world.hearing := by
    unfold followNotifications
    dsimp only
    split
    · rfl
    · rfl
  unfold setQuickSettings
  dsimp only
  generalize world.followNotifications fraction panelBottom = followed at hFollowed ⊢
  split
  · rfl
  · split
    · exact hFollowed
    · split
      · exact hearing_applyGesture hFollowed
      · exact hFollowed

theorem ledger_applyGesture (world : World) : world.applyGesture.world.ledger = world.ledger :=
  congrArg Hearing.ledger (hearing_applyGesture rfl)

theorem ledger_setPanelExpansion (world : World) (fraction : Float32) :
    (world.setPanelExpansion fraction).world.ledger = world.ledger :=
  congrArg Hearing.ledger (hearing_setPanelExpansion world fraction)

theorem ledger_setQuickSettings (world : World) (fraction : Float32) (panelBottom : Int) :
    (world.setQuickSettings fraction panelBottom).world.ledger = world.ledger :=
  congrArg Hearing.ledger (hearing_setQuickSettings world fraction panelBottom)

theorem follows_refreshBehind {world : World} {ledger : Ledger} (hLedger : world.ledger = ledger)
    (h : ledger.Accounted) : ledger.Follows world.refreshBehind.world.ledger := by
  subst hLedger
  unfold refreshBehind
  dsimp only
  split
  · exact .refl
  · split
    · exact .refl
    · dsimp only
      exact follows_update rfl h

theorem follows_setAodFrontAlpha {world : World} (h : world.ledger.Accounted) (alpha : Float32) :
    world.ledger.Follows (world.setAodFrontAlpha alpha).world.ledger := by
  unfold setAodFrontAlpha
  generalize hChanged : world.override (fun overrides =>
    { overrides with aodFrontAlpha := alpha }) = changed
  have hLedger : changed.ledger = world.ledger := by rw [← hChanged]; rfl
  split
  · exact .refl
  · dsimp only
    split
    · dsimp only
      exact follows_update hLedger h
    · rw [hLedger]
      exact .refl

theorem follows_run {world : World} (h : world.ledger.Accounted) (operation : Operation)
    (hOther : ∀ state callback, operation ≠ .transition state callback) :
    world.ledger.Follows (operation.run world).world.ledger := by
  have unchanged : ∀ {ledger : Ledger}, ledger = world.ledger →
      world.ledger.Follows ledger := by
    rintro ledger rfl
    exact .refl
  have scheduled : ∀ w : World, w.ledger = world.ledger →
      world.ledger.Follows w.scheduleUpdate.ledger := by
    intro w hLedger
    exact unchanged ((ledger_scheduleUpdate w).trans hLedger)
  cases operation with
  | transition state callback => exact absurd rfl (hOther state callback)
  | panelExpansion fraction => exact unchanged (ledger_setPanelExpansion ..)
  | quickSettings fraction panelBottom => exact unchanged (ledger_setQuickSettings ..)
  | expansionAffectsAlpha affects =>
      cases affects with
      | true => exact unchanged (ledger_applyGesture _)
      | false => exact .refl
  | aodFrontAlpha alpha => exact follows_setAodFrontAlpha h alpha
  | screenSensor active =>
      simp only [Operation.run, setScreenSensor]
      split
      · exact follows_refreshBehind rfl h
      · exact .refl
  | backdrop visible =>
      simp only [Operation.run, setBackdrop]
      split
      · exact follows_refreshBehind rfl h
      · exact .refl
  | keyguardOccluded occluded =>
      simp only [Operation.run, setKeyguardOccluded]
      exact follows_update rfl h
  | keyguardAlpha alpha =>
      simp only [Operation.run, setKeyguardAlpha]
      split
      · exact .refl
      · exact scheduled _ rfl
  | theme palette =>
      simp only [Operation.run, themeChanged]
      exact scheduled _ rfl
  | themeChanged =>
      simp only [Operation.run, themeChanged]
      exact scheduled _ rfl
  | keyguardVisibility showing =>
      simp only [Operation.run, keyguardVisibilityChanged]
      exact scheduled _ rfl
  | screenOn =>
      simp only [Operation.run, screenTurnedOn]
      split
      · exact .refl
      · exact follows_reveal rfl h
  | wallpaperTimeout => exact unchanged (ledger_hideWallpaper world)
  | wakeLock => exact .refl
  | trackingStarted _ => exact .refl
  | expandingFinished => exact .refl
  | ambientWallpaper _ => exact .refl
  | keyguardFadingAway _ _ => exact .refl
  | launchingAffordance _ => exact .refl
  | docked _ => exact .refl
  | alwaysOn _ => exact .refl
  | slowUnlock _ => exact .refl
  | screenOff => exact .refl

/-! ## Transitions -/

/-- Asking for the active state tells at most the callback that was passed. -/
theorem ledger_confirm (world : World) (callback : Option Callback) :
    (world.confirm callback).ledger = world.ledger ∨
      ∃ event : CallbackEvent, event.registration = none ∧ event.kind = .finished ∧
        (world.confirm callback).ledger = world.ledger.record event := by
  cases callback with
  | none => exact Or.inl rfl
  | some callback =>
      unfold confirm
      dsimp -zeta only
      extract_lets registered
      split
      · exact Or.inl rfl
      · exact Or.inr ⟨_, rfl, rfl, rfl⟩

theorem replaced_replaceCallback {world : World} {ledger : Ledger}
    (hLedger : world.ledger = ledger) (h : ledger.Accounted) (callback : Option Callback) :
    ledger.Replaced (world.replaceCallback callback).ledger := by
  subst hLedger
  unfold replaceCallback
  cases hSlot : world.controller.callback with
  | none =>
      have hEmpty : world.ledger.callback = none := hSlot
      cases callback with
      | none =>
          have hSame : World.ledger { world with controller.callback := none } = world.ledger := by
            rw [ledger, ledger, ← hSlot]
          dsimp only
          rw [hSame]
          exact .silent hEmpty
      | some callback => exact .registered hEmpty callback
  | some active =>
      dsimp only
      rw [terminate_of_open (h.slot active hSlot).2]
      cases callback with
      | none => exact .cancelled hSlot rfl rfl
      | some callback => exact .superseded hSlot rfl rfl callback

theorem replaced_enter {world : World} (h : world.ledger.Accounted) (state : State)
    (callback : Option Callback) : world.ledger.Replaced (world.enter state callback).ledger := by
  have entered : ∀ w : World, w.ledger = world.ledger →
      world.ledger.Replaced (w.replaceCallback callback).ledger :=
    fun w hLedger => replaced_replaceCallback hLedger h callback
  exact entered
    { world.debug s!"State changed to: {state.name}" with controller.state := state } rfl

theorem follows_completeTransition {world : World} {ledger : Ledger}
    (hLedger : world.ledger = ledger) (h : ledger.Accounted) (previous : State) :
    ledger.Follows (world.completeTransition previous).ledger := by
  have scheduled : ∀ w : World, w.ledger = ledger → ledger.Follows w.scheduleUpdate.ledger := by
    intro w hSame
    rw [ledger_scheduleUpdate, hSame]
    exact .refl
  have applied : ∀ w : World, w.ledger = ledger →
      ledger.Follows (w.applyTransition previous).ledger := by
    intro w hSame
    unfold applyTransition
    split
    · exact scheduled _ hSame
    · split
      · exact follows_preDraw hSame h
      · exact scheduled w hSame
  unfold completeTransition
  extract_lets abandoned state controller marked awake complete
  have hMarked : marked.ledger = ledger := hLedger
  have hAwake : awake.restartWallpaper.ledger = ledger := by
    show awake.ledger = ledger
    dsimp only [awake]
    split
    · exact hMarked
    · exact hMarked
  exact applied awake.restartWallpaper hAwake

/-! ## Steps -/

inductive Accounts (world : World) : Event → Ledger → Prop where
  | followed {event : Event} {after : Ledger}
      (other : ∀ state callback, event ≠ .request (.transition state callback))
      (follows : world.ledger.Follows after) : Accounts world event after
  | confirmed {state : State} {callback : Option Callback}
      (active : state = world.controller.state) :
      Accounts world (.request (.transition state callback)) (world.confirm callback).ledger
  | entered {state : State} {callback : Option Callback} {middle after : Ledger}
      (other : state ≠ world.controller.state) (replaced : world.ledger.Replaced middle)
      (follows : middle.Follows after) :
      Accounts world (.request (.transition state callback)) after

theorem Step.accounts {before after : World} {event : Event} (step : Step before event after)
    (h : before.ledger.Accounted)
    (known : ∀ layer held, before.agenda.running.get layer = some (some held) →
      held.id < before.ledger.registry.next) : Accounts before event after.ledger := by
  cases step with
  | @request operation accepted =>
      by_cases hTransition : ∃ state callback, operation = .transition state callback
      · obtain ⟨state, callback, rfl⟩ := hTransition
        simp only [Operation.run] at accepted ⊢
        by_cases hActive : state = before.controller.state
        · rw [transition_of_active hActive accepted]
          exact .confirmed hActive
        · obtain ⟨-, targets, hTransition⟩ := transition_of_accepted hActive accepted
          have hReplaced := replaced_enter h state callback
          rw [hTransition]
          generalize before.enter state callback = entered at hReplaced ⊢
          have hOverlaid : World.ledger { entered with controller.targets := targets } =
              entered.ledger := rfl
          exact .entered hActive hReplaced
            (follows_completeTransition hOverlaid (h.replaced hReplaced) _)
      · refine .followed (fun state callback hEq => hTransition ⟨state, callback, ?_⟩)
          (follows_run h operation fun state callback hEq => hTransition ⟨state, callback, hEq⟩)
        exact Event.request.inj hEq
  | clock time => exact .followed (by simp) .refl
  | alarm due =>
      refine .followed (by simp) ?_
      rw [ledger_hideWallpaper]
      exact .refl
  | @task task scheduler due =>
      have hTaken : World.ledger { before with host.scheduler := scheduler } = before.ledger := rfl
      exact .followed (by simp) (follows_runTask hTaken h task)
  | animationFrame requested =>
      have hAnswered : World.ledger { before with
          host.scheduler := before.host.scheduler.takeFrameRequest.2 } = before.ledger := rfl
      exact .followed (by simp) (follows_animationFrame hAnswered h known)
  | preDraw listening => exact .followed (by simp) (follows_preDraw rfl h)

end Scrim.World
