import Scrim.Proofs.Agenda.HostEvent

/-!
# What a request does to the agenda

A transition into another state starts from `Agenda.enter` and either puts its update off or
runs it at once. Turning the screen on ends an awaited blanking. Every other request either has
an update run at once (`Operation.updates`) or makes one of a few small changes, listed by
`Agenda.Adjusted`; `Agenda.Requested` lists what any request that enters no state does.
-/

namespace Scrim

namespace World

/-! ## Gestures -/

theorem agenda_applyGesture {world : World} {agenda : Agenda} (hAgenda : world.agenda = agenda) :
    world.applyGesture.world.agenda = agenda ∨
      world.applyGesture.world.agenda = agenda.post .scheduleWallpaperTimeout := by
  subst hAgenda
  unfold applyGesture overlayGesture
  dsimp only
  split
  · next h =>
    obtain ⟨rfl, -⟩ := Outcome.mk.inj h
    exact Or.inl rfl
  · next h =>
    obtain ⟨rfl, -⟩ := Outcome.mk.inj h
    split
    · exact Or.inl rfl
    · exact agenda_followGesture _

theorem agenda_followNotifications (world : World) (fraction : Float32) (panelBottom : Int) :
    (world.followNotifications fraction panelBottom).agenda = world.agenda := by
  unfold followNotifications
  dsimp only
  split
  · rfl
  · rfl

theorem agenda_setPanelExpansion (world : World) (fraction : Float32) :
    (world.setPanelExpansion fraction).world.agenda = world.agenda ∨
      (world.setPanelExpansion fraction).world.agenda =
        world.agenda.post .scheduleWallpaperTimeout := by
  unfold setPanelExpansion
  split
  · exact Or.inl rfl
  · exact Or.inl rfl
  · next expansion _ =>
    dsimp only
    split
    · exact agenda_applyGesture rfl
    · exact Or.inl rfl

theorem agenda_setQuickSettings (world : World) (fraction : Float32) (panelBottom : Int) :
    (world.setQuickSettings fraction panelBottom).world.agenda = world.agenda ∨
      (world.setQuickSettings fraction panelBottom).world.agenda =
        world.agenda.post .scheduleWallpaperTimeout := by
  have hFollowed := agenda_followNotifications world fraction panelBottom
  unfold setQuickSettings
  dsimp only
  generalize world.followNotifications fraction panelBottom = followed at hFollowed ⊢
  split
  · exact Or.inl rfl
  · split
    · exact Or.inl hFollowed
    · next expansion _ =>
      split
      · exact agenda_applyGesture hFollowed
      · exact Or.inl hFollowed

/-! ## Surroundings -/

/-- The catalog has another behind opacity for the active state than the target. -/
def movesBehind (world : World) : Bool :=
  !(world.controller.catalog.behindAlpha world.controller.state
    == world.controller.targets.alpha.behind)

/-- An accepted refresh of the behind layer runs an update exactly if its opacity moves. -/
theorem updated_refreshBehind {world : World} {agenda : Agenda} (hAgenda : world.agenda = agenda)
    (hAttached : agenda.Attached) (accepted : world.refreshBehind.error = none) :
    if world.movesBehind then agenda.Updated world.refreshBehind.world.agenda
    else world.refreshBehind.world.agenda = agenda := by
  unfold refreshBehind at accepted ⊢
  unfold movesBehind
  dsimp only at accepted ⊢
  split
  · next hMoves =>
    rw [Bool.not_eq_true'] at hMoves
    rw [hMoves, if_neg Bool.false_ne_true] at accepted ⊢
    split
    · next hError =>
      rw [hError] at accepted
      cases accepted
    · dsimp only
      exact updated_update hAgenda hAttached
  · next hStays =>
    rw [Bool.not_eq_true, Bool.not_eq_false'] at hStays
    rw [hStays, if_pos rfl]
    exact hAgenda

theorem updated_screenTurnedOn {world : World} (hAttached : world.agenda.Attached)
    (hPhase : world.controller.blanking = .awaitingReveal)
    (hQueued : world.host.scheduler.hasPending .blankingTransition = true) :
    world.agenda.expedite.reveal.Updated world.screenTurnedOn.agenda := by
  unfold screenTurnedOn Blanking.expediteReveal
  dsimp only
  rw [if_pos (by simp [hPhase, hQueued])]
  show world.agenda.expedite.reveal.Updated (World.reveal _).agenda
  exact updated_reveal rfl hAttached hPhase

theorem agenda_screenTurnedOn {world : World}
    (h : ¬(world.controller.blanking = .awaitingReveal ∧
      world.host.scheduler.hasPending .blankingTransition = true)) :
    world.screenTurnedOn.agenda = world.agenda := by
  unfold screenTurnedOn Blanking.expediteReveal
  dsimp only
  rw [if_neg (by simpa using h)]
  rfl

end World

/-- Whether a request other than a transition has an update run at once. -/
def Operation.updates (operation : Operation) (world : World) : Bool :=
  match operation with
  | .keyguardOccluded _ => true
  | .aodFrontAlpha alpha =>
    world.controller.targets.alpha.front != alpha && world.showsAodFrontAlpha
  | .screenSensor active =>
    world.controller.state = .pulsing &&
      (world.override fun facts => { facts with screenSensorActive := active }).movesBehind
  | .backdrop visible =>
    world.controller.state.isLowPower &&
      (world.override fun facts => { facts with hasBackdrop := visible }).movesBehind
  | .screenOn =>
    world.controller.blanking = .awaitingReveal &&
      world.host.scheduler.hasPending .blankingTransition
  | _ => false

/-- What most requests make of an agenda, and whether they have an update run at once. -/
inductive Agenda.Adjusted (agenda : Agenda) : Bool → Agenda → Prop where
  | same : Adjusted agenda false agenda
  | wired : Adjusted agenda false { agenda with wakeGuard := agenda.wakeGuard.setLock () }
  | scheduled : Adjusted agenda false agenda.schedule
  | awake : Adjusted agenda false agenda.hold.schedule
  | posted : Adjusted agenda false (agenda.post .scheduleWallpaperTimeout)
  | updated {after : Agenda} (update : agenda.Updated after) : Adjusted agenda true after

/-- What a request other than a transition makes of an agenda, and whether it has an update
run at once. -/
inductive Agenda.Requested (agenda : Agenda) : Bool → Agenda → Prop where
  | same : Requested agenda false agenda
  | wired : Requested agenda false { agenda with wakeGuard := agenda.wakeGuard.setLock () }
  | scheduled : Requested agenda false agenda.schedule
  | awake : Requested agenda false agenda.hold.schedule
  | posted : Requested agenda false (agenda.post .scheduleWallpaperTimeout)
  | updated {after : Agenda} (update : agenda.Updated after) : Requested agenda true after
  | revealed {after : Agenda} (phase : agenda.blanking = .awaitingReveal)
      (update : agenda.expedite.reveal.Updated after) : Requested agenda true after

namespace Agenda.Adjusted

variable {agenda after : Agenda}

theorem requested {updates : Bool} (h : agenda.Adjusted updates after) :
    agenda.Requested updates after := by
  cases h with
  | same => exact .same
  | wired => exact .wired
  | scheduled => exact .scheduled
  | awake => exact .awake
  | posted => exact .posted
  | updated update => exact .updated update

theorem of_posted (h : after = agenda ∨ after = agenda.post .scheduleWallpaperTimeout) :
    agenda.Adjusted false after := by
  rcases h with rfl | rfl
  · exact .same
  · exact .posted

end Agenda.Adjusted

namespace World

theorem adjusted_refreshBehind {world : World} {agenda : Agenda}
    (hAgenda : world.agenda = agenda) (hAttached : agenda.Attached)
    (accepted : world.refreshBehind.error = none) :
    agenda.Adjusted world.movesBehind world.refreshBehind.world.agenda := by
  have hRefresh := updated_refreshBehind hAgenda hAttached accepted
  cases hMoves : world.movesBehind with
  | true =>
      rw [hMoves, if_pos rfl] at hRefresh
      exact .updated hRefresh
  | false =>
      rw [hMoves, if_neg Bool.false_ne_true] at hRefresh
      rw [hRefresh]
      exact .same

theorem adjusted_setAodFrontAlpha {world : World} {alpha : Float32}
    (hAttached : world.agenda.Attached) (accepted : (world.setAodFrontAlpha alpha).error = none) :
    world.agenda.Adjusted
      (world.controller.targets.alpha.front != alpha && world.showsAodFrontAlpha)
      (world.setAodFrontAlpha alpha).world.agenda := by
  unfold setAodFrontAlpha at accepted ⊢
  generalize hChanged : world.override (fun overrides =>
    { overrides with aodFrontAlpha := alpha }) = changed at accepted ⊢
  have hAgenda : changed.agenda = world.agenda := by rw [← hChanged]; rfl
  split
  · next hNaN =>
    rw [if_pos hNaN] at accepted
    cases accepted
  · dsimp only
    split
    · next h =>
      rw [h]
      dsimp only
      exact .updated (updated_update hAgenda hAttached)
    · next h =>
      rw [Bool.of_not_eq_true h, hAgenda]
      exact .same

theorem adjusted_setScreenSensor {world : World} {active : Bool}
    (hAttached : world.agenda.Attached) (accepted : (world.setScreenSensor active).error = none) :
    world.agenda.Adjusted (Operation.updates (.screenSensor active) world)
      (world.setScreenSensor active).world.agenda := by
  unfold setScreenSensor at accepted ⊢
  dsimp only [Operation.updates] at accepted ⊢
  generalize hChanged : world.override (fun facts =>
    { facts with screenSensorActive := active }) = changed at accepted ⊢
  have hAgenda : changed.agenda = world.agenda := by rw [← hChanged]; rfl
  have hState : changed.controller.state = world.controller.state := by rw [← hChanged]; rfl
  rw [hState] at accepted ⊢
  by_cases h : world.controller.state = .pulsing
  · simp only [h, decide_true, Bool.true_and, if_true] at accepted ⊢
    exact adjusted_refreshBehind hAgenda hAttached accepted
  · simp only [h, decide_false, Bool.false_and, if_false]
    rw [hAgenda]
    exact .same

theorem adjusted_setBackdrop {world : World} {visible : Bool}
    (hAttached : world.agenda.Attached) (accepted : (world.setBackdrop visible).error = none) :
    world.agenda.Adjusted (Operation.updates (.backdrop visible) world)
      (world.setBackdrop visible).world.agenda := by
  unfold setBackdrop at accepted ⊢
  dsimp only [Operation.updates] at accepted ⊢
  generalize hChanged : world.override (fun facts =>
    { facts with hasBackdrop := visible }) = changed at accepted ⊢
  have hAgenda : changed.agenda = world.agenda := by rw [← hChanged]; rfl
  have hState : changed.controller.state = world.controller.state := by rw [← hChanged]; rfl
  rw [hState] at accepted ⊢
  cases h : world.controller.state.isLowPower with
  | true =>
      simp only [h, Bool.true_and, if_true] at accepted ⊢
      exact adjusted_refreshBehind hAgenda hAttached accepted
  | false =>
      simp only [Bool.false_and, Bool.false_eq_true, if_false]
      rw [hAgenda]
      exact .same

theorem requested_screenTurnedOn {world : World} (hAttached : world.agenda.Attached) :
    world.agenda.Requested (Operation.updates .screenOn world) world.screenTurnedOn.agenda := by
  simp only [Operation.updates]
  by_cases h : world.controller.blanking = .awaitingReveal ∧
      world.host.scheduler.hasPending .blankingTransition = true
  · simp only [h.1, h.2, decide_true, Bool.and_self]
    exact .revealed h.1 (updated_screenTurnedOn hAttached h.1 h.2)
  · rw [agenda_screenTurnedOn h, show (decide (world.controller.blanking = .awaitingReveal) &&
      world.host.scheduler.hasPending .blankingTransition) = false by simpa using h]
    exact .same

theorem adjusted_hideWallpaper {world : World} {agenda : Agenda} (hAgenda : world.agenda = agenda)
    (hListening : agenda.listening = agenda.updatePending) :
    agenda.Adjusted false world.hideWallpaper.agenda := by
  rw [agenda_hideWallpaper hAgenda hListening]
  split
  · exact .awake
  · exact .same

/-- Every accepted request but a transition and the report that the screen is on. -/
theorem adjusted_run {world : World} {operation : Operation}
    (hOther : ∀ state callback, operation ≠ .transition state callback)
    (hScreen : operation ≠ .screenOn)
    (hListening : world.agenda.listening = world.agenda.updatePending)
    (hAttached : world.agenda.Attached) (accepted : (operation.run world).error = none) :
    world.agenda.Adjusted (operation.updates world) (operation.run world).world.agenda := by
  have scheduled : ∀ w : World, w.agenda = world.agenda →
      world.agenda.Adjusted false w.scheduleUpdate.agenda := by
    intro w hAgenda
    rw [agenda_scheduleUpdate hAgenda hListening]
    exact .scheduled
  cases operation with
  | transition state callback => exact absurd rfl (hOther state callback)
  | panelExpansion fraction => exact .of_posted (agenda_setPanelExpansion world fraction)
  | quickSettings fraction panelBottom =>
      exact .of_posted (agenda_setQuickSettings world fraction panelBottom)
  | expansionAffectsAlpha affects =>
      cases affects with
      | true => exact .of_posted (agenda_applyGesture rfl)
      | false => exact .same
  | aodFrontAlpha alpha => exact adjusted_setAodFrontAlpha hAttached accepted
  | screenSensor active => exact adjusted_setScreenSensor hAttached accepted
  | backdrop visible => exact adjusted_setBackdrop hAttached accepted
  | keyguardOccluded occluded =>
      simp only [Operation.run, setKeyguardOccluded]
      exact .updated (updated_update rfl hAttached)
  | keyguardAlpha alpha =>
      simp only [Operation.run, setKeyguardAlpha] at accepted ⊢
      split
      · next hNaN =>
        rw [if_pos hNaN] at accepted
        cases accepted
      · exact scheduled _ rfl
  | theme palette =>
      simp only [Operation.run, themeChanged]
      exact scheduled _ rfl
  | themeChanged =>
      simp only [Operation.run, themeChanged]
      exact scheduled _ rfl
  | keyguardVisibility showing =>
      simp only [Operation.run, keyguardVisibilityChanged]
      exact scheduled _ rfl
  | screenOn => exact absurd rfl hScreen
  | wallpaperTimeout => exact adjusted_hideWallpaper rfl hListening
  | wakeLock => exact .wired
  | trackingStarted _ => exact .same
  | expandingFinished => exact .same
  | ambientWallpaper _ => exact .same
  | keyguardFadingAway _ _ => exact .same
  | launchingAffordance _ => exact .same
  | docked _ => exact .same
  | alwaysOn _ => exact .same
  | slowUnlock _ => exact .same
  | screenOff => exact .same

theorem requested_run {world : World} {operation : Operation}
    (hOther : ∀ state callback, operation ≠ .transition state callback)
    (hListening : world.agenda.listening = world.agenda.updatePending)
    (hAttached : world.agenda.Attached) (accepted : (operation.run world).error = none) :
    world.agenda.Requested (operation.updates world) (operation.run world).world.agenda := by
  by_cases hScreen : operation = .screenOn
  · subst hScreen
    exact requested_screenTurnedOn hAttached
  · exact (adjusted_run hOther hScreen hListening hAttached accepted).requested

end World

/-! ## Transitions -/

def Task.blanks : Task → Bool
  | .pendingFrame | .blankingTransition => true
  | .scheduleWallpaperTimeout | .cancelWallpaperTimeout => false

/-- The agenda of a transition before its targets are applied: the blanking of the one before is
abandoned, and a low-power state takes the wake lock. -/
def Agenda.enter (agenda : Agenda) (lowPower : Bool) (callback : Option Registration)
    (blank : Bool) (task : Task) : Agenda :=
  let entered := { agenda with
    callback := callback
    blankScreen := blank
    blanking := .idle
    scheduler := (agenda.scheduler.cancel .pendingFrame).cancel .blankingTransition }
  (if lowPower then entered.hold else entered).post task

section Enter

variable {agenda : Agenda} (lowPower : Bool) (callback : Option Registration) (blank : Bool)
  (task : Task)

theorem Agenda.listens_enter (h : agenda.listening = agenda.updatePending) :
    (agenda.enter lowPower callback blank task).listening =
      (agenda.enter lowPower callback blank task).updatePending := by
  unfold enter
  split
  · exact h
  · exact h

theorem Agenda.Attached.enter (h : agenda.Attached) :
    (agenda.enter lowPower callback blank task).Attached := by
  unfold Agenda.enter
  split
  · exact h
  · exact h

theorem Agenda.callback_enter :
    (agenda.enter lowPower callback blank task).callback = callback := by
  unfold enter
  split
  · rfl
  · rfl

theorem Agenda.blankScreen_enter :
    (agenda.enter lowPower callback blank task).blankScreen = blank := by
  unfold enter
  split
  · rfl
  · rfl

end Enter

inductive Agenda.Entered (agenda : Agenda) (lowPower : Bool) : Agenda → Prop where
  /-- The update runs with the next frame. -/
  | deferred (callback : Option Registration) (blank : Bool) (task : Task) :
      Entered agenda lowPower (agenda.enter lowPower callback blank task).schedule
  /-- The update has run. -/
  | applied (callback : Option Registration) (blank : Bool) (task : Task) {after : Agenda}
      (update : (agenda.enter lowPower callback blank task).unschedule.Updated after) :
      Entered agenda lowPower after

namespace World

theorem agenda_confirm (world : World) (callback : Option Callback) :
    (world.confirm callback).agenda = world.agenda := by
  cases callback with
  | none => rfl
  | some callback =>
      unfold confirm
      dsimp -zeta only
      extract_lets registered
      split
      · rfl
      · exact agenda_deliver ..

theorem agenda_replaceCallback (world : World) (callback : Option Callback) :
    ∃ registration, (world.replaceCallback callback).agenda =
      { world.agenda with callback := registration } := by
  unfold replaceCallback
  extract_lets cancelled
  have hAgenda : cancelled.agenda = world.agenda := by
    dsimp only [cancelled]
    split
    · rfl
    · exact agenda_terminate ..
  cases callback with
  | none => exact ⟨none, congrArg (fun a : Agenda => { a with callback := none }) hAgenda⟩
  | some callback =>
      exact ⟨some (cancelled.controller.registry.register callback).1,
        congrArg (fun a : Agenda => { a with
          callback := some (cancelled.controller.registry.register callback).1 }) hAgenda⟩

theorem agenda_enter (world : World) (state : State) (callback : Option Callback) :
    ∃ registration blank, (world.enter state callback).agenda =
      { world.agenda with callback := registration, blankScreen := blank } := by
  obtain ⟨registration, hReplaced⟩ := agenda_replaceCallback
    { world.debug s!"State changed to: {state.name}" with controller.state := state } callback
  refine ⟨registration, (world.controller.catalog.descriptor state
    world.controller.state).blanksScreen, ?_⟩
  exact congrArg (fun a : Agenda => { a with blankScreen := (world.controller.catalog.descriptor
    state world.controller.state).blanksScreen }) hReplaced

theorem entered_applyTransition {world : World} {agenda : Agenda}
    (hAgenda : world.agenda = agenda) (hListening : agenda.listening = agenda.updatePending)
    (hAttached : agenda.Attached) (previous : State) :
    (world.applyTransition previous).agenda = agenda.schedule ∨
      agenda.unschedule.Updated (world.applyTransition previous).agenda := by
  subst hAgenda
  unfold applyTransition
  split
  · exact Or.inl (agenda_scheduleUpdate rfl hListening)
  · split
    · exact Or.inr (updated_preDraw hAttached)
    · exact Or.inl (agenda_scheduleUpdate rfl hListening)

theorem agenda_completeTransition {world : World} {agenda : Agenda}
    {registration : Option Registration} {blank : Bool} {state : State}
    (hAgenda : world.agenda =
      { agenda with callback := registration, blankScreen := blank })
    (hState : world.controller.state = state)
    (hListening : agenda.listening = agenda.updatePending) (hAttached : agenda.Attached)
    (previous : State) : ∃ task : Task, task.blanks = false ∧
      ((world.completeTransition previous).agenda =
          (agenda.enter state.isLowPower registration blank task).schedule ∨
        (agenda.enter state.isLowPower registration blank task).unschedule.Updated
          (world.completeTransition previous).agenda) := by
  subst hState
  unfold completeTransition
  extract_lets abandoned state controller marked awake applied
  rw [agenda_dispatchState]
  have hMarked : marked.agenda = { agenda with
      callback := registration
      blankScreen := blank
      blanking := .idle
      scheduler := (agenda.scheduler.cancel .pendingFrame).cancel .blankingTransition } := by
    have hScheduler : world.host.scheduler = agenda.scheduler := congrArg Agenda.scheduler hAgenda
    rw [← hScheduler]
    exact congrArg (fun a : Agenda => { a with
      blanking := .idle
      scheduler :=
        (world.host.scheduler.cancel .pendingFrame).cancel .blankingTransition }) hAgenda
  have hRestarted : ∃ task : Task, task.blanks = false ∧ awake.restartWallpaper.agenda =
      agenda.enter state.isLowPower registration blank task := by
    refine ⟨if awake.fadesWallpaper then .scheduleWallpaperTimeout else .cancelWallpaperTimeout,
      by split <;> rfl, ?_⟩
    have hAwake : awake.agenda =
        if state.isLowPower then marked.agenda.hold else marked.agenda := by
      dsimp only [awake]
      split
      · rfl
      · rfl
    rw [hMarked] at hAwake
    unfold Agenda.enter
    dsimp only
    rw [← hAwake]
    rfl
  obtain ⟨task, hTask, hEntered⟩ := hRestarted
  exact ⟨task, hTask, entered_applyTransition hEntered (Agenda.listens_enter _ _ _ _ hListening)
    (hAttached.enter _ _ _ _) previous⟩

/-- An accepted transition to the active state only confirms it. -/
theorem transition_of_active {world : World} {state : State} {callback : Option Callback}
    (hActive : state = world.controller.state)
    (accepted : (world.transition state callback).error = none) :
    (world.transition state callback).world = world.confirm callback := by
  unfold transition at accepted ⊢
  split
  · next h => simp [h] at accepted
  · rfl

theorem state_terminate (world : World) (registration : Registration) (kind : Notification) :
    (world.terminate registration kind).controller.state = world.controller.state := by
  unfold terminate
  split
  · rfl
  · rfl

theorem state_replaceCallback (world : World) (callback : Option Callback) :
    (world.replaceCallback callback).controller.state = world.controller.state := by
  unfold replaceCallback
  extract_lets cancelled
  have hCancelled : cancelled.controller.state = world.controller.state := by
    dsimp only [cancelled]
    split
    · rfl
    · exact state_terminate ..
  cases callback with
  | none => exact hCancelled
  | some callback => exact hCancelled

theorem state_enter (world : World) (state : State) (callback : Option Callback) :
    (world.enter state callback).controller.state = state :=
  state_replaceCallback ..

/-- An accepted transition into another state enters it, finds its targets to be numbers, lays the
gesture over them, and completes. -/
theorem transition_eq {world : World} {state : State} {callback : Option Callback}
    (hOther : state ≠ world.controller.state)
    (accepted : (world.transition state callback).error = none) :
    state ≠ .uninitialized ∧
    (world.enter state callback).controller.targets.nanError? state = none ∧
    (world.enter state callback).overlayGesture.error = none ∧
    (world.transition state callback).world =
      (world.enter state callback).overlayGesture.world.completeTransition
        world.controller.state := by
  unfold transition at accepted ⊢
  by_cases hTarget : state = .uninitialized
  · simp [hTarget] at accepted
  · rw [if_neg hTarget, if_neg hOther] at accepted ⊢
    dsimp only at accepted ⊢
    generalize world.enter state callback = entered at accepted ⊢
    split
    · next hError => simp [hError] at accepted
    · next hSound =>
      simp only [hSound] at accepted
      split
      · next hOverlay => simp [hOverlay] at accepted
      · next hOverlay =>
        rw [hOverlay]
        exact ⟨hTarget, hSound, rfl, rfl⟩

theorem transition_of_accepted {world : World} {state : State} {callback : Option Callback}
    (hOther : state ≠ world.controller.state)
    (accepted : (world.transition state callback).error = none) :
    state ≠ .uninitialized ∧ ∃ targets, (world.transition state callback).world =
      World.completeTransition { world.enter state callback with controller.targets := targets }
        world.controller.state :=
  have ⟨hTarget, _, _, hTransition⟩ := transition_eq hOther accepted
  ⟨hTarget, _, hTransition⟩

/-- An accepted transition into another state either puts its update off or has run it. -/
theorem agenda_transition {world : World} {state : State} {callback : Option Callback}
    (hOther : state ≠ world.controller.state)
    (hListening : world.agenda.listening = world.agenda.updatePending)
    (hAttached : world.agenda.Attached)
    (accepted : (world.transition state callback).error = none) :
    ∃ (registration : Option Registration) (blank : Bool) (task : Task), task.blanks = false ∧
      ((world.transition state callback).world.agenda =
          (world.agenda.enter state.isLowPower registration blank task).schedule ∨
        (world.agenda.enter state.isLowPower registration blank task).unschedule.Updated
          (world.transition state callback).world.agenda) := by
  obtain ⟨registration, blank, hEnter⟩ := agenda_enter world state callback
  obtain ⟨-, targets, hTransition⟩ := transition_of_accepted hOther accepted
  have hState := state_enter world state callback
  rw [hTransition]
  generalize world.enter state callback = entered at hEnter hState ⊢
  have hOverlaid : World.agenda { entered with controller.targets := targets } =
      { world.agenda with callback := registration, blankScreen := blank } := hEnter
  exact ⟨registration, blank,
    agenda_completeTransition hOverlaid hState hListening hAttached _⟩

theorem entered_transition {world : World} {state : State} {callback : Option Callback}
    (hOther : state ≠ world.controller.state)
    (hListening : world.agenda.listening = world.agenda.updatePending)
    (hAttached : world.agenda.Attached)
    (accepted : (world.transition state callback).error = none) :
    world.agenda.Entered state.isLowPower (world.transition state callback).world.agenda := by
  obtain ⟨registration, blank, task, -, hApplied | hApplied⟩ :=
    agenda_transition hOther hListening hAttached accepted
  · rw [hApplied]
    exact .deferred registration blank task
  · exact .applied registration blank task hApplied

end World

end Scrim
