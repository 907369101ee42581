import Scrim.Proofs.Hearing

/-!
# What a step lets callbacks hear

`World.Heard` lists for every event of a run what it makes of the hearing, and `World.Step.heard`
says that the list is complete. Only four things tell the active registration anything: the notice
of a frame, an update that shows the targets, the commit of a black frame, and the end of its last
animation.
-/

namespace Scrim

/-- What a request other than a transition makes of a hearing, with `updates` saying whether it
has an update run at once and `shows` whether that shows the targets. -/
inductive Hearing.Requested (hearing : Hearing) (shows : Bool) : Bool → Hearing → Prop where
  | same : Requested hearing shows false hearing
  | updated {after : Hearing} (update : hearing.Updated shows after) :
      Requested hearing shows true after

namespace World

open Ledger Hearing

/-! ## Host events -/

theorem hearing_preDraw {world : World} {hearing : Hearing} (hHearing : world.hearing = hearing)
    (h : hearing.ledger.Accounted) (hAttached : world.agenda.Attached) :
    ∃ started, hearing.Tells .start started ∧
      started.Updated world.shows world.preDraw.hearing := by
  have ready : ∀ w : World, w.hearing = hearing → w.shows = world.shows → w.agenda.Attached →
      ∃ started, hearing.Tells .start started ∧
        started.Updated world.shows (w.notifyActive .start).update.hearing := by
    intro w hSame hShows hReady
    have hTells := tells_notifyActive hSame h .start
    have hAgenda := agenda_notifyActive w .start
    refine ⟨_, hTells, ?_⟩
    rw [← hShows, ← shows_eq_of_agenda hAgenda]
    refine hearing_update rfl (hTells.accounted h rfl) ?_
    rw [hAgenda]
    exact hReady
  exact ready _ hHearing rfl hAttached

theorem hearing_reveal {world : World} {hearing : Hearing} (hHearing : world.hearing = hearing)
    (h : hearing.ledger.Accounted) (hAttached : world.agenda.Attached)
    (hPhase : world.controller.blanking = .awaitingReveal) :
    hearing.Updated true world.reveal.hearing := by
  have revealed : ∀ w : World, w.hearing = hearing → w.shows = true → w.agenda.Attached →
      hearing.Updated true w.update.hearing := by
    intro w hSame hShows hRevealed
    rw [← hShows]
    exact hearing_update hSame h hRevealed
  unfold reveal
  simp only [hPhase, Blanking.reveal, if_true]
  exact revealed _ hHearing rfl hAttached

theorem hearing_frameCommitted {world : World} {hearing : Hearing}
    (hHearing : world.hearing = hearing) (h : hearing.ledger.Accounted)
    (hPhase : world.controller.blanking = .awaitingFrame) :
    hearing.Covers world.frameCommitted.hearing := by
  subst hHearing
  have waiting : ∀ w : World, w.hearing = world.hearing →
      w.controller.callback.isSome = true → world.hearing.Covers
        { w.notifyActive .displayBlanked with controller.blankedNotified := true }.hearing := by
    intro w hWaiting hSome
    obtain ⟨registration, hSlot⟩ := Option.isSome_iff_exists.mp hSome
    rw [← hWaiting] at h ⊢
    exact covers_of_tells hSlot (tells_notifyActive rfl h .displayBlanked)
  unfold frameCommitted
  simp only [hPhase, Blanking.commitFrame, if_true]
  rw [hearing_debug]
  split
  · next hSome => exact waiting _ rfl hSome
  · next hNone => exact .nobody (Option.not_isSome_iff_eq_none.mp hNone)

theorem frameCommitted_of_ne {world : World} (h : world.controller.blanking ≠ .awaitingFrame) :
    world.frameCommitted = world := by
  unfold frameCommitted Blanking.commitFrame
  simp only [if_neg h]

/-- What came to rest finishes nobody once nobody is active. -/
theorem hearing_settleAll_of_nobody {world : World} {hearing : Hearing}
    (hHearing : world.hearing = hearing) (h : hearing.ledger.Accounted)
    (hNobody : hearing.ledger.callback = none) {completions : List Completion}
    (known : ∀ completion ∈ completions, ∀ held, completion.registration = some held →
      held.id < hearing.ledger.registry.next) :
    (world.settleAll completions).hearing = hearing := by
  induction completions generalizing world with
  | nil => exact hHearing
  | cons completion rest ih =>
      obtain ⟨hFirst, hRest⟩ := List.forall_mem_cons.mp known
      have hSettles := settles_settle hHearing h hFirst
      have hSettled : ((world.settle completion.registration).dispatchVisibility).hearing =
          hearing := by
        rw [hearing_dispatchVisibility]
        generalize (world.settle completion.registration).hearing = settled at hSettles ⊢
        cases hSettles with
        | waits => rfl
        | finished slot settled same addressee kind rest =>
            exact absurd (slot.symm.trans hNobody) nofun
      exact ih hSettled hRest

/-- Of what came to rest, at most one thing finishes the active registration. -/
theorem settles_settleAll {world : World} {hearing : Hearing}
    (hHearing : world.hearing = hearing) (h : hearing.ledger.Accounted)
    {completions : List Completion}
    (known : ∀ completion ∈ completions, ∀ held, completion.registration = some held →
      held.id < hearing.ledger.registry.next) :
    (world.settleAll completions).hearing = hearing ∨ ∃ completion ∈ completions,
      hearing.Settles completion.registration (world.settleAll completions).hearing := by
  induction completions generalizing world with
  | nil => exact Or.inl hHearing
  | cons completion rest ih =>
      obtain ⟨hFirst, hRest⟩ := List.forall_mem_cons.mp known
      have hSettles := settles_settle hHearing h hFirst
      rw [← hearing_dispatchVisibility] at hSettles
      rw [settleAll, List.foldl_cons, ← settleAll]
      generalize hSettled : ((world.settle completion.registration).dispatchVisibility).hearing =
        settled at hSettles
      have hOver := hSettles.accounted h
      cases hSettles with
      | waits =>
          refine (ih hSettled hRest).imp_right ?_
          rintro ⟨other, hMem, hOther⟩
          exact ⟨other, List.mem_cons_of_mem _ hMem, hOther⟩
      | finished slot settled same addressee kind atRest =>
          refine Or.inr ⟨completion, List.mem_cons_self, ?_⟩
          rw [hearing_settleAll_of_nobody hSettled hOver rfl hRest]
          exact .finished slot settled same addressee kind atRest

theorem settles_animationFrame {world : World} {hearing : Hearing}
    (hHearing : world.hearing = hearing) (h : hearing.ledger.Accounted)
    (known : ∀ layer held, world.agenda.running.get layer = some (some held) →
      held.id < hearing.ledger.registry.next) :
    world.animationFrame.hearing = hearing ∨ ∃ layer registration,
      world.agenda.running.get layer = some registration ∧
      hearing.Settles registration world.animationFrame.hearing := by
  have hShown := (hearing_showAnimations world).trans hHearing
  have hSame : world.animationFrame.hearing = (world.showAnimations.settleAll
      (world.controller.animations.completions world.now)).hearing := by
    unfold animationFrame
    dsimp only
    split
    · rfl
    · rfl
  rw [hSame]
  have hKnown : ∀ completion ∈ world.controller.animations.completions world.now, ∀ held,
      completion.registration = some held → held.id < hearing.ledger.registry.next := by
    intro completion hMem held hHeld
    refine known completion.layer held ?_
    rw [← hHeld]
    exact Animations.carried_of_mem_completions hMem
  refine (settles_settleAll hShown h hKnown).imp_right ?_
  rintro ⟨completion, hMem, hSettles⟩
  exact ⟨completion.layer, completion.registration, Animations.carried_of_mem_completions hMem,
    hSettles⟩

/-! ## Requests -/

section Request

variable {world : World} (h : world.hearing.ledger.Accounted) (hAttached : world.agenda.Attached)

include h hAttached

theorem hearing_update_after {changed : World} (hHearing : changed.hearing = world.hearing)
    (hAgenda : changed.agenda = world.agenda) :
    world.hearing.Updated world.shows changed.update.hearing := by
  have hUpdated := hearing_update hHearing h (hAgenda ▸ hAttached)
  rw [shows_eq_of_agenda hAgenda] at hUpdated
  exact hUpdated

theorem requested_refreshBehind {changed : World} (hHearing : changed.hearing = world.hearing)
    (hAgenda : changed.agenda = world.agenda) (accepted : changed.refreshBehind.error = none) :
    world.hearing.Requested world.shows changed.movesBehind
      changed.refreshBehind.world.hearing := by
  unfold refreshBehind at accepted ⊢
  unfold movesBehind
  dsimp only at accepted ⊢
  split
  · next hStays =>
    rw [hStays, hHearing]
    exact .same
  · next hMoves =>
    rw [Bool.of_not_eq_true hMoves]
    rw [if_neg hMoves] at accepted
    split
    · next hError =>
      rw [hError] at accepted
      cases accepted
    · exact .updated (hearing_update_after h hAttached hHearing hAgenda)

theorem requested_setAodFrontAlpha {alpha : Float32}
    (accepted : (world.setAodFrontAlpha alpha).error = none) :
    world.hearing.Requested world.shows (Operation.updates (.aodFrontAlpha alpha) world)
      (world.setAodFrontAlpha alpha).world.hearing := by
  unfold setAodFrontAlpha at accepted ⊢
  dsimp only [Operation.updates]
  split
  · next hNaN =>
    rw [if_pos hNaN] at accepted
    cases accepted
  · split
    · next hApplies =>
      rw [hApplies]
      exact .updated (hearing_update_after h hAttached rfl rfl)
    · next hWaits =>
      rw [Bool.of_not_eq_true hWaits]
      exact .same

theorem requested_setScreenSensor {active : Bool}
    (accepted : (world.setScreenSensor active).error = none) :
    world.hearing.Requested world.shows (Operation.updates (.screenSensor active) world)
      (world.setScreenSensor active).world.hearing := by
  have hState : (world.override fun facts => { facts with screenSensorActive := active
    }).controller.state = world.controller.state := rfl
  unfold setScreenSensor at accepted ⊢
  dsimp only [Operation.updates] at accepted ⊢
  rw [hState] at accepted ⊢
  by_cases hPulsing : world.controller.state = .pulsing
  · simp only [hPulsing, decide_true, Bool.true_and, if_true] at accepted ⊢
    exact requested_refreshBehind h hAttached rfl rfl accepted
  · simp only [hPulsing, decide_false, Bool.false_and, if_false]
    exact .same

theorem requested_setBackdrop {visible : Bool}
    (accepted : (world.setBackdrop visible).error = none) :
    world.hearing.Requested world.shows (Operation.updates (.backdrop visible) world)
      (world.setBackdrop visible).world.hearing := by
  have hState : (world.override fun facts => { facts with hasBackdrop := visible
    }).controller.state = world.controller.state := rfl
  unfold setBackdrop at accepted ⊢
  dsimp only [Operation.updates] at accepted ⊢
  rw [hState] at accepted ⊢
  cases hLow : world.controller.state.isLowPower with
  | true =>
      simp only [hLow, Bool.true_and, if_true] at accepted ⊢
      exact requested_refreshBehind h hAttached rfl rfl accepted
  | false =>
      simp only [Bool.false_and, Bool.false_eq_true, if_false]
      exact .same

/-- Every accepted request but a transition and the report that the screen is on. -/
theorem hears_run {operation : Operation}
    (hOther : ∀ state callback, operation ≠ .transition state callback)
    (hScreen : operation ≠ .screenOn) (accepted : (operation.run world).error = none) :
    world.hearing.Requested world.shows (operation.updates world)
      (operation.run world).world.hearing := by
  have same : ∀ {after : Hearing}, after = world.hearing →
      world.hearing.Requested world.shows false after := by
    rintro after rfl
    exact .same
  cases operation with
  | transition state callback => exact absurd rfl (hOther state callback)
  | screenOn => exact absurd rfl hScreen
  | panelExpansion fraction => exact same (hearing_setPanelExpansion ..)
  | quickSettings fraction panelBottom => exact same (hearing_setQuickSettings ..)
  | expansionAffectsAlpha affects =>
      cases affects with
      | true => exact same (hearing_applyGesture rfl)
      | false => exact .same
  | aodFrontAlpha alpha => exact requested_setAodFrontAlpha h hAttached accepted
  | screenSensor active => exact requested_setScreenSensor h hAttached accepted
  | backdrop visible => exact requested_setBackdrop h hAttached accepted
  | keyguardOccluded occluded =>
      simp only [Operation.run, setKeyguardOccluded]
      exact .updated (hearing_update_after h hAttached rfl rfl)
  | keyguardAlpha alpha =>
      simp only [Operation.run, setKeyguardAlpha]
      split
      · exact .same
      · exact same (hearing_scheduleUpdate _)
  | theme palette =>
      simp only [Operation.run, themeChanged]
      exact same (hearing_scheduleUpdate _)
  | themeChanged =>
      simp only [Operation.run, themeChanged]
      exact same (hearing_scheduleUpdate _)
  | keyguardVisibility showing =>
      simp only [Operation.run, keyguardVisibilityChanged]
      exact same (hearing_scheduleUpdate _)
  | wallpaperTimeout => exact same (hearing_hideWallpaper world)
  | wakeLock => exact .same
  | trackingStarted _ => exact .same
  | expandingFinished => exact .same
  | ambientWallpaper _ => exact .same
  | keyguardFadingAway _ _ => exact .same
  | launchingAffordance _ => exact .same
  | docked _ => exact .same
  | alwaysOn _ => exact .same
  | slowUnlock _ => exact .same
  | screenOff => exact .same

/-- Turning the screen on shows the targets if their reveal is awaited. -/
theorem hears_screenTurnedOn : world.hearing.Requested true (Operation.updates .screenOn world)
    world.screenTurnedOn.hearing := by
  unfold screenTurnedOn Blanking.expediteReveal
  dsimp only [Operation.updates]
  by_cases hAwaited : world.controller.blanking = .awaitingReveal ∧
      world.host.scheduler.hasPending .blankingTransition = true
  · have revealed : ∀ w : World, w.hearing = world.hearing → w.agenda.Attached →
        w.controller.blanking = .awaitingReveal → world.hearing.Requested true true
          w.reveal.hearing := by
      intro w hSame hRevealed hPhase
      exact .updated (hearing_reveal hSame h hRevealed hPhase)
    simp only [hAwaited.1, hAwaited.2, decide_true, Bool.and_self, if_true]
    exact revealed _ rfl hAttached rfl
  · have hNone : (decide (world.controller.blanking = .awaitingReveal) &&
        world.host.scheduler.hasPending .blankingTransition) = false := by simpa using hAwaited
    simp only [hNone, Bool.false_eq_true, if_false]
    exact .same

end Request

/-! ## Transitions -/

/-- Whether a transition into a state is to blank the display first. -/
def blanksInto (world : World) (state : State) : Bool :=
  (world.controller.catalog.descriptor state world.controller.state).blanksScreen

/-- What entering a state makes of a world, with the agenda and the hearing that it starts from. -/
inductive EntersWith (agenda : Agenda) (hearing : Hearing) (after : World) : Prop where
  /-- The update runs with the next frame. -/
  | deferred (agendas : after.agenda = agenda.schedule) (hearings : after.hearing = hearing) :
      EntersWith agenda hearing after
  /-- The update has run. -/
  | applied {started : Hearing} (update : agenda.unschedule.Updated after.agenda)
      (tells : hearing.Tells .start started)
      (hears : started.Updated (!agenda.blanking.isPending && !agenda.blankScreen)
        after.hearing) : EntersWith agenda hearing after

theorem entersWith_applyTransition {world : World} {agenda : Agenda} {hearing : Hearing}
    (hAgenda : world.agenda = agenda) (hHearing : world.hearing = hearing)
    (hListening : agenda.listening = agenda.updatePending) (hAttached : agenda.Attached)
    (h : hearing.ledger.Accounted) (previous : State) :
    EntersWith agenda hearing (world.applyTransition previous) := by
  subst hAgenda
  unfold applyTransition
  split
  · exact .deferred (agenda_scheduleUpdate rfl hListening)
      ((hearing_scheduleUpdate _).trans hHearing)
  · split
    · obtain ⟨started, hTells, hHears⟩ := hearing_preDraw hHearing h hAttached
      exact .applied (updated_preDraw hAttached) hTells hHears
    · exact .deferred (agenda_scheduleUpdate rfl hListening)
        ((hearing_scheduleUpdate _).trans hHearing)

/-- A transition before its targets are applied: the blanking of the one before is abandoned, and
the palette, the wake lock and the time of the wallpaper are seen to. -/
def readied (world : World) : World :=
  let abandoned := world.abandonBlanking
  let state := abandoned.controller.state
  let marked := { abandoned with controller.paletteStale := state ≠ State.brightnessMirror }
  (if state.isLowPower then marked.holdWakeLock else marked).restartWallpaper

theorem completeTransition_eq (world : World) (previous : State) :
    world.completeTransition previous =
      (world.readied.applyTransition previous).dispatchState
        (world.readied.applyTransition previous).host.surfaces.behind.alpha := rfl

theorem hearing_readied (world : World) : world.readied.hearing = world.hearing := by
  unfold readied
  dsimp only
  split
  · rfl
  · rfl

theorem agenda_readied (world : World) : ∃ task : Task, task.blanks = false ∧
    world.readied.agenda = world.agenda.enter world.controller.state.isLowPower
      world.agenda.callback world.agenda.blankScreen task := by
  have posted : ∀ w : World, ∃ task : Task, task.blanks = false ∧
      w.restartWallpaper.agenda = w.agenda.post task := by
    intro w
    refine ⟨if w.fadesWallpaper then .scheduleWallpaperTimeout else .cancelWallpaperTimeout,
      ?_, rfl⟩
    split
    · rfl
    · rfl
  unfold readied
  extract_lets abandoned state controller marked
  have hMarked : marked.agenda = { world.agenda with
      blanking := .idle
      scheduler := (world.agenda.scheduler.cancel .pendingFrame).cancel .blankingTransition } := rfl
  have hAwake : (if state.isLowPower then marked.holdWakeLock else marked).agenda =
      if state.isLowPower then marked.agenda.hold else marked.agenda := by
    split
    · rfl
    · rfl
  obtain ⟨task, hTask, hPosted⟩ :=
    posted (if state.isLowPower then marked.holdWakeLock else marked)
  refine ⟨task, hTask, ?_⟩
  rw [hPosted, hAwake, hMarked]
  rfl

/-- An accepted transition into another state cancels who was active, registers the new callback,
and applies the targets now or with the next frame. -/
theorem entersWith_transition {world : World} {state : State} {callback : Option Callback}
    (hOther : state ≠ world.controller.state)
    (h : world.hearing.ledger.Accounted)
    (hListening : world.agenda.listening = world.agenda.updatePending)
    (hAttached : world.agenda.Attached)
    (accepted : (world.transition state callback).error = none) :
    ∃ (entered : Ledger) (task : Task), task.blanks = false ∧ world.ledger.Replaced entered ∧
      EntersWith
        (world.agenda.enter state.isLowPower entered.callback (world.blanksInto state) task)
        ⟨entered, false⟩ (world.transition state callback).world := by
  obtain ⟨-, targets, hTransition⟩ := transition_of_accepted hOther accepted
  have hReplaced := replaced_enter h state callback
  obtain ⟨registration, blank, hEnter⟩ := agenda_enter world state callback
  have hBlank : (world.enter state callback).agenda.blankScreen = world.blanksInto state := rfl
  have hFresh : (world.enter state callback).hearing.blanked = false := rfl
  have hState := state_enter world state callback
  have hSlot : (world.enter state callback).ledger.callback =
      (world.enter state callback).agenda.callback := rfl
  rw [hTransition]
  generalize world.enter state callback = entered at hReplaced hEnter hBlank hFresh hState hSlot ⊢
  refine ⟨entered.ledger, ?_⟩
  have hOverlaid : World.agenda { entered with controller.targets := targets } =
      entered.agenda := rfl
  have hHearing : World.hearing { entered with controller.targets := targets } =
      ⟨entered.ledger, false⟩ := congrArg (Hearing.mk entered.ledger) hFresh
  have hSame : World.controller { entered with controller.targets := targets } =
      { entered.controller with targets := targets } := rfl
  generalize ({ entered with controller.targets := targets } : World) = overlaid
    at hOverlaid hHearing hSame ⊢
  have hEntered : overlaid.agenda =
      { world.agenda with callback := entered.ledger.callback
                          blankScreen := world.blanksInto state } := by
    rw [hOverlaid, hSlot, ← hBlank, hEnter]
  have hTarget : overlaid.controller.state = state := by rw [hSame]; exact hState
  obtain ⟨task, hTask, hReadied⟩ := agenda_readied overlaid
  rw [hTarget] at hReadied
  have hAgenda : overlaid.readied.agenda = world.agenda.enter state.isLowPower
      entered.ledger.callback (world.blanksInto state) task := by
    rw [hReadied, hEntered]
    rfl
  refine ⟨task, hTask, hReplaced, ?_⟩
  have hApplied := entersWith_applyTransition hAgenda
    ((hearing_readied overlaid).trans hHearing) (Agenda.listens_enter _ _ _ _ hListening)
    (hAttached.enter _ _ _ _) (Accounted.replaced h hReplaced) world.controller.state
  rw [completeTransition_eq]
  generalize overlaid.readied.applyTransition world.controller.state = applied at hApplied ⊢
  cases hApplied with
  | deferred agendas hearings => exact .deferred agendas hearings
  | applied update tells hears => exact .applied update tells hears

/-! ## Steps -/

inductive Heard (world after : World) : Event → Prop where
  | requested {operation : Operation}
      (other : ∀ state callback, operation ≠ .transition state callback)
      (screen : operation ≠ .screenOn)
      (adjusted : world.agenda.Adjusted (operation.updates world) after.agenda)
      (hears : world.hearing.Requested world.shows (operation.updates world) after.hearing) :
      Heard world after (.request operation)
  /-- The screen was turned on while no reveal was awaited. -/
  | lit (agendas : after.agenda = world.agenda) (hearings : after.hearing = world.hearing) :
      Heard world after (.request .screenOn)
  /-- Turning the screen on cut an awaited reveal short. -/
  | expedited (phase : world.controller.blanking = .awaitingReveal)
      (update : world.agenda.expedite.reveal.Updated after.agenda)
      (hears : world.hearing.Updated true after.hearing) : Heard world after (.request .screenOn)
  | confirmed {state : State} {callback : Option Callback}
      (active : state = world.controller.state) (confirms : after = world.confirm callback) :
      Heard world after (.request (.transition state callback))
  | entered {state : State} {callback : Option Callback} {ledger : Ledger} {task : Task}
      (other : state ≠ world.controller.state) (aside : task.blanks = false)
      (replaced : world.ledger.Replaced ledger)
      (enters : EntersWith (world.agenda.enter state.isLowPower ledger.callback
        (world.blanksInto state) task) ⟨ledger, false⟩ after) :
      Heard world after (.request (.transition state callback))
  | clock (time : Nat)
      (agendas : after.agenda =
        world.agenda.onScheduler (world.agenda.scheduler.advanceTo time))
      (hearings : after.hearing = world.hearing) : Heard world after (.clock time)
  | alarm (agendas : after.agenda = world.agenda ∨ after.agenda = world.agenda.hold.schedule)
      (hearings : after.hearing = world.hearing) : Heard world after .alarm
  /-- The task is none of a blanking, or of a phase that is over. -/
  | stray {task : Task} {rest : Scheduler}
      (due : world.agenda.scheduler.popDue = some (task, rest))
      (commit : world.controller.blanking = .awaitingFrame → task ≠ .pendingFrame)
      (agendas : after.agenda = world.agenda.onScheduler rest)
      (hearings : after.hearing = world.hearing) : Heard world after (.host (.task task))
  | committed {rest : Scheduler} (delay : Nat)
      (due : world.agenda.scheduler.popDue = some (.pendingFrame, rest))
      (phase : world.controller.blanking = .awaitingFrame)
      (agendas : after.agenda = { world.agenda with
        blanking := .awaitingReveal
        scheduler := rest.postDelayed .blankingTransition delay })
      (covers : world.hearing.Covers after.hearing) :
      Heard world after (.host (.task .pendingFrame))
  | revealed {rest : Scheduler} (phase : world.controller.blanking = .awaitingReveal)
      (update : (world.agenda.onScheduler rest).reveal.Updated after.agenda)
      (hears : world.hearing.Updated true after.hearing) :
      Heard world after (.host (.task .blankingTransition))
  /-- Animations ended or not, but none of the active registration. -/
  | framed (framed : world.agenda.answer.Framed after.agenda)
      (hearings : after.hearing = world.hearing) : Heard world after (.host .animationFrame)
  | settled {layer : Layer} {registration : Option Registration}
      (framed : world.agenda.answer.Framed after.agenda)
      (carried : world.agenda.running.get layer = some registration)
      (settles : world.hearing.Settles registration after.hearing) :
      Heard world after (.host .animationFrame)
  | preDraw {started : Hearing} (update : world.agenda.unschedule.Updated after.agenda)
      (tells : world.hearing.Tells .start started)
      (hears : started.Updated world.shows after.hearing) : Heard world after (.host .preDraw)

theorem heard_runTask {world : World} {task : Task} {rest : Scheduler}
    (h : world.hearing.ledger.Accounted) (hAttached : world.agenda.Attached)
    (due : world.agenda.scheduler.popDue = some (task, rest)) :
    Heard world ({ world with host.scheduler := rest }.runTask task) (.host (.task task)) := by
  have hTaken : World.hearing { world with host.scheduler := rest } = world.hearing := rfl
  have hPhase : World.controller { world with host.scheduler := rest } = world.controller := rfl
  have hAgenda : World.agenda { world with host.scheduler := rest } =
      world.agenda.onScheduler rest := rfl
  generalize ({ world with host.scheduler := rest } : World) = taken
    at hTaken hPhase hAgenda ⊢
  have aside : task ≠ .pendingFrame → (taken.runTask task).agenda = taken.agenda →
      (taken.runTask task).hearing = taken.hearing →
      Heard world (taken.runTask task) (.host (.task task)) := by
    intro hTask hSame hHeard
    exact .stray due (fun _ => hTask) (hSame.trans hAgenda) (hHeard.trans hTaken)
  cases task with
  | pendingFrame =>
      rcases agenda_frameCommitted taken with ⟨hSame, hOther⟩ | ⟨hFrame, hCommitted⟩
      · have hNone : world.controller.blanking ≠ .awaitingFrame := hPhase ▸ hOther
        refine .stray due (fun hFrame => absurd hFrame hNone) (hSame.trans hAgenda) ?_
        rw [runTask, frameCommitted_of_ne hOther, hTaken]
      · refine .committed (Blanking.revealDelay taken.controller.screenOn) due (hPhase ▸ hFrame) ?_
          (hearing_frameCommitted hTaken h hFrame)
        rw [runTask, hCommitted, hAgenda]
        rfl
  | blankingTransition =>
      by_cases hReveal : taken.agenda.blanking = .awaitingReveal
      · have hGround : taken.agenda.Attached := by rw [hAgenda]; exact hAttached
        have hRevealed : (world.agenda.onScheduler rest).reveal.Updated
            (taken.runTask .blankingTransition).agenda :=
          updated_reveal hAgenda hAttached (hAgenda ▸ hReveal)
        exact .revealed (hPhase ▸ hReveal) hRevealed (hearing_reveal hTaken h hGround hReveal)
      · exact aside (by decide) (by rw [runTask, reveal_of_ne hReveal])
          (by rw [runTask, reveal_of_ne hReveal])
  | scheduleWallpaperTimeout => exact aside (by decide) rfl rfl
  | cancelWallpaperTimeout => exact aside (by decide) rfl rfl

theorem heard_screenTurnedOn {world : World} (h : world.hearing.ledger.Accounted)
    (hAttached : world.agenda.Attached) :
    Heard world world.screenTurnedOn (.request .screenOn) := by
  have hHears := hears_screenTurnedOn h hAttached
  dsimp only [Operation.updates] at hHears
  by_cases hAwaited : world.controller.blanking = .awaitingReveal ∧
      world.host.scheduler.hasPending .blankingTransition = true
  · have hUpdated := updated_screenTurnedOn hAttached hAwaited.1 hAwaited.2
    simp only [hAwaited.1, hAwaited.2, decide_true, Bool.and_self] at hHears
    generalize world.screenTurnedOn = after at hHears hUpdated ⊢
    generalize hHearing : after.hearing = hearing at hHears
    cases hHears with
    | updated update => exact .expedited hAwaited.1 hUpdated (hHearing ▸ update)
  · have hSame := agenda_screenTurnedOn hAwaited
    have hNone : (decide (world.controller.blanking = .awaitingReveal) &&
        world.host.scheduler.hasPending .blankingTransition) = false := by simpa using hAwaited
    rw [hNone] at hHears
    generalize world.screenTurnedOn = after at hHears hSame ⊢
    generalize hHearing : after.hearing = hearing at hHears
    cases hHears with
    | same => exact .lit hSame hHearing

/-- A step lets callbacks hear what its event does. -/
theorem Step.heard {before after : World} {event : Event} (step : Step before event after)
    (h : before.Accountable) : Heard before after event := by
  have hAccounted : before.hearing.ledger.Accounted := h.accounted
  have hAttached := h.driven.attached
  cases step with
  | @request operation accepted =>
      by_cases hTransition : ∃ state callback, operation = .transition state callback
      · obtain ⟨state, callback, rfl⟩ := hTransition
        by_cases hActive : state = before.controller.state
        · exact .confirmed hActive (transition_of_active hActive accepted)
        · obtain ⟨ledger, task, hTask, hReplaced, hEnters⟩ := entersWith_transition hActive
            hAccounted h.driven.listens hAttached accepted
          exact .entered hActive hTask hReplaced hEnters
      · have hOther : ∀ state callback, operation ≠ .transition state callback :=
          fun state callback hEq => hTransition ⟨state, callback, hEq⟩
        by_cases hScreen : operation = .screenOn
        · subst hScreen
          exact heard_screenTurnedOn hAccounted hAttached
        · exact .requested hOther hScreen
            (adjusted_run hOther hScreen h.driven.listens hAttached accepted)
            (hears_run hAccounted hAttached hOther hScreen accepted)
  | clock time => exact .clock time rfl rfl
  | alarm due =>
      have hAgenda : World.agenda { before with host.alarm := before.host.alarm.cancel } =
          before.agenda := rfl
      refine .alarm ?_ (hearing_hideWallpaper _)
      rw [agenda_hideWallpaper hAgenda h.driven.listens]
      split
      · exact Or.inr rfl
      · exact Or.inl rfl
  | task due => exact heard_runTask hAccounted hAttached due
  | animationFrame requested =>
      have hFramed : before.agenda.answer.Framed (World.animationFrame { before with
          host.scheduler := before.host.scheduler.takeFrameRequest.2 }).agenda :=
        framed_animationFrame rfl h.driven.covered
      have hAnswered : World.hearing { before with
          host.scheduler := before.host.scheduler.takeFrameRequest.2 } = before.hearing := rfl
      have hKnown : ∀ layer held, before.agenda.running.get layer = some (some held) →
          held.id < before.hearing.ledger.registry.next :=
        fun layer held hCarried => h.known held (Or.inr ⟨layer, hCarried⟩)
      rcases settles_animationFrame hAnswered hAccounted hKnown with
        hSame | ⟨layer, registration, hCarried, hSettles⟩
      · exact .framed hFramed hSame
      · exact .settled hFramed hCarried hSettles
  | preDraw listening =>
      obtain ⟨started, hTells, hUpdated⟩ := hearing_preDraw rfl hAccounted hAttached
      exact .preDraw (updated_preDraw hAttached) hTells hUpdated

end World

end Scrim
