import Scrim.Proofs.Agenda.Request

/-!
# What a step does to the agenda

`World.Stepped` lists for every event of a run what it makes of the agenda, and
`World.Step.stepped` says that the list is complete. What is to hold in every run is then shown
of agendas, without opening the controller again.
-/

namespace Scrim

def Agenda.fresh (options : SimulationOptions) : Agenda where
  callback := none
  running := .splat none
  blanking := .idle
  blankScreen := false
  wakeGuard := { lock := if options.wakeLock then some () else none }
  lockCalls := []
  updatePending := false
  listening := false
  scheduler := {}
  auxiliary := options.auxiliary

namespace World

inductive Stepped (world : World) : Event → Agenda → Prop where
  | requested {operation : Operation} {after : Agenda}
      (other : ∀ state callback, operation ≠ .transition state callback)
      (request : world.agenda.Requested (operation.updates world) after) :
      Stepped world (.request operation) after
  | confirmed {state : State} {callback : Option Callback}
      (active : state = world.controller.state) :
      Stepped world (.request (.transition state callback)) world.agenda
  | entered {state : State} {callback : Option Callback} {after : Agenda}
      (other : state ≠ world.controller.state)
      (entered : world.agenda.Entered state.isLowPower after) :
      Stepped world (.request (.transition state callback)) after
  | clock (time : Nat) :
      Stepped world (.clock time)
        (world.agenda.onScheduler (world.agenda.scheduler.advanceTo time))
  | alarm :
      Stepped world .alarm
        (if world.controller.state.isLowPower then world.agenda.hold.schedule else world.agenda)
  | task {task : Task} {scheduler : Scheduler} {after : Agenda}
      (due : world.agenda.scheduler.popDue = some (task, scheduler))
      (delivered : (world.agenda.onScheduler scheduler).Delivered task after) :
      Stepped world (.host (.task task)) after
  | animationFrame {after : Agenda} (framed : world.agenda.answer.Framed after) :
      Stepped world (.host .animationFrame) after
  | preDraw {after : Agenda} (update : world.agenda.unschedule.Updated after) :
      Stepped world (.host .preDraw) after

theorem Step.stepped {before after : World} {event : Event} (step : Step before event after)
    (hListening : before.agenda.listening = before.agenda.updatePending)
    (hAttached : before.agenda.Attached)
    (hCovered : before.agenda.blanking.isPending = true → before.agenda.moving = false) :
    Stepped before event after.agenda := by
  cases step with
  | @request operation accepted =>
      by_cases hTransition : ∃ state callback, operation = .transition state callback
      · obtain ⟨state, callback, rfl⟩ := hTransition
        by_cases hActive : state = before.controller.state
        · rw [Operation.run, transition_of_active hActive accepted, agenda_confirm]
          exact .confirmed hActive
        · exact .entered hActive (entered_transition hActive hListening hAttached accepted)
      · have hOther : ∀ state callback, operation ≠ .transition state callback :=
          fun state callback h => hTransition ⟨state, callback, h⟩
        exact .requested hOther (requested_run hOther hListening hAttached accepted)
  | clock time => exact .clock time
  | alarm due =>
      have hAgenda : World.agenda { before with host.alarm := before.host.alarm.cancel } =
          before.agenda := rfl
      rw [agenda_hideWallpaper hAgenda hListening]
      exact .alarm
  | @task task scheduler due =>
      have hAgenda : World.agenda { before with host.scheduler := scheduler } =
          before.agenda.onScheduler scheduler := rfl
      exact .task due (delivered_runTask hAgenda hAttached task)
  | animationFrame requested =>
      have hAgenda : World.agenda { before with
          host.scheduler := before.host.scheduler.takeFrameRequest.2 } = before.agenda.answer := rfl
      exact .animationFrame (framed_animationFrame hAgenda hCovered)
  | preDraw listening => exact .preDraw (updated_preDraw hAttached)

theorem updated_attach {settings : Settings} {theme : Palette} {options : SimulationOptions}
    {world : World}
    (h : attach settings theme options.auxiliary options.wakeLock = .ok world) :
    (Agenda.fresh options).Updated world.agenda := by
  unfold attach at h
  split at h
  · cases h
  · obtain rfl := Except.ok.inj h
    rw [agenda_debug]
    refine updated_update ?_ fun _ => rfl
    rcases options with ⟨_, auxiliary, _, _⟩
    cases auxiliary
    · rfl
    · rfl

theorem updated_create {settings : Settings} {options : SimulationOptions}
    {simulation : Simulation} (h : Simulation.create settings options = .ok simulation) :
    (Agenda.fresh options).Updated simulation.world.agenda := by
  unfold Simulation.create at h
  split at h
  · cases h
  · next world hAttach =>
    have hUpdated := updated_attach hAttach
    obtain rfl := Except.ok.inj h
    -- nothing is blanked yet, so there is no reveal to hasten
    have hIdle : world.controller.blanking.isPending = false := hUpdated.idle rfl rfl
    have hPhase : world.controller.blanking = .idle := by simpa [Blanking.isPending] using hIdle
    dsimp only
    split
    · rw [agenda_screenTurnedOn (by simp [hPhase])]
      exact hUpdated
    · exact hUpdated

end World

end Scrim
