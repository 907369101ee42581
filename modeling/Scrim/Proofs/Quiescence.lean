import Scrim.Proofs.Guard

/-!
# Quiescence

A simulation is idle once its host owes it nothing: no frame, no notice of a frame, and no
task. The controller then owes nothing either. No callback waits, nothing runs, nothing is
blanked, no update is pending, and the wake lock has been released as often as it was
acquired. `Simulation.Reached.quiescence` is the main statement.

The first half of it is that nothing is left behind (`Agenda.Driven`); the second is that the
calls on the wake lock come in rounds (`WakeGuard.Paired`).
-/

namespace Scrim

namespace World

/-! ## What is left to be done -/

/-- Whatever a world has left to do will be done: something that makes it happen has been asked
for, registered or queued. -/
structure Attended (world : World) : Prop where
  animation : ∀ layer, (world.controller.animations.get? layer).isSome = true →
    world.host.scheduler.frameRequested = true
  update : world.controller.updatePending = true →
    world.host.surfaces.behind.preDrawListener = true
  blankFrame : world.controller.blanking = .awaitingFrame →
    world.host.scheduler.hasPending .pendingFrame = true
  reveal : world.controller.blanking = .awaitingReveal →
    world.host.scheduler.hasPending .blankingTransition = true
  /-- A callback or a held wake lock waits for one of them. -/
  waiting : world.controller.callback.isSome = true ∨ world.controller.wakeGuard.held = true →
    world.controller.updatePending = true ∨
      (∃ layer, (world.controller.animations.get? layer).isSome = true) ∨
      world.controller.blanking.isPending = true

/-- Nothing is left to do, and the wake lock was released as often as it was acquired. -/
structure Quiescent (world : World) : Prop where
  slot : world.controller.callback = none
  still : ∀ layer, world.controller.animations.get? layer = none
  unblanked : world.controller.blanking = .idle
  updated : world.controller.updatePending = false
  released : world.controller.wakeGuard.held = false
  rounds : ∃ count, world.journal.lockCalls.reverse = LockCall.rounds count

theorem moving_iff {world : World} : world.agenda.moving = true ↔
    ∃ layer, (world.controller.animations.get? layer).isSome = true := by
  simp only [Agenda.moving, List.any_eq_true, agenda, Animations.get_carried, Option.isSome_map]
  constructor
  · rintro ⟨layer, -, h⟩
    exact ⟨layer, h⟩
  · rintro ⟨layer, h⟩
    exact ⟨layer, layer.mem_all, h⟩

theorem attended_of_driven {world : World} (h : world.agenda.Driven) : world.Attended where
  animation layer hRuns := h.frames (moving_iff.mpr ⟨layer, hRuns⟩)
  update hPending := h.listens.trans hPending
  blankFrame := h.commits
  reveal := h.reveals
  waiting hWaits := (h.waits hWaits).imp_right (Or.imp_left moving_iff.mp)

end World

namespace Simulation

open World

/-- Without anything asked for, registered or queued, nothing is left to do. -/
theorem quiescent_of_isIdle {simulation : Simulation} (attended : simulation.world.Attended)
    (paired : simulation.world.controller.wakeGuard.Paired simulation.world.journal.lockCalls)
    (idle : simulation.isIdle = true) :
    simulation.world.Quiescent := by
  obtain ⟨hFrame, hListener, hQueue⟩ :
      simulation.world.host.scheduler.frameRequested = false ∧
      simulation.world.host.surfaces.behind.preDrawListener = false ∧
      simulation.world.host.scheduler.queue = [] := by
    simpa [isIdle, needsFrame, Scheduler.nextDue, and_assoc] using idle
  have hEmpty : ∀ task, simulation.world.host.scheduler.hasPending task = false := by
    intro task
    simp [Scheduler.hasPending, hQueue]
  have hUpdate : simulation.world.controller.updatePending = false :=
    Bool.of_not_eq_true fun h => by simp [attended.update h] at hListener
  have hStill : ∀ layer, simulation.world.controller.animations.get? layer = none := by
    intro layer
    apply Option.not_isSome_iff_eq_none.mp
    intro h
    simp [attended.animation layer h] at hFrame
  have hIdle : simulation.world.controller.blanking = .idle := by
    cases hPhase : simulation.world.controller.blanking with
    | idle => rfl
    | awaitingFrame => simpa [hEmpty] using attended.blankFrame hPhase
    | awaitingReveal => simpa [hEmpty] using attended.reveal hPhase
  have hNobody : ¬(simulation.world.controller.callback.isSome = true ∨
      simulation.world.controller.wakeGuard.held = true) := by
    intro hWaits
    rcases attended.waiting hWaits with h | ⟨layer, h⟩ | h
    · simp [hUpdate] at h
    · simp [hStill] at h
    · simp [hIdle, Blanking.isPending] at h
  obtain ⟨hSlot, hHeld⟩ := not_or.mp hNobody
  obtain ⟨rounds, hCalls⟩ := paired.calls
  refine ⟨Option.not_isSome_iff_eq_none.mp hSlot, hStill, hIdle, hUpdate,
    Bool.of_not_eq_true hHeld, rounds, ?_⟩
  have hReleased : simulation.world.controller.wakeGuard.held = false :=
    Bool.of_not_eq_true hHeld
  rw [hReleased, if_neg Bool.false_ne_true, List.append_nil] at hCalls
  exact hCalls

/-- Whatever calls are made on a simulation, all that is left to do will be done, and once the
simulation is idle nothing is. -/
theorem Reached.quiescence {settings : Settings} {options : SimulationOptions}
    {simulation : Simulation} (h : Reached settings options simulation) :
    simulation.world.Attended ∧ (simulation.isIdle = true → simulation.world.Quiescent) := by
  have hAttended := attended_of_driven h.reachable.driven
  exact ⟨hAttended, quiescent_of_isIdle hAttended h.reachable.paired⟩

def blankedDoze : Settings where
  doze := { controlsScreenOff := false, displayNeedsBlanking := true }

set_option maxRecDepth 100000 in
/-- Dozing behind a black frame takes one round of the wake lock; then all is done. -/
theorem quiescence_of_blankedDoze :
    ∃ simulation, play blankedDoze {} [.perform (.transition .aod (some ⟨0, "doze"⟩)),
        .runUntilIdle (Time.ofMillis 1000)] = some simulation ∧
      simulation.isIdle = true ∧ simulation.world.journal.lockCalls = [.release, .acquire] ∧
      simulation.world.Quiescent := by
  have hPlayed : (play blankedDoze {} [.perform (.transition .aod (some ⟨0, "doze"⟩)),
      .runUntilIdle (Time.ofMillis 1000)]).any (fun simulation => simulation.isIdle &&
        simulation.world.journal.lockCalls = [.release, .acquire]) = true := by
    decide +kernel
  obtain ⟨simulation, hPlay, hLast⟩ := (Option.any_eq_true _ _).mp hPlayed
  obtain ⟨hIdle, hCalls⟩ := Bool.and_eq_true_iff.mp hLast
  exact ⟨simulation, hPlay, hIdle, of_decide_eq_true hCalls,
    (reached_play hPlay).quiescence.2 hIdle⟩

end Simulation

end Scrim
