import Scrim.Proofs.Steady

/-!
# Nothing is left behind

Whatever a world still has to do, something is on its way that will do it: a requested frame
for a running animation, the listener for a pending update, a queued task for each phase of a
blanking. `Agenda.Driven` says so, and says it of those who wait: an active registration or a
held wake lock waits for one of the three. `World.Reachable.driven` is the main statement.

The part of it that an update needs, and does not establish itself, is `Agenda.Grounded`.
-/

namespace Scrim

namespace Scheduler

@[simp] theorem hasPending_postDelayed (scheduler : Scheduler) (task other : Task)
    (delay : Nat) : (scheduler.postDelayed task delay).hasPending other =
      (decide (task = other) || scheduler.hasPending other) := by
  simp [hasPending, postDelayed, Bool.or_comm]

@[simp] theorem hasPending_post (scheduler : Scheduler) (task other : Task) :
    (scheduler.post task).hasPending other =
      (decide (task = other) || scheduler.hasPending other) :=
  hasPending_postDelayed ..

/-- Taking a task leaves every other one. -/
theorem hasPending_of_popDue {scheduler rest : Scheduler} {task other : Task}
    (h : scheduler.popDue = some (task, rest)) (hOther : other ≠ task) :
    rest.hasPending other = scheduler.hasPending other := by
  obtain ⟨before, posted, after, hQueue, rfl, hTask, -⟩ := popDue_eq_some h
  simp [hasPending, hQueue, hTask, Ne.symm hOther]

theorem frameRequested_of_popDue {scheduler rest : Scheduler} {task : Task}
    (h : scheduler.popDue = some (task, rest)) :
    rest.frameRequested = scheduler.frameRequested := by
  obtain ⟨before, posted, after, -, rfl, -⟩ := popDue_eq_some h
  rfl

end Scheduler

namespace Agenda

/-- A pending update has its listener and a blanking has its task, and no animation runs on a
layer that is not there. -/
structure Grounded (agenda : Agenda) : Prop where
  listens : agenda.listening = agenda.updatePending
  commits : agenda.blanking = .awaitingFrame → agenda.scheduler.hasPending .pendingFrame = true
  reveals :
    agenda.blanking = .awaitingReveal → agenda.scheduler.hasPending .blankingTransition = true
  attached : agenda.Attached

/-- Whatever is left to be done has something on its way that will do it. -/
structure Driven (agenda : Agenda) : Prop extends Grounded agenda where
  /-- Animations get their next frame. -/
  frames : agenda.moving = true → agenda.scheduler.frameRequested = true
  /-- Nothing moves behind a held black frame. -/
  covered : agenda.blanking.isPending = true → agenda.moving = false
  /-- Animations of a registration that was replaced run only until the pending update. -/
  holders : agenda.updatePending = false → ∀ layer,
    agenda.running.get layer = none ∨ agenda.running.get layer = some agenda.callback
  /-- Who waits is not forgotten. -/
  waits : agenda.callback.isSome = true ∨ agenda.wakeGuard.held = true →
    agenda.updatePending = true ∨ agenda.moving = true ∨ agenda.blanking.isPending = true

variable {agenda after : Agenda}

theorem Driven.steady (h : agenda.Driven) : agenda.Steady :=
  ⟨h.listens, h.attached, h.covered⟩

/-! ## Updates -/

theorem held_release (agenda : Agenda) : agenda.release.wakeGuard.held = false := by
  unfold release WakeGuard.release
  cases hHeld : agenda.wakeGuard.held with
  | true => rfl
  | false => exact hHeld

/-- Without animations, all that counts is who waits. -/
theorem Grounded.driven_of_still (h : agenda.Grounded) (still : agenda.running = .splat none)
    (waits : agenda.callback.isSome = true ∨ agenda.wakeGuard.held = true →
      agenda.updatePending = true ∨ agenda.blanking.isPending = true) : agenda.Driven :=
  have hStill : agenda.moving = false := moving_eq_false_iff.mpr still
  { h with
    frames := fun hMoving => absurd hMoving (by simp [hStill])
    covered := fun _ => hStill
    holders := fun _ layer => Or.inl (by rw [still, PerLayer.get_splat])
    waits := fun hWaits => (waits hWaits).imp_right Or.inr }

/-- An update leaves nothing behind, whatever ran before it. -/
theorem Grounded.driven_of_updated (h : agenda.Grounded) (update : agenda.Updated after) :
    after.Driven := by
  cases update with
  | held pending =>
      exact Grounded.driven_of_still { h with attached := fun _ => rfl } rfl
        fun _ => Or.inr pending
  | blanked idle blank =>
      exact Grounded.driven_of_still
        { listens := h.listens
          commits := fun _ => by simp
          reveals := nofun
          attached := fun _ => rfl } rfl fun _ => Or.inr rfl
  | moving idle clear holders attached moves =>
      exact
        { listens := h.listens
          commits := h.commits
          reveals := h.reveals
          attached := attached
          frames := fun _ => Bool.or_eq_true_iff.mpr (Or.inr moves)
          covered := fun hPending => absurd (idle.symm.trans hPending) Bool.false_ne_true
          holders := fun _ => holders
          waits := fun _ => Or.inr (Or.inl moves) }
  | settled idle clear =>
      refine Grounded.driven_of_still
        { h with attached := fun _ => rfl } rfl fun hWaits => ?_
      rcases hWaits with hSlot | hHeld
      · cases hSlot
      · exact absurd ((held_release agenda).symm.trans hHeld) Bool.false_ne_true

/-! ## Small changes -/

theorem Grounded.schedule (h : agenda.Grounded) : agenda.schedule.Grounded :=
  { h with listens := rfl }

theorem Grounded.unschedule (h : agenda.Grounded) : agenda.unschedule.Grounded :=
  { h with listens := rfl }

theorem Grounded.post (h : agenda.Grounded) (task : Task) : (agenda.post task).Grounded :=
  { h with
    commits := fun hPhase => by simp [Agenda.post, h.commits hPhase]
    reveals := fun hPhase => by simp [Agenda.post, h.reveals hPhase] }

/-- A pending update takes care of all but the frames of what still moves. -/
theorem Grounded.driven_schedule (h : agenda.Grounded)
    (frames : agenda.moving = true → agenda.scheduler.frameRequested = true)
    (covered : agenda.blanking.isPending = true → agenda.moving = false) :
    agenda.schedule.Driven :=
  { h.schedule with
    frames := frames
    covered := covered
    holders := nofun
    waits := fun _ => Or.inl rfl }

theorem Driven.post (h : agenda.Driven) (task : Task) : (agenda.post task).Driven :=
  { h.toGrounded.post task with
    frames := h.frames
    covered := h.covered
    holders := h.holders
    waits := h.waits }

theorem Driven.requested {updates : Bool} (h : agenda.Driven)
    (request : agenda.Requested updates after) : after.Driven := by
  cases request with
  | same => exact h
  | wired => exact { h with }
  | scheduled => exact h.driven_schedule h.frames h.covered
  | awake =>
      exact Grounded.driven_schedule { h.toGrounded with } h.frames h.covered
  | posted => exact h.post _
  | updated update => exact h.driven_of_updated update
  | revealed phase update =>
      refine Grounded.driven_of_updated ?_ update
      exact
        { listens := h.listens
          commits := nofun
          reveals := nofun
          attached := h.attached }

theorem Driven.grounded_enter (h : agenda.Driven) (lowPower : Bool)
    (callback : Option Registration) (blank : Bool) (task : Task) :
    (agenda.enter lowPower callback blank task).Grounded := by
  unfold enter
  split
  · exact ⟨h.listens, nofun, nofun, h.attached⟩
  · exact ⟨h.listens, nofun, nofun, h.attached⟩

theorem Driven.entered {lowPower : Bool} (h : agenda.Driven)
    (entered : agenda.Entered lowPower after) : after.Driven := by
  cases entered with
  | deferred callback blank task =>
      refine (h.grounded_enter lowPower callback blank task).driven_schedule ?_ ?_
      · unfold enter
        split
        · exact h.frames
        · exact h.frames
      · unfold enter
        split
        · exact nofun
        · exact nofun
  | applied callback blank task update =>
      exact (h.grounded_enter lowPower callback blank task).unschedule.driven_of_updated update

/-! ## Host events -/

/-- The agenda with another scheduler that keeps the tasks of the blanking and the request for a
frame. -/
theorem Driven.onScheduler (h : agenda.Driven) {scheduler : Scheduler}
    (commits : agenda.blanking = .awaitingFrame → scheduler.hasPending .pendingFrame = true)
    (reveals :
      agenda.blanking = .awaitingReveal → scheduler.hasPending .blankingTransition = true)
    (frames : scheduler.frameRequested = agenda.scheduler.frameRequested) :
    (agenda.onScheduler scheduler).Driven :=
  { listens := h.listens
    commits := commits
    reveals := reveals
    attached := h.attached
    frames := fun hMoving => frames.trans (h.frames hMoving)
    covered := h.covered
    holders := h.holders
    waits := h.waits }

/-- The registration of the last animations is the active one, unless an update is pending. -/
theorem forgetAny_eq_none {registrations : List (Option Registration)}
    (ended : registrations ≠ [])
    (carried : ∀ registration ∈ registrations, registration = agenda.callback) :
    (agenda.forgetAny registrations).callback = none := by
  obtain ⟨registration, hMem⟩ := List.exists_mem_of_ne_nil _ ended
  have hActive := carried registration hMem
  exact if_pos (List.mem_map.mpr ⟨registration, hMem, by rw [hActive]⟩)

/-- A frame leaves nothing behind; it answers the request, and makes another if something
moves on. -/
theorem Driven.framed (h : agenda.Driven) (framed : agenda.answer.Framed after) :
    after.Driven := by
  have hGround : agenda.answer.Grounded := ⟨h.listens, h.commits, h.reveals, h.attached⟩
  have hSteady : after.Steady := (h.steady.onScheduler _).framed framed
  cases framed with
  | still still =>
      apply hGround.driven_of_still (moving_eq_false_iff.mp still)
      intro hWaits
      rcases h.waits hWaits with hUpdate | hMoving | hBlank
      · exact Or.inl hUpdate
      · exact absurd (still.symm.trans hMoving) Bool.false_ne_true
      · exact Or.inr hBlank
  | @moving running kept moves =>
      exact
        { listens := hGround.listens
          commits := hGround.commits
          reveals := hGround.reveals
          attached := hSteady.attached
          frames := fun _ => rfl
          covered := hSteady.covered
          holders := fun hUpdate layer => by
            rcases kept layer with hKept | hEnded
            · rw [hKept]
              exact h.holders hUpdate layer
            · exact Or.inl hEnded
          waits := fun _ => Or.inr (Or.inl moves) }
  | @settled registrations ended carried =>
      refine Grounded.driven_of_still
        { listens := hGround.listens
          commits := hGround.commits
          reveals := hGround.reveals
          attached := fun _ => rfl } rfl fun hWaits => Or.inl ?_
      apply Bool.of_not_eq_false
      intro hUpdate
      rcases hWaits with hSlot | hHeld
      · rw [forgetAny_eq_none ended] at hSlot
        · cases hSlot
        · intro registration hMem
          obtain ⟨layer, hLayer⟩ := carried registration hMem
          rcases h.holders hUpdate layer with hNone | hSome
          · exact absurd (hLayer.symm.trans hNone) nofun
          · exact Option.some.inj (hLayer.symm.trans hSome)
      · exact absurd ((held_release _).symm.trans hHeld) Bool.false_ne_true

theorem Driven.delivered {task : Task} {scheduler : Scheduler} (h : agenda.Driven)
    (hPop : agenda.scheduler.popDue = some (task, scheduler))
    (delivered : (agenda.onScheduler scheduler).Delivered task after) :
    after.Driven := by
  have hFrames := Scheduler.frameRequested_of_popDue hPop
  cases delivered with
  | stray commit reveal =>
      -- the tasks of the blanking are still queued
      exact h.onScheduler
        (fun hPhase => (Scheduler.hasPending_of_popDue hPop (commit hPhase).symm).trans
          (h.commits hPhase))
        (fun hPhase => (Scheduler.hasPending_of_popDue hPop (reveal hPhase).symm).trans
          (h.reveals hPhase)) hFrames
  | committed phase delay =>
      have hPending : agenda.blanking.isPending = true := by
        rw [show agenda.blanking = .awaitingFrame from phase]
        rfl
      exact
        { listens := h.listens
          commits := nofun
          reveals := fun _ => by simp
          attached := h.attached
          frames := fun hMoving => hFrames.trans (h.frames hMoving)
          covered := fun _ => h.covered hPending
          holders := h.holders
          waits := fun _ => Or.inr (Or.inr rfl) }
  | revealed phase update =>
      refine Grounded.driven_of_updated ?_ update
      exact ⟨h.listens, nofun, nofun, h.attached⟩

end Agenda

namespace World

open Agenda

theorem Stepped.driven {world : World} {event : Event} {after : Agenda}
    (stepped : world.Stepped event after) (h : world.agenda.Driven) : after.Driven := by
  cases stepped with
  | requested other request => exact h.requested request
  | confirmed active => exact h
  | entered other entered => exact h.entered entered
  | clock time => exact h.onScheduler h.commits h.reveals rfl
  | alarm =>
      split
      · exact h.requested .awake
      · exact h
  | task due delivered => exact h.delivered due delivered
  | animationFrame framed => exact h.framed framed
  | preDraw update => exact h.toGrounded.unschedule.driven_of_updated update

theorem Step.stepped_of_driven {before after : World} {event : Event}
    (step : Step before event after) (h : before.agenda.Driven) :
    Stepped before event after.agenda :=
  step.stepped_of_steady h.steady

theorem Step.driven {before after : World} {event : Event} (step : Step before event after)
    (h : before.agenda.Driven) : after.agenda.Driven :=
  (step.stepped_of_driven h).driven h

/-! ## Reachable worlds -/

theorem driven_create {settings : Settings} {options : SimulationOptions}
    {simulation : Simulation} (h : Simulation.create settings options = .ok simulation) :
    simulation.world.agenda.Driven := by
  refine Grounded.driven_of_updated ?_ (updated_create h)
  exact ⟨rfl, nofun, nofun, fun _ => rfl⟩

theorem Reachable.driven {settings : Settings} {options : SimulationOptions} {world : World}
    (h : Reachable settings options world) : world.agenda.Driven :=
  h.invariant (fun world => world.agenda.Driven) (fun _ => driven_create)
    fun _ _ _ h step => step.driven h

/-- What the first update establishes and every step keeps holds of every reachable agenda. -/
theorem Reachable.agenda_invariant {settings : Settings} {options : SimulationOptions}
    (Inv : Agenda → Prop)
    (created : ∀ agenda, (Agenda.fresh options).Updated agenda → Inv agenda)
    (kept : ∀ (world : World) event agenda, world.agenda.Driven → world.Stepped event agenda →
      Inv world.agenda → Inv agenda)
    {world : World} (h : Reachable settings options world) : Inv world.agenda := by
  have hBoth := h.invariant (fun world => world.agenda.Driven ∧ Inv world.agenda)
    (fun _ hCreate => ⟨driven_create hCreate, created _ (updated_create hCreate)⟩)
    fun before event after hBefore step => ⟨step.driven hBefore.1,
      kept before event _ hBefore.1 (step.stepped_of_driven hBefore.1) hBefore.2⟩
  exact hBoth.2

end World

end Scrim
