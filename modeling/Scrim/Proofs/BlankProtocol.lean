import Scrim.Proofs.Callbacks
import Scrim.Proofs.Cover
import Scrim.Proofs.Rounds

/-!
# The blanking protocol

The phase of a blanking, the task that will end it and the flag that asked for it are kept in
three places, and each operation changes only some of them. `BlankStage` is what they come to
together, with the instant at which the task is due, and `World.Moment.Blanks` says how one moment
of a run moves it on. From that the timing of whole runs is read off: a black frame that is drawn
at one instant is on the display 32 ms later, and let go 32 ms or, behind a dark screen, 500 ms
after that, once. `Simulation.blank_protocol` is the main statement.
-/

namespace Scrim

/-! ## Stages -/

/-- How far a blanking is, and when its task is due. -/
inductive BlankStage where
  | off
  /-- The next update is to begin a blanking. -/
  | asked
  | awaitingFrame (due : Nat)
  | awaitingReveal (due : Nat)
deriving DecidableEq, Repr

namespace BlankStage

def phase : BlankStage → Blanking
  | off | asked => .idle
  | awaitingFrame _ => .awaitingFrame
  | awaitingReveal _ => .awaitingReveal

def tasks : BlankStage → List (Nat × Task)
  | off | asked => []
  | awaitingFrame due => [(due, .pendingFrame)]
  | awaitingReveal due => [(due, .blankingTransition)]

theorem eq_of_pendingFrame {stage : BlankStage} {due : Nat} {rest : List (Nat × Task)}
    (h : stage.tasks.Perm ((due, .pendingFrame) :: rest)) :
    stage = .awaitingFrame due ∧ rest = [] := by
  cases stage with
  | off => cases h.nil_eq
  | asked => cases h.nil_eq
  | awaitingFrame other => cases h.singleton_eq; exact ⟨rfl, rfl⟩
  | awaitingReveal other => cases h.singleton_eq

theorem eq_of_blankingTransition {stage : BlankStage} {due : Nat} {rest : List (Nat × Task)}
    (h : stage.tasks.Perm ((due, .blankingTransition) :: rest)) :
    stage = .awaitingReveal due ∧ rest = [] := by
  cases stage with
  | off => cases h.nil_eq
  | asked => cases h.nil_eq
  | awaitingFrame other => cases h.singleton_eq
  | awaitingReveal other => cases h.singleton_eq; exact ⟨rfl, rfl⟩

end BlankStage

namespace Scheduler

/-- The queued tasks that belong to a blanking, with the times at which they are due. -/
def blankTasks (scheduler : Scheduler) : List (Nat × Task) :=
  (scheduler.queue.filter (·.task.blanks)).map Posted.entry

variable {scheduler : Scheduler} {task : Task}

theorem blankTasks_postDelayed_of_other (h : task.blanks = false) (delay : Nat) :
    (scheduler.postDelayed task delay).blankTasks = scheduler.blankTasks := by
  unfold blankTasks postDelayed
  rw [List.filter_append, List.filter_cons_of_neg (by simp [h]), List.filter_nil, List.append_nil]

theorem blankTasks_postDelayed (h : task.blanks = true) (hNone : scheduler.blankTasks = [])
    (delay : Nat) :
    (scheduler.postDelayed task delay).blankTasks = [(scheduler.now + delay, task)] := by
  unfold blankTasks postDelayed at *
  rw [List.filter_append, List.map_append, hNone, List.filter_cons_of_pos (by simp [h])]
  rfl

theorem blankTasks_cancel (scheduler : Scheduler) (task : Task) :
    (scheduler.cancel task).blankTasks = scheduler.blankTasks.filter (·.2 ≠ task) := by
  unfold blankTasks cancel
  rw [List.filter_map, List.filter_comm]
  rfl

/-- A task of a blanking that is taken leaves the other ones. -/
theorem blankTasks_of_popDue {rest : Scheduler} (h : scheduler.popDue = some (task, rest)) :
    ∃ posted ∈ scheduler.queue, posted.due ≤ scheduler.now ∧ scheduler.blankTasks.Perm
      (if task.blanks then (posted.due, task) :: rest.blankTasks else rest.blankTasks) := by
  obtain ⟨before, posted, after, hQueue, rfl, rfl, hDue, -⟩ := popDue_eq_some h
  refine ⟨posted, by simp [hQueue], hDue, ?_⟩
  have hFront : scheduler.queue.Perm (posted :: (before ++ after)) := by
    rw [hQueue]
    exact List.perm_middle
  have hPerm := (hFront.filter (·.task.blanks)).map Posted.entry
  rw [List.filter_cons, apply_ite (List.map Posted.entry)] at hPerm
  exact hPerm

theorem blankTasks_of_popDue_of_other {rest : Scheduler}
    (h : scheduler.popDue = some (task, rest)) (hOther : task.blanks = false) :
    rest.blankTasks = scheduler.blankTasks := by
  obtain ⟨before, posted, after, hQueue, rfl, rfl, -⟩ := popDue_eq_some h
  unfold blankTasks
  rw [hQueue, List.filter_append, List.filter_append,
    List.filter_cons_of_neg (by simp [hOther])]

end Scheduler

namespace Agenda

/-- The phase, the tasks and the flag of a blanking agree on its stage. -/
structure Shows (agenda : Agenda) (stage : BlankStage) : Prop where
  phase : agenda.blanking = stage.phase
  tasks : agenda.scheduler.blankTasks = stage.tasks
  flag : agenda.blankScreen = true ↔ stage ≠ .off

variable {agenda after : Agenda} {stage : BlankStage}

theorem Updated.shows (update : agenda.Updated after) (h : agenda.Shows stage) :
    after.Shows stage ∨ stage = .asked ∧
      after.Shows (.awaitingFrame (after.scheduler.now + Blanking.frameDelay)) := by
  cases update with
  | held pending => exact Or.inl ⟨h.phase, h.tasks, h.flag⟩
  | blanked idle blank =>
      right
      have hPhase := h.phase
      have hAsked := h.flag.mp blank
      cases stage with
      | off => exact absurd rfl hAsked
      | asked =>
          refine ⟨rfl, rfl, ?_, by simp [blank]⟩
          exact Scheduler.blankTasks_postDelayed rfl h.tasks _
      | awaitingFrame due =>
          rw [hPhase] at idle
          cases idle
      | awaitingReveal due =>
          rw [hPhase] at idle
          cases idle
  | moving idle clear holders attached moves => exact Or.inl ⟨h.phase, h.tasks, h.flag⟩
  | settled idle clear => exact Or.inl ⟨h.phase, h.tasks, h.flag⟩

theorem Adjusted.shows {updates : Bool} (adjusted : agenda.Adjusted updates after)
    (h : agenda.Shows stage) : after.Shows stage ∨ stage = .asked ∧
      after.Shows (.awaitingFrame (after.scheduler.now + Blanking.frameDelay)) := by
  cases adjusted with
  | same => exact Or.inl h
  | wired => exact Or.inl ⟨h.phase, h.tasks, h.flag⟩
  | scheduled => exact Or.inl ⟨h.phase, h.tasks, h.flag⟩
  | awake => exact Or.inl ⟨h.phase, h.tasks, h.flag⟩
  | posted =>
      refine Or.inl ⟨h.phase, ?_, h.flag⟩
      exact (Scheduler.blankTasks_postDelayed_of_other rfl 0).trans h.tasks
  | updated update => exact update.shows h

theorem Framed.shows (framed : agenda.Framed after) (h : agenda.Shows stage) :
    after.Shows stage := by
  cases framed with
  | still still => exact h
  | moving kept moves => exact ⟨h.phase, h.tasks, h.flag⟩
  | settled ended carried => exact ⟨h.phase, h.tasks, h.flag⟩

/-- A transition abandons the blanking of the state before, and asks for one or not. -/
theorem shows_enter (agenda : Agenda) (lowPower : Bool) (callback : Option Registration)
    (blank : Bool) {task : Task} (hTask : task.blanks = false) :
    (agenda.enter lowPower callback blank task).Shows (if blank then .asked else .off) := by
  have hCancelled :
      ((agenda.scheduler.cancel .pendingFrame).cancel .blankingTransition).blankTasks = [] := by
    unfold Scheduler.blankTasks Scheduler.cancel
    rw [List.filter_filter, List.filter_filter, List.map_eq_nil_iff, List.filter_eq_nil_iff]
    rintro ⟨due, sequence, other⟩ -
    cases other with
    | pendingFrame => simp
    | blankingTransition => simp
    | scheduleWallpaperTimeout => simp [Task.blanks]
    | cancelWallpaperTimeout => simp [Task.blanks]
  have hPosted := (Scheduler.blankTasks_postDelayed_of_other hTask 0).trans hCancelled
  unfold Agenda.enter
  cases blank with
  | true =>
      split
      · exact ⟨rfl, hPosted, by simp [post, hold]⟩
      · exact ⟨rfl, hPosted, by simp [post]⟩
  | false =>
      split
      · exact ⟨rfl, hPosted, by simp [post, hold]⟩
      · exact ⟨rfl, hPosted, by simp [post]⟩

/-- A revealed display has no blanking, once its task is out of the queue. -/
theorem shows_reveal (h : agenda.scheduler.blankTasks = []) : agenda.reveal.Shows .off :=
  ⟨rfl, h, by simp [reveal]⟩

theorem Updated.shows_off (update : agenda.Updated after) (h : agenda.Shows .off) :
    after.Shows .off := by
  rcases update.shows h with hOff | ⟨hAsked, -⟩
  · exact hOff
  · cases hAsked

end Agenda

/-! ## Moments -/

namespace World

/-- How one moment moves a blanking on. -/
inductive Moment.Blanks (moment : Moment) : BlankStage → BlankStage → Prop where
  | kept {stage : BlankStage} (other : ¬moment.before.Enters moment.event) :
      Blanks moment stage stage
  /-- The black frame is drawn. -/
  | begun (other : ¬moment.before.Enters moment.event) :
      Blanks moment .asked (.awaitingFrame (moment.after.now + Blanking.frameDelay))
  /-- The black frame is on the display, at the instant it was expected there. -/
  | committed {due : Nat} (task : moment.event = .host (.task .pendingFrame))
      (instant : moment.before.now = due) :
      Blanks moment (.awaitingFrame due)
        (.awaitingReveal (due + Blanking.revealDelay moment.before.controller.screenOn))
  /-- The power mode had its time. -/
  | revealed {due : Nat} (task : moment.event = .host (.task .blankingTransition))
      (instant : moment.before.now = due) :
      Blanks moment (.awaitingReveal due) .off
  /-- The screen was turned on. -/
  | expedited {due : Nat} (lit : moment.event = .request .screenOn) :
      Blanks moment (.awaitingReveal due) .off
  /-- Another state was entered, which asks for a blanking of its own, begins it, or neither. -/
  | entered {stage next : BlankStage} (enters : moment.before.Enters moment.event)
      (fresh : next = .off ∨ next = .asked ∨
        next = .awaitingFrame (moment.after.now + Blanking.frameDelay)) :
      Blanks moment stage next

variable {before after : World} {event : Event} {stage : BlankStage}

/-- Most events keep the stage or begin the blanking that is asked for. -/
theorem blanks_of_shows (other : ¬before.Enters event)
    (h : after.agenda.Shows stage ∨ stage = .asked ∧ after.agenda.Shows
      (.awaitingFrame (after.agenda.scheduler.now + Blanking.frameDelay))) :
    ∃ next, after.agenda.Shows next ∧ Moment.Blanks ⟨before, event, after⟩ stage next := by
  rcases h with hKept | ⟨rfl, hBegun⟩
  · exact ⟨stage, hKept, .kept other⟩
  · exact ⟨_, hBegun, .begun other⟩

theorem not_enters_of_host (world : World) (event : HostEvent) :
    ¬world.Enters (.host event) := by
  rintro ⟨state, callback, hEvent, -⟩
  cases hEvent

/-! ## Requests -/

theorem blanks_transition {state : State} {callback : Option Callback} (h : before.OnTime)
    (hShows : before.agenda.Shows stage)
    (accepted : (before.transition state callback).error = none) :
    ∃ next, (before.transition state callback).world.agenda.Shows next ∧
      Moment.Blanks ⟨before, .request (.transition state callback),
        (before.transition state callback).world⟩ stage next := by
  by_cases hActive : state = before.controller.state
  · refine ⟨stage, ?_, .kept ?_⟩
    · rw [transition_of_active hActive accepted, agenda_confirm]
      exact hShows
    · rintro ⟨other, _, hEvent, hOther⟩
      obtain ⟨rfl, -⟩ := Operation.transition.inj (Event.request.inj hEvent)
      exact hOther hActive
  · have hEnters : before.Enters (.request (.transition state callback)) :=
      ⟨state, callback, rfl, hActive⟩
    obtain ⟨registration, blank, task, hTask, hApplied⟩ :=
      agenda_transition hActive h.driven.listens h.driven.attached accepted
    have hEntered := before.agenda.shows_enter state.isLowPower registration blank hTask
    have hNext : (if blank then BlankStage.asked else .off) = .off ∨
        (if blank then BlankStage.asked else .off) = .asked := by
      cases blank with
      | true => exact Or.inr rfl
      | false => exact Or.inl rfl
    generalize (if blank then BlankStage.asked else .off) = next at hEntered hNext
    generalize (before.transition state callback).world = after at hApplied ⊢
    rcases hApplied with hDeferred | hUpdated
    · refine ⟨next, ?_, .entered hEnters (hNext.imp_right Or.inl)⟩
      rw [hDeferred]
      exact ⟨hEntered.phase, hEntered.tasks, hEntered.flag⟩
    · rcases hUpdated.shows ⟨hEntered.phase, hEntered.tasks, hEntered.flag⟩ with
        hKept | ⟨-, hBegun⟩
      · exact ⟨next, hKept, .entered hEnters (hNext.imp_right Or.inl)⟩
      · exact ⟨_, hBegun, .entered hEnters (Or.inr (Or.inr rfl))⟩

/-- Turning the screen on while a reveal is awaited ends the blanking. -/
theorem shows_off_screenTurnedOn (h : before.OnTime) (hShows : before.agenda.Shows stage)
    (hPhase : before.controller.blanking = .awaitingReveal) :
    before.screenTurnedOn.agenda.Shows .off ∧ ∃ due, stage = .awaitingReveal due := by
  have hUpdated := updated_screenTurnedOn h.driven.attached hPhase (h.driven.reveals hPhase)
  have hSame : Blanking.awaitingReveal = stage.phase := hPhase.symm.trans hShows.phase
  cases stage with
  | off => cases hSame
  | asked => cases hSame
  | awaitingFrame due => cases hSame
  | awaitingReveal due =>
      refine ⟨hUpdated.shows_off (Agenda.shows_reveal ?_), due, rfl⟩
      refine (Scheduler.blankTasks_cancel ..).trans ?_
      rw [hShows.tasks]
      rfl

theorem blanks_screenTurnedOn (h : before.OnTime) (hShows : before.agenda.Shows stage) :
    ∃ next, before.screenTurnedOn.agenda.Shows next ∧
      Moment.Blanks ⟨before, .request .screenOn, before.screenTurnedOn⟩ stage next := by
  by_cases hPhase : before.controller.blanking = .awaitingReveal
  · obtain ⟨hOff, due, rfl⟩ := shows_off_screenTurnedOn h hShows hPhase
    exact ⟨.off, hOff, .expedited rfl⟩
  · refine ⟨stage, ?_, .kept ?_⟩
    · rw [agenda_screenTurnedOn fun hBoth => hPhase hBoth.1]
      exact hShows
    · rintro ⟨state, callback, hEvent, -⟩
      cases hEvent

theorem blanks_run {operation : Operation} (h : before.OnTime)
    (hShows : before.agenda.Shows stage) (accepted : (operation.run before).error = none) :
    ∃ next, (operation.run before).world.agenda.Shows next ∧
      Moment.Blanks ⟨before, .request operation, (operation.run before).world⟩ stage next := by
  by_cases hTransition : ∃ state callback, operation = .transition state callback
  · obtain ⟨state, callback, rfl⟩ := hTransition
    exact blanks_transition h hShows accepted
  · have hOther : ∀ state callback, operation ≠ .transition state callback :=
      fun state callback hEq => hTransition ⟨state, callback, hEq⟩
    by_cases hScreen : operation = .screenOn
    · subst hScreen
      exact blanks_screenTurnedOn h hShows
    · have hAdjusted := adjusted_run hOther hScreen h.driven.listens h.driven.attached accepted
      refine blanks_of_shows ?_ (hAdjusted.shows hShows)
      rintro ⟨state, callback, hEvent, -⟩
      exact hOther state callback (Event.request.inj hEvent)

/-! ## Tasks -/

/-- Once the frame is committed its task is gone and the one of the reveal is queued. -/
theorem shows_frameCommitted {world : World} (hPhase : world.agenda.blanking = .awaitingFrame)
    (hTaken : world.agenda.scheduler.blankTasks = []) (hFlag : world.agenda.blankScreen = true) :
    world.frameCommitted.agenda.Shows
      (.awaitingReveal (world.now + Blanking.revealDelay world.controller.screenOn)) := by
  rcases agenda_frameCommitted world with ⟨-, hOther⟩ | ⟨-, hCommitted⟩
  · exact absurd hPhase hOther
  · rw [hCommitted]
    exact ⟨rfl, Scheduler.blankTasks_postDelayed rfl hTaken _, by simp [hFlag]⟩

/-- A task is delivered the instant it is due, and only in the phase that waits for it. -/
theorem blanks_runTask {task : Task} {rest : Scheduler} (h : before.OnTime)
    (hShows : before.agenda.Shows stage)
    (hPop : before.host.scheduler.popDue = some (task, rest)) :
    ∃ next, ({ before with host.scheduler := rest }.runTask task).agenda.Shows next ∧
      Moment.Blanks ⟨before, .host (.task task),
        { before with host.scheduler := rest }.runTask task⟩ stage next := by
  obtain ⟨posted, hMem, hDue, hTasks⟩ := Scheduler.blankTasks_of_popDue hPop
  have hInstant : before.now = posted.due := (h.punctual.due_eq hMem hDue).symm
  rw [show before.host.scheduler.blankTasks = stage.tasks from hShows.tasks] at hTasks
  have hOthers (hOther : task.blanks = false) : rest.blankTasks = stage.tasks :=
    (Scheduler.blankTasks_of_popDue_of_other hPop hOther).trans hShows.tasks
  have hAgenda : World.agenda { before with host.scheduler := rest } =
      before.agenda.onScheduler rest := rfl
  have hNow : World.now { before with host.scheduler := rest } = before.now :=
    (Scheduler.Edited.taken hPop).now_eq
  have hScreen : World.controller { before with host.scheduler := rest } = before.controller := rfl
  generalize ({ before with host.scheduler := rest } : World) = taken at hAgenda hNow hScreen ⊢
  have hPhase : taken.agenda.blanking = stage.phase := by rw [hAgenda]; exact hShows.phase
  have hFlag : taken.agenda.blankScreen = true ↔ stage ≠ .off := by rw [hAgenda]; exact hShows.flag
  have hRest : taken.agenda.scheduler = rest := by rw [hAgenda]; rfl
  cases task with
  | pendingFrame =>
      obtain ⟨rfl, hNone⟩ := BlankStage.eq_of_pendingFrame hTasks
      have hCommitted := shows_frameCommitted hPhase (by rw [hRest]; exact hNone)
        (hFlag.mpr BlankStage.noConfusion)
      rw [hNow, hScreen] at hCommitted
      rw [hInstant] at hCommitted
      exact ⟨_, hCommitted, .committed rfl hInstant⟩
  | blankingTransition =>
      obtain ⟨rfl, hNone⟩ := BlankStage.eq_of_blankingTransition hTasks
      have hAttached : taken.agenda.Attached := by rw [hAgenda]; exact h.driven.attached
      have hUpdated := updated_reveal rfl hAttached hPhase
      refine ⟨.off, hUpdated.shows_off (Agenda.shows_reveal ?_), .revealed rfl hInstant⟩
      rw [hRest, hNone]
  | scheduleWallpaperTimeout =>
      refine ⟨stage, ?_, .kept (not_enters_of_host before _)⟩
      exact ⟨hPhase, (congrArg Scheduler.blankTasks hRest).trans (hOthers rfl), hFlag⟩
  | cancelWallpaperTimeout =>
      refine ⟨stage, ?_, .kept (not_enters_of_host before _)⟩
      exact ⟨hPhase, (congrArg Scheduler.blankTasks hRest).trans (hOthers rfl), hFlag⟩

/-! ## Steps -/

theorem Step.blanks (step : Step before event after) (h : before.OnTime)
    (hShows : before.agenda.Shows stage) :
    ∃ next, after.agenda.Shows next ∧ Moment.Blanks ⟨before, event, after⟩ stage next := by
  cases step with
  | request accepted => exact blanks_run h hShows accepted
  | clock time =>
      refine ⟨stage, ⟨hShows.phase, hShows.tasks, hShows.flag⟩, .kept ?_⟩
      rintro ⟨state, callback, hEvent, -⟩
      cases hEvent
  | alarm due =>
      refine ⟨stage, ?_, .kept ?_⟩
      · have hAgenda : World.agenda { before with host.alarm := before.host.alarm.cancel } =
            before.agenda := rfl
        rw [agenda_hideWallpaper hAgenda h.driven.listens]
        split
        · exact ⟨hShows.phase, hShows.tasks, hShows.flag⟩
        · exact hShows
      · rintro ⟨state, callback, hEvent, -⟩
        cases hEvent
  | task due => exact blanks_runTask h hShows due
  | animationFrame requested =>
      have hFramed : before.agenda.answer.Framed (World.animationFrame { before with
          host.scheduler := before.host.scheduler.takeFrameRequest.2 }).agenda :=
        framed_animationFrame rfl h.driven.covered
      refine ⟨stage, hFramed.shows ?_, .kept (not_enters_of_host before _)⟩
      exact ⟨hShows.phase, hShows.tasks, hShows.flag⟩
  | preDraw listening =>
      have hUpdated := updated_preDraw h.driven.attached
      refine blanks_of_shows (not_enters_of_host before _) (hUpdated.shows ?_)
      exact ⟨hShows.phase, hShows.tasks, hShows.flag⟩

/-! ## Runs -/

/-- A blanking shows as one stage in all the places that it is kept in, and nothing moves behind
a held black frame. -/
structure BlankAt (world : World) (stage : BlankStage) : Prop where
  phase : world.controller.blanking = stage.phase
  tasks : world.host.scheduler.blankTasks = stage.tasks
  flag : world.controller.blankScreen = true ↔ stage ≠ .off
  still : world.controller.blanking ≠ .idle →
    ∀ layer, world.controller.animations.get? layer = none

theorem BlankAt.shows {world : World} (h : world.BlankAt stage) : world.agenda.Shows stage :=
  ⟨h.phase, h.tasks, h.flag⟩

theorem blankAt_of_shows {world : World} (h : world.OnTime) (hShows : world.agenda.Shows stage) :
    world.BlankAt stage := by
  refine ⟨hShows.phase, hShows.tasks, hShows.flag, ?_⟩
  intro hHeld layer
  have hPending : world.agenda.blanking.isPending = true := by
    cases hPhase : world.controller.blanking with
    | idle => exact absurd hPhase hHeld
    | awaitingFrame => exact congrArg Blanking.isPending hPhase
    | awaitingReveal => exact congrArg Blanking.isPending hPhase
  exact get?_of_still (h.driven.covered hPending) layer

theorem BlankAt.not_awaitingReveal {world : World} (h : world.BlankAt stage)
    (hStage : stage.phase ≠ .awaitingReveal) : world.controller.blanking ≠ .awaitingReveal := by
  rw [h.phase]
  exact hStage

theorem BlankAt.now_le {world : World} (h : world.BlankAt stage) (hOnTime : world.OnTime)
    {due : Nat} {task : Task} (hTasks : stage.tasks = [(due, task)]) : world.now ≤ due := by
  have hMem : (due, task) ∈ world.host.scheduler.blankTasks := by
    rw [h.tasks, hTasks]
    exact List.mem_singleton_self _
  obtain ⟨posted, hPosted, hEntry⟩ := List.mem_map.mp hMem
  rw [← show posted.due = due from congrArg Prod.fst hEntry]
  exact hOnTime.punctual posted (List.mem_of_mem_filter hPosted)

/-- A black frame is drawn, and its blanking begins. -/
def Moment.Begins (moment : Moment) : Prop :=
  moment.after.controller.blanking = .awaitingFrame ∧
    (moment.before.controller.blanking ≠ .awaitingFrame ∨ moment.before.Enters moment.event)

/-- An awaited reveal happens: the black frame goes, and not for another state. -/
def Moment.Reveals (moment : Moment) : Prop :=
  moment.before.controller.blanking = .awaitingReveal ∧
    moment.after.controller.blanking ≠ .awaitingReveal ∧ ¬moment.before.Enters moment.event

def Moment.Expedites (moment : Moment) : Prop :=
  moment.event = .request .screenOn ∧ moment.before.controller.blanking = .awaitingReveal

/-- What the moments after a black frame was drawn at `start` come to, while no other state is
entered and no reveal is cut short. -/
inductive Blanked (start : Nat) (last : World) : List Moment → Prop where
  /-- The frame is not on the display yet. -/
  | awaitingFrame {waiting : List Moment} (held : ∀ moment ∈ waiting, ¬moment.Reveals)
      (stage : last.BlankAt (.awaitingFrame (start + Blanking.frameDelay)))
      (now : last.now ≤ start + Blanking.frameDelay) : Blanked start last waiting
  /-- The frame was on the display in time, and the power mode changes. -/
  | awaitingReveal {waiting more : List Moment} {commit : Moment} {due : Nat}
      (committed : commit.event = .host (.task .pendingFrame))
      (onTime : commit.before.now = start + Blanking.frameDelay)
      (time : due = start + Blanking.frameDelay +
        Blanking.revealDelay commit.before.controller.screenOn)
      (held : ∀ moment ∈ waiting ++ commit :: more, ¬moment.Reveals)
      (stage : last.BlankAt (.awaitingReveal due)) (now : last.now ≤ due) :
      Blanked start last (waiting ++ commit :: more)
  /-- The reveal happened, once and in time. -/
  | revealed {waiting more rest : List Moment} {commit reveal : Moment}
      (committed : commit.event = .host (.task .pendingFrame))
      (onTime : commit.before.now = start + Blanking.frameDelay)
      (held : ∀ moment ∈ waiting ++ commit :: more, ¬moment.Reveals)
      (task : reveal.event = .host (.task .blankingTransition))
      (time : reveal.before.now = start + Blanking.frameDelay +
        Blanking.revealDelay commit.before.controller.screenOn)
      (reveals : reveal.Reveals) (ended : ∀ moment ∈ rest, ¬moment.Reveals)
      (stage : last.BlankAt .off) :
      Blanked start last ((waiting ++ commit :: more) ++ reveal :: rest)

/-- One more moment of a blanking that nothing cuts short. -/
theorem Blanked.snoc {start : Nat} {later : List Moment} (h : Blanked start before later)
    (step : Step before event after) (hOnTime : before.OnTime)
    (timely : Moment.Timely ⟨before, event, after⟩) (stays : ¬before.Enters event)
    (waits : ¬Moment.Expedites ⟨before, event, after⟩) :
    Blanked start after (later ++ [⟨before, event, after⟩]) := by
  have hAfter := step.onTime hOnTime timely
  cases h with
  | awaitingFrame held stage now =>
      obtain ⟨next, hNext, hBlanks⟩ := step.blanks hOnTime stage.shows
      have hAt := blankAt_of_shows hAfter hNext
      have hHeld : ¬Moment.Reveals ⟨before, event, after⟩ := fun hReveals =>
        stage.not_awaitingReveal nofun hReveals.1
      cases hBlanks with
      | kept other =>
          exact .awaitingFrame (forall_mem_snoc.mpr ⟨held, hHeld⟩) hAt (hAt.now_le hAfter rfl)
      | committed task instant =>
          exact .awaitingReveal task instant rfl (forall_mem_snoc.mpr ⟨held, hHeld⟩) hAt
            (hAt.now_le hAfter rfl)
      | entered enters fresh => exact absurd enters stays
  | @awaitingReveal waiting more commit due committed onTime time held stage now =>
      obtain ⟨next, hNext, hBlanks⟩ := step.blanks hOnTime stage.shows
      have hAt := blankAt_of_shows hAfter hNext
      cases hBlanks with
      | kept other =>
          have hNewest : ¬Moment.Reveals ⟨before, event, after⟩ := fun hReveals =>
            hReveals.2.1 hAt.phase
          have hHeld := forall_mem_snoc.mpr ⟨held, hNewest⟩
          rw [List.append_assoc, List.cons_append] at hHeld ⊢
          exact .awaitingReveal committed onTime time hHeld hAt (hAt.now_le hAfter rfl)
      | revealed task instant =>
          have hReveals : Moment.Reveals ⟨before, event, after⟩ :=
            ⟨stage.phase, hAt.not_awaitingReveal nofun, stays⟩
          exact .revealed committed onTime held task (instant.trans time) hReveals (by simp) hAt
      | expedited lit => exact absurd ⟨lit, stage.phase⟩ waits
      | entered enters fresh => exact absurd enters stays
  | @revealed waiting more rest commit reveal committed onTime held task time reveals ended stage =>
      obtain ⟨next, hNext, hBlanks⟩ := step.blanks hOnTime stage.shows
      have hAt := blankAt_of_shows hAfter hNext
      rw [List.append_assoc, List.cons_append]
      cases hBlanks with
      | kept other =>
          have hNewest : ¬Moment.Reveals ⟨before, event, after⟩ := fun hReveals =>
            stage.not_awaitingReveal nofun hReveals.1
          exact .revealed committed onTime held task time reveals
            (forall_mem_snoc.mpr ⟨ended, hNewest⟩) hAt
      | entered enters fresh => exact absurd enters stays

/-- The blanking that began at `start`, from the frame that it drew to the end of a run. -/
theorem Run.blanked {start : Nat} {middle last : World} {later : List Moment}
    (run : Run middle later last) (h : middle.OnTime) (timely : ∀ moment ∈ later, moment.Timely)
    (hShows : middle.agenda.Shows (.awaitingFrame (start + Blanking.frameDelay)))
    (undisturbed : ∀ moment ∈ later,
      ¬moment.before.Enters moment.event ∧ ¬moment.Expedites) : Blanked start last later := by
  induction run with
  | nil =>
      have hAt := blankAt_of_shows h hShows
      exact .awaitingFrame (by simp) hAt (hAt.now_le h rfl)
  | snoc run step ih =>
      obtain ⟨hEarlier, hTimely⟩ := forall_mem_snoc.mp timely
      obtain ⟨hBefore, hStays, hWaits⟩ := forall_mem_snoc.mp undisturbed
      exact (ih hEarlier hBefore).snoc step (run.onTime h hEarlier) hTimely hStays hWaits

/-- What the first update leaves and every step moves on holds at the end of every run. -/
theorem Run.blankAt {settings : Settings} {options : SimulationOptions} {first : Simulation}
    (created : Simulation.create settings options = .ok first) {last : World}
    {moments : List Moment} (run : Run first.world moments last)
    (timely : ∀ moment ∈ moments, moment.Timely) :
    last.OnTime ∧ ∃ stage, last.BlankAt stage := by
  have hFirst : first.world.OnTime := onTime_create created
  have hOff : (Agenda.fresh options).Shows .off := ⟨rfl, rfl, by simp [Agenda.fresh]⟩
  have kept : ∀ before event after,
      (before.OnTime ∧ ∃ stage, before.agenda.Shows stage) → Step before event after →
      Moment.Timely ⟨before, event, after⟩ → after.OnTime ∧ ∃ stage, after.agenda.Shows stage := by
    intro before event after hBefore step hTimely
    obtain ⟨hOnTime, stage, hShows⟩ := hBefore
    obtain ⟨next, hNext, -⟩ := step.blanks hOnTime hShows
    exact ⟨step.onTime hOnTime hTimely, next, hNext⟩
  obtain ⟨⟨hOnTime, stage, hShows⟩, -⟩ := run.invariant_while _ Moment.Timely kept
    ⟨hFirst, .off, (updated_create created).shows_off hOff⟩ timely
  exact ⟨hOnTime, stage, blankAt_of_shows hOnTime hShows⟩

theorem Moment.Begins.shows {moment : Moment} (begins : moment.Begins)
    (step : Step moment.before moment.event moment.after) (h : moment.before.OnTime)
    (hAt : moment.before.BlankAt stage) :
    moment.after.agenda.Shows (.awaitingFrame (moment.after.now + Blanking.frameDelay)) := by
  obtain ⟨next, hNext, hBlanks⟩ := step.blanks h hAt.shows
  have hPhase : .awaitingFrame = next.phase := begins.1.symm.trans hNext.phase
  cases hBlanks with
  | kept other =>
      rcases begins.2 with hOther | hEnters
      · exact absurd (hAt.phase.trans hPhase.symm) hOther
      · exact absurd hEnters other
  | begun other => exact hNext
  | committed task instant => cases hPhase
  | revealed task instant => cases hPhase
  | expedited lit => cases hPhase
  | entered enters fresh =>
      rcases fresh with rfl | rfl | rfl
      · cases hPhase
      · cases hPhase
      · exact hNext

theorem Moment.Reveals.shows {moment : Moment} (reveals : moment.Reveals)
    (step : Step moment.before moment.event moment.after) (h : moment.before.OnTime)
    (hAt : moment.before.BlankAt stage) : moment.after.agenda.Shows .off := by
  obtain ⟨next, hNext, hBlanks⟩ := step.blanks h hAt.shows
  obtain ⟨hBefore, hAfter, hStays⟩ := reveals
  have hPhase : .awaitingReveal = stage.phase := hBefore.symm.trans hAt.phase
  cases hBlanks with
  | kept other => exact absurd (hNext.phase.trans hPhase.symm) hAfter
  | begun other => cases hPhase
  | committed task instant => cases hPhase
  | revealed task instant => exact hNext
  | expedited lit => exact hNext
  | entered enters fresh => exact absurd enters hStays

theorem reveals_of_expedites (expedites : Moment.Expedites ⟨before, event, after⟩)
    (step : Step before event after) (h : before.OnTime) (hAt : before.BlankAt stage) :
    Moment.Reveals ⟨before, event, after⟩ := by
  obtain ⟨hEvent, hPhase⟩ := expedites
  have hStays : ¬before.Enters event := by
    rintro ⟨state, callback, hTransition, -⟩
    cases hEvent.symm.trans hTransition
  have hOff : after.agenda.Shows .off := by
    cases step with
    | request accepted =>
        obtain rfl := Event.request.inj hEvent
        exact (shows_off_screenTurnedOn h hAt.shows hPhase).1
    | clock time => cases hEvent
    | alarm due => cases hEvent
    | task due => cases hEvent
    | animationFrame requested => cases hEvent
    | preDraw listening => cases hEvent
  refine ⟨hPhase, ?_, hStays⟩
  intro hSame
  cases hSame.symm.trans hOff.phase

/-- Until another state is entered, nothing is blanked or revealed. -/
theorem Run.stays_off {middle last : World} {later : List Moment} (run : Run middle later last)
    (h : middle.OnTime) (timely : ∀ moment ∈ later, moment.Timely)
    (hOff : middle.agenda.Shows .off)
    (stays : ∀ moment ∈ later, ¬moment.before.Enters moment.event) :
    last.agenda.Shows .off ∧ ∀ moment ∈ later, ¬moment.Reveals := by
  induction run with
  | nil => exact ⟨hOff, by simp⟩
  | snoc run step ih =>
      obtain ⟨hEarlier, -⟩ := forall_mem_snoc.mp timely
      obtain ⟨hStayed, hStays⟩ := forall_mem_snoc.mp stays
      obtain ⟨hBefore, hNone⟩ := ih hEarlier hStayed
      obtain ⟨next, hNext, hBlanks⟩ := step.blanks (run.onTime h hEarlier) hBefore
      cases hBlanks with
      | kept other =>
          refine ⟨hNext, forall_mem_snoc.mpr ⟨hNone, fun hReveals => ?_⟩⟩
          exact nomatch hReveals.1.symm.trans hBefore.phase
      | entered enters fresh => exact absurd enters hStays

/-- A held black frame was drawn at some moment, and has been held since. -/
theorem Run.begun {settings : Settings} {options : SimulationOptions} {first : Simulation}
    (created : Simulation.create settings options = .ok first) {last : World}
    {moments : List Moment} (run : Run first.world moments last)
    (timely : ∀ moment ∈ moments, moment.Timely) (held : last.controller.blanking ≠ .idle) :
    ∃ earlier begin later, moments = earlier ++ begin :: later ∧ begin.Begins ∧
      ∀ moment ∈ later, ¬moment.before.Enters moment.event ∧ ¬moment.Reveals := by
  induction run with
  | nil =>
      have hOff : (Agenda.fresh options).Shows .off := ⟨rfl, rfl, by simp [Agenda.fresh]⟩
      exact absurd ((updated_create created).shows_off hOff).phase held
  | @snoc moments before after event run step ih =>
      obtain ⟨hEarlier, -⟩ := forall_mem_snoc.mp timely
      obtain ⟨hOnTime, stage, hAt⟩ := run.blankAt created hEarlier
      obtain ⟨next, hNext, hBlanks⟩ := step.blanks hOnTime hAt.shows
      -- the frame was held before, and this moment neither replaces it nor lets it go
      have heldOn : before.controller.blanking ≠ .idle → ¬before.Enters event →
          ¬Moment.Reveals ⟨before, event, after⟩ → ∃ earlier begin later,
            moments ++ [⟨before, event, after⟩] = earlier ++ begin :: later ∧ begin.Begins ∧
            ∀ moment ∈ later, ¬moment.before.Enters moment.event ∧ ¬moment.Reveals := by
        intro hHeld hStays hKept
        obtain ⟨earlier, begin, later, rfl, hBegins, hLater⟩ := ih hEarlier hHeld
        refine ⟨earlier, begin, later ++ [⟨before, event, after⟩], ?_, hBegins,
          forall_mem_snoc.mpr ⟨hLater, hStays, hKept⟩⟩
        rw [List.append_assoc, List.cons_append]
      have hPhase := hNext.phase
      cases hBlanks with
      | kept other =>
          have hSame : after.controller.blanking = before.controller.blanking :=
            hPhase.trans hAt.phase.symm
          exact heldOn (fun hIdle => held (hSame.trans hIdle)) other
            fun hReveals => hReveals.2.1 (hSame.trans hReveals.1)
      | begun other =>
          refine ⟨moments, _, [], rfl, ⟨hPhase, Or.inl fun hSame => ?_⟩, by simp⟩
          exact nomatch hSame.symm.trans hAt.phase
      | committed task instant =>
          subst task
          refine heldOn (fun hIdle => nomatch hIdle.symm.trans hAt.phase)
            (not_enters_of_host before _) ?_
          exact fun hReveals => hAt.not_awaitingReveal nofun hReveals.1
      | revealed task instant => exact absurd hPhase held
      | expedited lit => exact absurd hPhase held
      | entered enters fresh =>
          rcases fresh with rfl | rfl | rfl
          · exact absurd hPhase held
          · exact absurd hPhase held
          · exact ⟨moments, _, [], rfl, ⟨hPhase, Or.inr enters⟩, by simp⟩

/-! ## The protocol -/

structure BlankProtocol (moments : List Moment) (last : World) : Prop where
  /-- Phase, tasks, flag and animations agree. -/
  stage : ∃ stage, last.BlankAt stage
  /-- A held black frame was drawn at some moment, and has been held since. -/
  begun : last.controller.blanking ≠ .idle →
    ∃ earlier begin later, moments = earlier ++ begin :: later ∧ begin.Begins ∧
      ∀ moment ∈ later, ¬moment.before.Enters moment.event ∧ ¬moment.Reveals
  /-- Unless another state is entered or the screen is turned on, a black frame is committed and
  let go in time, and once. -/
  inTime : ∀ earlier begin later, moments = earlier ++ begin :: later → begin.Begins →
    (∀ moment ∈ later, ¬moment.before.Enters moment.event ∧ ¬moment.Expedites) →
    Blanked begin.after.now last later
  /-- Turning the screen on while a reveal is awaited makes it. -/
  expedited : ∀ moment ∈ moments, moment.Expedites → moment.Reveals
  /-- Until another state is entered, nothing is revealed a second time. -/
  once : ∀ earlier reveal later, moments = earlier ++ reveal :: later → reveal.Reveals →
    (∀ moment ∈ later, ¬moment.before.Enters moment.event) →
    last.BlankAt .off ∧ ∀ moment ∈ later, ¬moment.Reveals

/-- The moment that drew a held black frame tells when its tasks are due. -/
theorem BlankProtocol.blanked {moments : List Moment} {last : World}
    (h : BlankProtocol moments last) (held : last.controller.blanking ≠ .idle) :
    ∃ earlier begin later, moments = earlier ++ begin :: later ∧ begin.Begins ∧
      Blanked begin.after.now last later := by
  obtain ⟨earlier, begin, later, hMoments, hBegins, hLater⟩ := h.begun held
  refine ⟨earlier, begin, later, hMoments, hBegins,
    h.inTime earlier begin later hMoments hBegins ?_⟩
  intro moment hMem
  refine ⟨(hLater moment hMem).1, fun hExpedites => ?_⟩
  have hAll : moment ∈ moments := by
    rw [hMoments]
    exact List.mem_append_right _ (List.mem_cons_of_mem _ hMem)
  exact (hLater moment hMem).2 (h.expedited moment hAll hExpedites)

/-- A run stopped at one of its moments. -/
theorem Run.stop {settings : Settings} {options : SimulationOptions} {first : Simulation}
    (created : Simulation.create settings options = .ok first) {last : World}
    {earlier later : List Moment} {moment : Moment}
    (run : Run first.world (earlier ++ moment :: later) last)
    (timely : ∀ other ∈ earlier ++ moment :: later, other.Timely) :
    Step moment.before moment.event moment.after ∧ moment.before.OnTime ∧
      (∃ stage, moment.before.BlankAt stage) ∧ moment.after.OnTime ∧
      Run moment.after later last ∧ ∀ other ∈ later, other.Timely := by
  obtain ⟨hEarlier, step, hLater⟩ := run.split
  rw [List.forall_mem_append, List.forall_mem_cons] at timely
  obtain ⟨hBefore, hMoment, hAfter⟩ := timely
  obtain ⟨hOnTime, hStage⟩ := hEarlier.blankAt created hBefore
  exact ⟨step, hOnTime, hStage, step.onTime hOnTime hMoment, hLater, hAfter⟩

theorem Run.blankProtocol {settings : Settings} {options : SimulationOptions} {first : Simulation}
    (created : Simulation.create settings options = .ok first) {last : World}
    {moments : List Moment} (run : Run first.world moments last)
    (timely : ∀ moment ∈ moments, moment.Timely) : BlankProtocol moments last where
  stage := (run.blankAt created timely).2
  begun := run.begun created timely
  inTime earlier begin later hMoments begins undisturbed := by
    subst hMoments
    obtain ⟨step, hBefore, ⟨stage, hAt⟩, hAfter, hLater, hTimely⟩ := run.stop created timely
    exact hLater.blanked hAfter hTimely (begins.shows step hBefore hAt) undisturbed
  expedited moment hMem expedites := by
    obtain ⟨earlier, later, rfl⟩ := List.append_of_mem hMem
    obtain ⟨step, hBefore, ⟨stage, hAt⟩, -⟩ := run.stop created timely
    exact reveals_of_expedites expedites step hBefore hAt
  once earlier reveal later hMoments reveals stays := by
    subst hMoments
    obtain ⟨step, hBefore, ⟨stage, hAt⟩, hAfter, hLater, hTimely⟩ := run.stop created timely
    obtain ⟨hOff, hNone⟩ := hLater.stays_off hAfter hTimely (reveals.shows step hBefore hAt) stays
    exact ⟨blankAt_of_shows (hLater.onTime hAfter hTimely) hOff, hNone⟩

end World

namespace Simulation

open World

/-- Calls on a simulation make a run in which the clock passes no task by, and in every such run
blankings keep to their protocol: phase, tasks, flag and animations agree at every moment, every
black frame is committed and let go in time and once unless another state or the screen cuts it
short, and a reveal that was made early is not made again. -/
theorem blank_protocol {settings : Settings} {options : SimulationOptions} :
    (∀ simulation, Reached settings options simulation →
      ∃ first, create settings options = .ok first ∧
        LeadsBy Moment.Timely first.world simulation.world) ∧
    ∀ first moments last, create settings options = .ok first → Run first.world moments last →
      (∀ moment ∈ moments, moment.Timely) → BlankProtocol moments last := by
  constructor
  · intro simulation h
    exact h.timely
  · intro first moments last created run timely
    exact run.blankProtocol created timely

set_option maxRecDepth 100000 in
/-- A display that is blanked before it dozes, 40 ms after it was told to. -/
theorem blank_protocol_of_blankedDoze : ∃ simulation first moments,
    play blankedDoze {} [.perform (.transition .aod none), .advance (Time.ofMillis 40)] =
      some simulation ∧
    create blankedDoze {} = .ok first ∧ Run first.world moments simulation.world ∧
    simulation.world.controller.blanking = .awaitingReveal ∧
    ∃ earlier begin later, moments = earlier ++ begin :: later ∧ begin.Begins ∧
      Blanked begin.after.now simulation.world later := by
  have hPlayed : (play blankedDoze {} [.perform (.transition .aod none),
      .advance (Time.ofMillis 40)]).any (fun simulation =>
        simulation.world.controller.blanking = .awaitingReveal) = true := by
    decide +kernel
  obtain ⟨simulation, hPlay, hLast⟩ := (Option.any_eq_true _ _).mp hPlayed
  have hPhase := of_decide_eq_true hLast
  obtain ⟨first, hCreate, moments, run, timely⟩ :=
    blank_protocol.1 simulation (reached_play hPlay)
  have hProtocol := blank_protocol.2 first moments simulation.world hCreate run timely
  refine ⟨simulation, first, moments, hPlay, hCreate, run, hPhase, hProtocol.blanked ?_⟩
  rw [hPhase]
  nofun

end Simulation

end Scrim
