import Scrim.Proofs.Standing

/-!
# Nothing is late

As long as the clock passes no queued task by (`Moment.Timely`), a task is taken from the queue at
the very instant it is due (`Scheduler.Punctual`). Whatever else happens at one instant posts,
cancels and takes tasks (`Scheduler.Edited`), and of what the host delivers nothing posts a task
that is due at once (`Scheduler.dueCount`).
-/

namespace Scrim

/-! ## Schedulers -/

namespace Scheduler

def Punctual (scheduler : Scheduler) : Prop :=
  ∀ posted ∈ scheduler.queue, scheduler.now ≤ posted.due

/-- One scheduler comes of another at the same instant: tasks are posted, cancelled and taken,
and frames are requested and answered. -/
inductive Edited (scheduler : Scheduler) : Scheduler → Prop where
  | same : Edited scheduler scheduler
  | posted {other : Scheduler} (edited : Edited scheduler other) (task : Task) (delay : Nat) :
      Edited scheduler (other.postDelayed task delay)
  | removed {other : Scheduler} (edited : Edited scheduler other) {queue : List Posted}
      (left : queue.Sublist other.queue) : Edited scheduler { other with queue }
  | framed {other : Scheduler} (edited : Edited scheduler other) (requested : Bool) :
      Edited scheduler { other with frameRequested := requested }

variable {scheduler after : Scheduler}

theorem Edited.trans {last : Scheduler} (h : scheduler.Edited after) (h' : after.Edited last) :
    scheduler.Edited last := by
  induction h' with
  | same => exact h
  | posted _ task delay ih => exact ih.posted task delay
  | removed _ left ih => exact ih.removed left
  | framed _ requested ih => exact ih.framed requested

theorem Edited.cancelled (h : scheduler.Edited after) (task : Task) :
    scheduler.Edited (after.cancel task) :=
  h.removed List.filter_sublist

theorem Edited.taken {rest : Scheduler} {task : Task} (h : scheduler.popDue = some (task, rest)) :
    scheduler.Edited rest := by
  obtain ⟨before, posted, after, hQueue, rfl, -⟩ := popDue_eq_some h
  refine .removed .same ?_
  rw [hQueue]
  exact (List.sublist_cons_self posted after).append_left before

theorem Edited.now_eq (h : scheduler.Edited after) : after.now = scheduler.now := by
  induction h with
  | same => rfl
  | posted _ task delay ih => exact ih
  | removed _ left ih => exact ih
  | framed _ requested ih => exact ih

theorem Edited.punctual (h : scheduler.Edited after) (hPunctual : scheduler.Punctual) :
    after.Punctual := by
  induction h with
  | same => exact hPunctual
  | posted _ task delay ih =>
      refine List.forall_mem_append.mpr ⟨ih, List.forall_mem_singleton.mpr ?_⟩
      exact Nat.le_add_right _ _
  | removed _ left ih => exact fun posted hMem => ih posted (left.mem hMem)
  | framed _ requested ih => exact ih

theorem Edited.filed (h : scheduler.Edited after) (hFiled : scheduler.Filed) : after.Filed := by
  induction h with
  | same => exact hFiled
  | @posted other _ task delay ih =>
      constructor
      · refine List.pairwise_append.mpr ⟨ih.ascending, List.pairwise_singleton _ _, ?_⟩
        intro posted hMem new hNew
        rw [List.mem_singleton.mp hNew]
        exact Nat.lt_succ_of_le (ih.below posted hMem)
      · refine List.forall_mem_append.mpr ⟨fun posted hMem => ?_, ?_⟩
        · exact Nat.le_succ_of_le (ih.below posted hMem)
        · exact List.forall_mem_singleton.mpr (Nat.le_refl _)
  | removed _ left ih =>
      exact ⟨ih.ascending.sublist left, fun posted hMem => ih.below posted (left.mem hMem)⟩
  | framed _ requested ih => exact ⟨ih.ascending, ih.below⟩

/-- What a punctual scheduler hands over is due now. -/
theorem Punctual.due_eq {posted : Posted} (h : scheduler.Punctual)
    (hQueued : posted ∈ scheduler.queue) (hDue : posted.due ≤ scheduler.now) :
    posted.due = scheduler.now :=
  Nat.le_antisymm hDue (h posted hQueued)

def dueCount (scheduler : Scheduler) : Nat :=
  scheduler.queue.countP (·.due ≤ scheduler.now)

theorem dueCount_eq_zero_iff :
    scheduler.dueCount = 0 ↔ ∀ posted ∈ scheduler.queue, scheduler.now < posted.due := by
  simp [dueCount, List.countP_eq_zero]

/-- A task that is put off is not due. -/
theorem dueCount_postDelayed (scheduler : Scheduler) (task : Task) {delay : Nat}
    (h : 0 < delay) : (scheduler.postDelayed task delay).dueCount = scheduler.dueCount := by
  have hNow : (scheduler.postDelayed task delay).now = scheduler.now := rfl
  have hLater : ¬decide (scheduler.now + delay ≤ scheduler.now) = true := by
    rw [decide_eq_true_eq]
    omega
  unfold dueCount
  rw [hNow, postDelayed, List.countP_append, List.countP_singleton, if_neg hLater, Nat.add_zero]

theorem dueCount_of_popDue {task : Task} (h : scheduler.popDue = some (task, after)) :
    scheduler.dueCount = after.dueCount + 1 := by
  obtain ⟨before, posted, later, hQueue, rfl, -, hDue, -⟩ := popDue_eq_some h
  unfold dueCount
  rw [hQueue, List.perm_middle.countP_eq, List.countP_cons_of_pos (by simpa using hDue)]

end Scheduler

theorem Blanking.revealDelay_pos (screenOn : Bool) : 0 < revealDelay screenOn := by
  cases screenOn
  · decide
  · decide

/-! ## Steps -/

namespace Agenda

variable {agenda after : Agenda}

theorem Updated.edited (update : agenda.Updated after) :
    agenda.scheduler.Edited after.scheduler := by
  cases update with
  | held pending => exact .same
  | blanked idle blank => exact .posted .same _ _
  | moving idle clear holders attached moves => exact .framed .same _
  | settled idle clear => exact .same

theorem Requested.edited {updates : Bool} (request : agenda.Requested updates after) :
    agenda.scheduler.Edited after.scheduler := by
  cases request with
  | same => exact .same
  | wired => exact .same
  | scheduled => exact .same
  | awake => exact .same
  | posted => exact .posted .same _ _
  | updated update => exact update.edited
  | revealed phase update => exact (Scheduler.Edited.cancelled .same _).trans update.edited

theorem edited_enter (agenda : Agenda) (lowPower : Bool) (callback : Option Registration)
    (blank : Bool) (task : Task) :
    agenda.scheduler.Edited (agenda.enter lowPower callback blank task).scheduler := by
  have hCancelled : agenda.scheduler.Edited
      ((agenda.scheduler.cancel .pendingFrame).cancel .blankingTransition) :=
    .cancelled (.cancelled .same _) _
  unfold enter
  split
  · exact .posted hCancelled task 0
  · exact .posted hCancelled task 0

theorem Entered.edited {lowPower : Bool} (entered : agenda.Entered lowPower after) :
    agenda.scheduler.Edited after.scheduler := by
  cases entered with
  | deferred callback blank task => exact agenda.edited_enter lowPower callback blank task
  | applied callback blank task update =>
      exact (agenda.edited_enter lowPower callback blank task).trans update.edited

theorem Delivered.edited {task : Task} (delivered : agenda.Delivered task after) :
    agenda.scheduler.Edited after.scheduler := by
  cases delivered with
  | stray commit reveal => exact .same
  | committed phase delay => exact .posted .same _ _
  | revealed phase update => exact update.edited

theorem Framed.edited (framed : agenda.Framed after) :
    agenda.scheduler.Edited after.scheduler := by
  cases framed with
  | still still => exact .same
  | moving kept moves => exact .framed .same _
  | settled ended carried => exact .same

/-- An update puts off what it posts. -/
theorem Updated.dueCount_eq (update : agenda.Updated after) :
    after.scheduler.dueCount = agenda.scheduler.dueCount := by
  cases update with
  | held pending => rfl
  | blanked idle blank => exact Scheduler.dueCount_postDelayed _ _ (by decide)
  | moving idle clear holders attached moves => rfl
  | settled idle clear => rfl

theorem Framed.dueCount_eq (framed : agenda.Framed after) :
    after.scheduler.dueCount = agenda.scheduler.dueCount := by
  cases framed with
  | still still => rfl
  | moving kept moves => rfl
  | settled ended carried => rfl

end Agenda

namespace World

/-- The clock passes no queued task by. -/
def Moment.Timely (moment : Moment) : Prop :=
  ∀ time, moment.event = .clock time →
    ∀ posted ∈ moment.before.host.scheduler.queue, time ≤ posted.due

theorem Moment.Instant.timely {moment : Moment} (h : moment.Instant) : moment.Timely :=
  fun time hClock => absurd hClock (h time)

/-- Whatever is no matter of the clock happens at one instant. -/
theorem Stepped.edited {world : World} {event : Event} {after : Agenda}
    (stepped : world.Stepped event after) (instant : ∀ time, event ≠ .clock time) :
    world.agenda.scheduler.Edited after.scheduler := by
  cases stepped with
  | requested other request => exact request.edited
  | confirmed active => exact .same
  | entered other entered => exact entered.edited
  | clock time => exact absurd rfl (instant time)
  | alarm =>
      split
      · exact .same
      · exact .same
  | task due delivered =>
      exact (Scheduler.Edited.taken due).trans delivered.edited
  | animationFrame framed => exact (Scheduler.Edited.framed .same false).trans framed.edited
  | preDraw update => exact update.edited

theorem Step.now_eq {before after : World} {event : Event} (step : Step before event after)
    (h : before.agenda.Steady) (instant : ∀ time, event ≠ .clock time) :
    after.now = before.now :=
  ((step.stepped_of_steady h).edited instant).now_eq

structure Prompt (world : World) : Prop where
  steady : world.agenda.Steady
  punctual : world.host.scheduler.Punctual

structure OnTime (world : World) : Prop where
  driven : world.agenda.Driven
  punctual : world.host.scheduler.Punctual

theorem OnTime.prompt {world : World} (h : world.OnTime) : world.Prompt :=
  ⟨h.driven.steady, h.punctual⟩

theorem Step.filed {before after : World} {event : Event} (step : Step before event after)
    (h : before.agenda.Steady) (hFiled : before.host.scheduler.Filed) :
    after.host.scheduler.Filed := by
  by_cases hClock : ∃ time, event = .clock time
  · obtain ⟨time, rfl⟩ := hClock
    cases step
    exact ⟨hFiled.ascending, hFiled.below⟩
  · have hInstant : ∀ time, event ≠ .clock time := fun time hEvent => hClock ⟨time, hEvent⟩
    exact ((step.stepped_of_steady h).edited hInstant).filed hFiled

theorem Step.prompt {before after : World} {event : Event} (step : Step before event after)
    (h : before.Prompt) (timely : Moment.Timely ⟨before, event, after⟩) : after.Prompt := by
  refine ⟨step.steady h.steady, ?_⟩
  -- only the clock could make a task late
  by_cases hClock : ∃ time, event = .clock time
  · obtain ⟨time, rfl⟩ := hClock
    cases step
    intro posted hMem
    have hNow := h.punctual posted hMem
    have hTime := timely time rfl posted hMem
    exact Nat.max_le.mpr ⟨hNow, hTime⟩
  · have hInstant : ∀ time, event ≠ .clock time := fun time hEvent => hClock ⟨time, hEvent⟩
    exact ((step.stepped_of_steady h.steady).edited hInstant).punctual h.punctual

theorem Step.onTime {before after : World} {event : Event} (step : Step before event after)
    (h : before.OnTime) (timely : Moment.Timely ⟨before, event, after⟩) : after.OnTime :=
  ⟨step.driven h.driven, (step.prompt h.prompt timely).punctual⟩

theorem Run.onTime {start last : World} {moments : List Moment} (run : Run start moments last)
    (h : start.OnTime) (timely : ∀ moment ∈ moments, moment.Timely) : last.OnTime :=
  (run.invariant_while OnTime Moment.Timely (fun _ _ _ h step timely => step.onTime h timely) h
    timely).1

theorem LeadsBy.prompt {start last : World} (h : LeadsBy Moment.Timely start last)
    (hStart : start.Prompt) : last.Prompt := by
  obtain ⟨moments, run, timely⟩ := h
  exact (run.invariant_while Prompt Moment.Timely (fun _ _ _ h step timely => step.prompt h timely)
    hStart timely).1

theorem LeadsBy.now_eq {start last : World} (h : LeadsBy Moment.Instant start last)
    (hStart : start.agenda.Steady) : last.now = start.now := by
  obtain ⟨moments, run, instant⟩ := h
  have hKept := run.invariant_while (fun world => world.agenda.Steady ∧ world.now = start.now)
    Moment.Instant (fun _ _ _ h step hInstant =>
      ⟨step.steady h.1, (step.now_eq h.1 hInstant).trans h.2⟩) ⟨hStart, rfl⟩ instant
  exact hKept.1.2

theorem onTime_create {settings : Settings} {options : SimulationOptions}
    {simulation : Simulation} (h : Simulation.create settings options = .ok simulation) :
    simulation.world.OnTime := by
  exact ⟨driven_create h, (updated_create h).edited.punctual nofun⟩

/-! ## Nothing due is put off -/

section DueCount

variable (world : World)

theorem dueCount_runTask (hAttached : world.agenda.Attached) (task : Task) :
    (world.runTask task).host.scheduler.dueCount = world.host.scheduler.dueCount := by
  have ofAgenda : ∀ w : World, w.agenda = world.agenda →
      w.host.scheduler.dueCount = world.host.scheduler.dueCount := by
    intro w hAgenda
    exact congrArg (fun a : Agenda => a.scheduler.dueCount) hAgenda
  cases task with
  | pendingFrame =>
      rcases agenda_frameCommitted world with ⟨hSame, -⟩ | ⟨-, hCommitted⟩
      · exact ofAgenda world.frameCommitted hSame
      · have hScheduler := congrArg Agenda.scheduler hCommitted
        exact (congrArg Scheduler.dueCount hScheduler).trans
          (Scheduler.dueCount_postDelayed _ _ (Blanking.revealDelay_pos _))
  | blankingTransition =>
      by_cases hPhase : world.agenda.blanking = .awaitingReveal
      · exact (updated_reveal rfl hAttached hPhase).dueCount_eq
      · rw [runTask, reveal_of_ne hPhase]
  | scheduleWallpaperTimeout => rfl
  | cancelWallpaperTimeout => rfl

theorem dueCount_hideWallpaper (hListening : world.agenda.listening = world.agenda.updatePending) :
    world.hideWallpaper.host.scheduler.dueCount = world.host.scheduler.dueCount := by
  have hAgenda := agenda_hideWallpaper rfl hListening
  have hScheduler : world.hideWallpaper.host.scheduler = world.host.scheduler := by
    refine (congrArg Agenda.scheduler hAgenda).trans ?_
    split
    · rfl
    · rfl
  rw [hScheduler]

theorem dueCount_animationFrame
    (hCovered : world.agenda.blanking.isPending = true → world.agenda.moving = false) :
    world.animationFrame.host.scheduler.dueCount = world.host.scheduler.dueCount := by
  have hFramed : world.agenda.Framed world.animationFrame.agenda :=
    framed_animationFrame rfl hCovered
  exact hFramed.dueCount_eq

theorem dueCount_preDraw (hAttached : world.agenda.Attached) :
    world.preDraw.host.scheduler.dueCount = world.host.scheduler.dueCount :=
  (updated_preDraw hAttached).dueCount_eq

end DueCount

/-! The same of the alarm: of what the host delivers only tasks arm it. -/

section Alarm

variable (world : World)

theorem alarm_hideWallpaper : world.hideWallpaper.host.alarm = world.host.alarm := by
  unfold hideWallpaper scheduleUpdate
  split
  · dsimp only
    split
    · rfl
    · rfl
  · rfl

theorem alarm_standing : world.standing.host.alarm = world.host.alarm := rfl

theorem alarm_animationFrame : world.animationFrame.host.alarm = world.host.alarm := by
  rw [← alarm_standing, standing_animationFrame, alarm_standing]

theorem alarm_preDraw : world.preDraw.host.alarm = world.host.alarm := by
  obtain ⟨stale, alpha, surfaces, hPrepared⟩ :=
    prepare_eq { world.standing with controller.updatePending := false }
  rw [← alarm_standing, standing_preDraw, hPrepared]
  rfl

end Alarm

end World

end Scrim
