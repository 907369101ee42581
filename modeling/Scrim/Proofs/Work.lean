import Scrim.Proofs.Pace

/-!
# What is left to do

`World.work` counts what a controller has put off and what that may put off in turn. Every queued
task counts one, and the one that arms the alarm two more, for an armed alarm counts two: it has an
update run before the next frame, which is one. A blanking that is asked for counts four, for it
comes with two tasks, one after the other; the black frame that waits to be displayed counts two,
and the reveal that is waited for one.

Whatever the host delivers does some of it, animation frames apart, and those add nothing
(`World.Step.work_lt`, `World.Step.work_animationFrame`).
-/

namespace Scrim

/-! ## Tasks -/

/-- What a queued task may still bring about, itself included. -/
def Task.work : Task → Nat
  | .scheduleWallpaperTimeout => 3
  | _ => 1

namespace Scheduler

/-- The work of a queue, task by task. -/
def queueWork : List Posted → Nat
  | [] => 0
  | head :: rest => head.task.work + queueWork rest

/-- A task adds its work wherever it stands. -/
theorem queueWork_append_cons (before : List Posted) (posted : Posted) (after : List Posted) :
    queueWork (before ++ posted :: after) = posted.task.work + queueWork (before ++ after) := by
  induction before with
  | nil => rfl
  | cons head rest ih =>
      rw [List.cons_append, List.cons_append, queueWork, queueWork, ih]
      omega

def work (scheduler : Scheduler) : Nat :=
  queueWork scheduler.queue

theorem work_postDelayed (scheduler : Scheduler) (task : Task) (delay : Nat) :
    (scheduler.postDelayed task delay).work = task.work + scheduler.work := by
  unfold work postDelayed
  rw [queueWork_append_cons, List.append_nil]

theorem work_of_popDue {scheduler rest : Scheduler} {task : Task}
    (h : scheduler.popDue = some (task, rest)) : scheduler.work = task.work + rest.work := by
  obtain ⟨before, posted, after, hQueue, rfl, rfl, -⟩ := popDue_eq_some h
  unfold work
  rw [hQueue, queueWork_append_cons]

end Scheduler

/-! ## The alarm -/

/-- What an armed alarm may still bring about. -/
def Alarm.work (alarm : Alarm) : Nat :=
  if alarm.isScheduled then 2 else 0

theorem Alarm.work_le (alarm : Alarm) : alarm.work ≤ 2 := by
  unfold work
  split
  · exact Nat.le_refl _
  · exact Nat.zero_le _

/-- An alarm that is due is armed. -/
theorem Alarm.work_of_isDue {alarm : Alarm} {now : Nat} (h : alarm.isDue now = true) :
    alarm.work = 2 := by
  unfold isDue at h
  split at h
  · next deadline hArmed =>
    refine if_pos ?_
    rw [isScheduled, hArmed]
    rfl
  · cases h

/-! ## Agendas -/

/-- What a blanking may still bring about. -/
def Blanking.work (phase : Blanking) (blankScreen : Bool) : Nat :=
  match phase with
  | .idle => if blankScreen then 4 else 0
  | .awaitingFrame => 2
  | .awaitingReveal => 1

namespace Agenda

def work (agenda : Agenda) : Nat :=
  agenda.scheduler.work + agenda.blanking.work agenda.blankScreen + agenda.updatePending.toNat

variable {agenda after : Agenda}

theorem work_schedule_le (agenda : Agenda) : agenda.schedule.work ≤ agenda.work + 1 := by
  simp only [work, schedule, Bool.toNat_true]
  omega

theorem work_unschedule (h : agenda.updatePending = true) :
    agenda.unschedule.work + 1 = agenda.work := by
  simp only [work, unschedule, h, Bool.toNat_true, Bool.toNat_false]

theorem Updated.work_le (update : agenda.Updated after) : after.work ≤ agenda.work := by
  cases update with
  | held pending => exact Nat.le_refl _
  | blanked idle blank =>
      have hPhase : agenda.blanking = .idle := by simpa [Blanking.isPending] using idle
      simp only [work, Scheduler.work_postDelayed, hPhase, blank, Blanking.work, Task.work,
        if_true]
      omega
  | moving idle clear holders attached moves => exact Nat.le_refl _
  | settled idle clear => exact Nat.le_refl _

/-- A task of a blanking hands over to the next one. -/
theorem Delivered.work_le {task : Task} (delivered : agenda.Delivered task after) :
    after.work ≤ agenda.work := by
  cases delivered with
  | stray commit reveal => exact Nat.le_refl _
  | committed phase delay =>
      simp only [work, Scheduler.work_postDelayed, phase, Blanking.work, Task.work]
      omega
  | revealed phase update =>
      have hRevealed : agenda.reveal.work ≤ agenda.work := by
        simp only [work, reveal, phase, Blanking.work, Bool.false_eq_true, if_false]
        omega
      exact Nat.le_trans update.work_le hRevealed

theorem Framed.work_eq (framed : agenda.Framed after) : after.work = agenda.work := by
  cases framed with
  | still still => rfl
  | moving kept moves => rfl
  | settled ended carried => rfl

end Agenda

/-! ## Worlds -/

namespace World

def work (world : World) : Nat :=
  world.agenda.work + world.host.alarm.work

variable {world : World}

/-- Of all tasks one arms the alarm, and that one counts for it. -/
theorem work_alarm_runTask (world : World) (task : Task) :
    (world.runTask task).host.alarm.work + 1 ≤ world.host.alarm.work + task.work := by
  cases task with
  | pendingFrame =>
      have hAlarm : world.frameCommitted.host.alarm = world.host.alarm := by
        rw [← alarm_standing, standing_frameCommitted, alarm_standing]
      rw [runTask, hAlarm]
      exact Nat.le_refl _
  | blankingTransition =>
      have hAlarm : world.reveal.host.alarm = world.host.alarm := by
        unfold reveal
        split
        · rfl
        · exact alarm_update _
      rw [runTask, hAlarm]
      exact Nat.le_refl _
  | scheduleWallpaperTimeout =>
      have hArmed := world.armAlarm.host.alarm.work_le
      exact Nat.le_trans (Nat.succ_le_succ hArmed) (Nat.le_add_left _ _)
  | cancelWallpaperTimeout => exact Nat.le_add_left _ _

/-- A task that is taken is done, whatever it posts or arms. -/
theorem work_runTask {task : Task} {rest : Scheduler} (h : world.agenda.Attached)
    (due : world.host.scheduler.popDue = some (task, rest)) :
    ({ world with host.scheduler := rest }.runTask task).work < world.work := by
  have hTaken : (world.agenda.onScheduler rest).work + task.work = world.agenda.work := by
    have hPopped := Scheduler.work_of_popDue due
    simp only [Agenda.work, Agenda.onScheduler]
    rw [show world.agenda.scheduler = world.host.scheduler from rfl, hPopped]
    omega
  have hAlarm : ({ world with host.scheduler := rest }.runTask task).host.alarm.work + 1 ≤
      world.host.alarm.work + task.work := work_alarm_runTask _ task
  have hAgenda := (@delivered_runTask { world with host.scheduler := rest }
    (world.agenda.onScheduler rest) rfl h task).work_le
  unfold work
  omega

theorem work_hideWallpaper (h : world.agenda.listening = world.agenda.updatePending)
    (due : world.host.alarm.isDue world.now = true) :
    ({ world with host.alarm := world.host.alarm.cancel }.hideWallpaper).work < world.work := by
  have hArmed := Alarm.work_of_isDue due
  have hAgenda := agenda_hideWallpaper
    (show { world with host.alarm := world.host.alarm.cancel }.agenda = world.agenda from rfl) h
  have hScheduled := world.agenda.hold.work_schedule_le
  unfold work
  rw [alarm_hideWallpaper, hAgenda, hArmed]
  show _ + 0 < _
  split
  · exact Nat.lt_of_le_of_lt hScheduled (Nat.lt_succ_self _)
  · exact Nat.lt_add_of_pos_right Nat.two_pos

theorem work_preDraw (h : world.agenda.Steady)
    (listening : world.host.surfaces.behind.preDrawListener = true) :
    world.preDraw.work < world.work := by
  have hPending : world.agenda.updatePending = true := h.listens.symm.trans listening
  have hUpdated := (updated_preDraw h.attached).work_le
  have hDone := Agenda.work_unschedule hPending
  unfold work
  rw [alarm_preDraw]
  omega

theorem work_animationFrame
    (h : world.agenda.blanking.isPending = true → world.agenda.moving = false) :
    world.animationFrame.work = world.work := by
  have hFramed : world.agenda.Framed world.animationFrame.agenda := framed_animationFrame rfl h
  unfold work
  rw [hFramed.work_eq, alarm_animationFrame]

/-! ## Steps -/

/-- An animation frame leaves the work to be done as it is. -/
theorem Step.work_animationFrame {before after : World}
    (step : Step before (.host .animationFrame) after) (h : before.agenda.Steady) :
    after.work = before.work := by
  cases step with
  | animationFrame requested => exact World.work_animationFrame h.covered

/-- Whatever else the host delivers does some of the work. -/
theorem Step.work_lt {before after : World} {event : Event} (step : Step before event after)
    (handed : Moment.Handed ⟨before, event, after⟩) (h : before.agenda.Steady)
    (other : event ≠ .host .animationFrame) : after.work < before.work := by
  cases step with
  | request accepted => exact absurd rfl (handed.2 _)
  | clock time => exact absurd rfl (handed.1 _)
  | alarm due => exact work_hideWallpaper h.listens due
  | task due => exact work_runTask h.attached due
  | animationFrame requested => exact absurd rfl other
  | preDraw listening => exact work_preDraw h listening

/-- Nothing that the host delivers adds to the work. -/
theorem LeadsBy.work_le {start last : World} (leads : LeadsBy Moment.Handed start last)
    (h : start.agenda.Steady) : last.work ≤ start.work := by
  obtain ⟨moments, run, handed⟩ := leads
  refine (run.invariant_while (fun world => world.agenda.Steady ∧ world.work ≤ start.work)
    Moment.Handed ?_ ⟨h, Nat.le_refl _⟩ handed).1.2
  rintro before event after ⟨hSteady, hLe⟩ step hHanded
  refine ⟨step.steady hSteady, ?_⟩
  by_cases hFrame : event = .host .animationFrame
  · subst hFrame
    exact Nat.le_trans (Nat.le_of_eq (step.work_animationFrame hSteady)) hLe
  · exact Nat.le_trans (Nat.le_of_lt (step.work_lt hHanded hSteady hFrame)) hLe

end World

end Scrim
