import Scrim.Proofs.Agenda.Step

/-!
# Steady agendas

An agenda may promise more than it keeps: a refused request can register a callback whose
transition is never completed. `Agenda.Steady` is what an agenda keeps however that may be. It is
all that a step needs to do what `World.Stepped` lists, and every step keeps it.
-/

namespace Scrim

namespace Agenda

/-- A pending update has its listener, no animation runs on a layer that is not there, and nothing
moves behind a held black frame. -/
structure Steady (agenda : Agenda) : Prop where
  listens : agenda.listening = agenda.updatePending
  attached : agenda.Attached
  covered : agenda.blanking.isPending = true → agenda.moving = false

namespace Steady

variable {agenda after : Agenda}

theorem of_still (listens : agenda.listening = agenda.updatePending)
    (still : agenda.running = .splat none) : agenda.Steady where
  listens := listens
  attached _ := by rw [still]; rfl
  covered _ := moving_eq_false_iff.mpr still

/-! ## Updates -/

theorem updated (h : agenda.Steady) (update : agenda.Updated after) : after.Steady := by
  cases update with
  | held pending => exact of_still h.listens rfl
  | blanked idle blank => exact of_still h.listens rfl
  | moving idle clear holders attached moves =>
      exact ⟨h.listens, attached, fun hPending => absurd (idle.symm.trans hPending) nofun⟩
  | settled idle clear => exact of_still h.listens rfl

theorem unschedule (h : agenda.Steady) : agenda.unschedule.Steady :=
  { h with listens := rfl }

theorem schedule (h : agenda.Steady) : agenda.schedule.Steady :=
  { h with listens := rfl }

theorem onScheduler (h : agenda.Steady) (scheduler : Scheduler) :
    (agenda.onScheduler scheduler).Steady :=
  { h with }

theorem reveal (h : agenda.Steady) : agenda.reveal.Steady :=
  { h with covered := nofun }

/-! ## Requests -/

theorem requested {updates : Bool} (h : agenda.Steady)
    (request : agenda.Requested updates after) : after.Steady := by
  cases request with
  | same => exact h
  | wired => exact { h with }
  | scheduled => exact h.schedule
  | awake => exact Steady.schedule { h with }
  | posted => exact h.onScheduler _
  | updated update => exact h.updated update
  | revealed phase update => exact (h.onScheduler _).reveal.updated update

theorem enter (h : agenda.Steady) (lowPower : Bool) (callback : Option Registration)
    (blank : Bool) (task : Task) : (agenda.enter lowPower callback blank task).Steady := by
  unfold Agenda.enter
  split
  · exact ⟨h.listens, h.attached, nofun⟩
  · exact ⟨h.listens, h.attached, nofun⟩

theorem entered {lowPower : Bool} (h : agenda.Steady) (entered : agenda.Entered lowPower after) :
    after.Steady := by
  cases entered with
  | deferred callback blank task => exact (h.enter lowPower callback blank task).schedule
  | applied callback blank task update =>
      exact (h.enter lowPower callback blank task).unschedule.updated update

/-! ## Host events -/

theorem framed (h : agenda.Steady) (framed : agenda.Framed after) : after.Steady := by
  cases framed with
  | still still => exact h
  | moving kept moves =>
      exact
        { listens := h.listens
          attached := fun hAbsent => (kept .auxiliary).elim (·.trans (h.attached hAbsent)) id
          covered := fun hPending => by
            -- animations are kept or ended, so where none runs none is left
            have hStill := moving_eq_false_iff.mp (h.covered hPending)
            refine moving_eq_false_iff.mpr (PerLayer.ext_get fun layer => ?_)
            rcases kept layer with hKept | hEnded
            · rw [hKept, hStill]
            · rw [hEnded, PerLayer.get_splat] }
  | settled ended carried => exact of_still h.listens rfl

theorem delivered {task : Task} (h : agenda.Steady) (delivered : agenda.Delivered task after) :
    after.Steady := by
  cases delivered with
  | stray commit reveal => exact h
  | committed phase delay =>
      refine ⟨h.listens, h.attached, fun _ => h.covered ?_⟩
      rw [phase]
      rfl
  | revealed phase update => exact h.reveal.updated update

end Steady

end Agenda

namespace World

theorem Stepped.steady {world : World} {event : Event} {after : Agenda}
    (stepped : world.Stepped event after) (h : world.agenda.Steady) : after.Steady := by
  cases stepped with
  | requested other request => exact h.requested request
  | confirmed active => exact h
  | entered other entered => exact h.entered entered
  | clock time => exact h.onScheduler _
  | alarm =>
      split
      · exact h.requested .awake
      · exact h
  | task due delivered => exact (h.onScheduler _).delivered delivered
  | animationFrame framed => exact (h.onScheduler _).framed framed
  | preDraw update => exact h.unschedule.updated update

theorem Step.stepped_of_steady {before after : World} {event : Event}
    (step : Step before event after) (h : before.agenda.Steady) :
    Stepped before event after.agenda :=
  step.stepped h.listens h.attached h.covered

theorem Step.steady {before after : World} {event : Event} (step : Step before event after)
    (h : before.agenda.Steady) : after.agenda.Steady :=
  (step.stepped_of_steady h).steady h

theorem Leads.steady {start last : World} (leads : Leads start last)
    (h : start.agenda.Steady) : last.agenda.Steady := by
  obtain ⟨moments, run⟩ := leads
  exact run.invariant (fun world => world.agenda.Steady) (fun _ _ _ h step => step.steady h) h

end World

end Scrim
