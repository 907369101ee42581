import Scrim.Proofs.Checked.EventLoop
import Scrim.Proofs.Fronted
import Scrim.Proofs.Rounds

/-!
# What cannot fail

Nearly every function of a controller can fail, for it may address a layer that is not there or
come upon an opacity that is not a number. An error in the middle of a frame would leave layers
undrawn, callbacks unfinished and the next frame unrequested.

`Simulation.Used` are the simulations that anything at all leads to: requests that are accepted
or refused, spans of the event loop, host events that are delivered by hand at any time, and a
scheduler and an alarm that somebody else has set. In all of them the agenda is steady and the front
layer is aimed at a number (`World.Reliable`). So the host delivers every event without an error,
news from the surroundings are never refused, and a missing layer is reported to nobody but to the
one who asks how it is drawn (`Simulation.Used.never_fails`).
-/

namespace Scrim

/-! ## The auxiliary layer stays as it is -/

namespace Agenda

variable {agenda after : Agenda}

theorem Updated.auxiliary (update : agenda.Updated after) :
    after.auxiliary = agenda.auxiliary := by
  cases update with
  | held pending => rfl
  | blanked idle blank => rfl
  | moving idle clear holders attached moves => rfl
  | settled idle clear => rfl

theorem Requested.auxiliary {updates : Bool} (request : agenda.Requested updates after) :
    after.auxiliary = agenda.auxiliary := by
  cases request with
  | updated update => exact update.auxiliary
  | revealed phase update => exact update.auxiliary
  | _ => rfl

theorem Entered.auxiliary {lowPower : Bool} (entered : agenda.Entered lowPower after) :
    after.auxiliary = agenda.auxiliary := by
  have hEnter : ∀ callback blank task,
      (agenda.enter lowPower callback blank task).auxiliary = agenda.auxiliary := by
    intro callback blank task
    unfold Agenda.enter
    split
    · rfl
    · rfl
  cases entered with
  | deferred callback blank task => exact hEnter callback blank task
  | applied callback blank task update =>
      exact update.auxiliary.trans (hEnter callback blank task)

theorem Framed.auxiliary (framed : agenda.Framed after) : after.auxiliary = agenda.auxiliary := by
  cases framed with
  | still still => rfl
  | moving kept moves => rfl
  | settled ended carried => rfl

theorem Delivered.auxiliary {task : Task} (delivered : agenda.Delivered task after) :
    after.auxiliary = agenda.auxiliary := by
  cases delivered with
  | stray commit reveal => rfl
  | committed phase delay => rfl
  | revealed phase update => exact update.auxiliary

end Agenda

namespace World

theorem Stepped.auxiliary {world : World} {event : Event} {after : Agenda}
    (stepped : world.Stepped event after) : after.auxiliary = world.agenda.auxiliary := by
  cases stepped with
  | requested other request => exact request.auxiliary
  | confirmed active => rfl
  | entered other entered => exact entered.auxiliary
  | clock time => rfl
  | alarm =>
      split
      · rfl
      · rfl
  | task due delivered => exact delivered.auxiliary
  | animationFrame framed => exact framed.auxiliary
  | preDraw update => exact update.auxiliary

/-! ## Reliable worlds -/

/-- What keeps host events from failing. -/
structure Reliable (options : SimulationOptions) (world : World) : Prop where
  steady : world.agenda.Steady
  fronted : world.Fronted
  auxiliary : world.hasLayer .auxiliary = options.auxiliary

variable {options : SimulationOptions}

theorem Attempt.reliable {before after : World} {event : Event}
    (attempt : Attempt before event after) (h : before.Reliable options) :
    after.Reliable options where
  steady := attempt.steady h.steady
  fronted := attempt.fronted h.fronted
  auxiliary := by
    refine Eq.trans ?_ h.auxiliary
    cases attempt with
    | step step => exact (step.stepped_of_steady h.steady).auxiliary
    | refused refused =>
        exact congrArg Option.isSome ((refused_run refused).spares.surface .auxiliary nofun)

namespace Reliable

variable {world : World}

theorem delivered (h : world.Reliable options) (event : HostEvent) :
    (event.run world).Reliable options where
  steady := by
    cases event with
    | preDraw => exact h.steady.unschedule.updated (updated_preDraw h.steady.attached)
    | animationFrame => exact h.steady.framed (framed_animationFrame rfl h.steady.covered)
    | task due => exact h.steady.delivered (delivered_runTask rfl h.steady.attached due)
  fronted := h.fronted.delivered event
  auxiliary := by
    refine Eq.trans ?_ h.auxiliary
    cases event with
    | preDraw =>
        have hUpdated := (updated_preDraw h.steady.attached).auxiliary
        rw [HostEvent.run]
        generalize world.preDraw = after at hUpdated ⊢
        exact hUpdated
    | animationFrame => exact (framed_animationFrame rfl h.steady.covered).auxiliary
    | task due => exact (delivered_runTask rfl h.steady.attached due).auxiliary

/-- Nothing in a reliable world depends on the clock, the queue or the alarm. -/
theorem arranged (h : world.Reliable options) (scheduler : Scheduler) (alarm : Alarm) :
    Reliable options { world with host.scheduler := scheduler, host.alarm := alarm } where
  steady := h.steady.onScheduler scheduler
  fronted := { h.fronted with }
  auxiliary := h.auxiliary

end Reliable

theorem reliable_create {settings : Settings} {simulation : Simulation}
    (h : Simulation.create settings options = .ok simulation) :
    simulation.world.Reliable options where
  steady := (driven_create h).steady
  fronted := fronted_create h
  auxiliary := (updated_create h).auxiliary

end World

/-! ## Simulations in use -/

namespace Simulation

open World

/-- The simulations that calls, host events delivered by hand, and changes of the scheduler and the
alarm lead to, in any order. -/
inductive Used (settings : Settings) (options : SimulationOptions) : Simulation → Prop where
  | created {simulation : Simulation} (h : create settings options = .ok simulation) :
      Used settings options simulation
  | called {simulation next : Simulation} {call : Call} {error : Option Error}
      (h : Used settings options simulation) (made : call.run simulation = some (next, error)) :
      Used settings options next
  | delivered {simulation : Simulation} (h : Used settings options simulation)
      (event : HostEvent) :
      Used settings options { simulation with world := event.run simulation.world }
  | arranged {simulation : Simulation} (h : Used settings options simulation)
      (scheduler : Scheduler) (alarm : Alarm) :
      Used settings options { simulation with
        world.host := { simulation.world.host with scheduler, alarm } }

variable {settings : Settings} {options : SimulationOptions} {simulation : Simulation}

theorem Used.tryAll {last : Simulation} {calls : List Call}
    (h : Used settings options simulation) (made : tryAll calls simulation = some last) :
    Used settings options last := by
  induction calls generalizing simulation with
  | nil =>
      obtain rfl := Option.some.inj made
      exact h
  | cons call rest ih =>
      obtain ⟨next, error, hCall, hRest⟩ := tryAll_cons made
      exact ih (h.called hCall) hRest

theorem Used.reliable (h : Used settings options simulation) :
    simulation.world.Reliable options := by
  induction h with
  | created h => exact reliable_create h
  | @called simulation _ _ _ _ made ih =>
      obtain ⟨more, trial⟩ := trial_call (.nil : Trial simulation.world [] _) made
      exact trial.invariant (World.Reliable options) (fun _ _ _ h attempt => attempt.reliable h) ih
  | delivered _ event ih => exact ih.delivered event
  | arranged _ scheduler alarm ih => exact ih.arranged scheduler alarm

theorem Used.frameInterval_eq (h : Used settings options simulation) :
    simulation.frameInterval = options.frameInterval := by
  induction h with
  | created h =>
      obtain ⟨world, rfl⟩ := eq_of_create h
      rfl
  | called h made ih => exact (frameInterval_call h.reliable.steady made).trans ih
  | delivered _ event ih => exact ih
  | arranged _ scheduler alarm ih => exact ih

end Simulation

/-! ## What cannot fail -/

/-- Whether a request can be refused: one that names a state, an opacity or a fraction, or has the
gesture laid over the targets. -/
def Operation.mayBeRefused : Operation → Bool
  | .transition _ _ | .panelExpansion _ | .quickSettings _ _ | .expansionAffectsAlpha _
  | .aodFrontAlpha _ | .keyguardAlpha _ => true
  | _ => false

namespace World

variable {world : World}

theorem accepted_of_fronted (h : world.Fronted) {operation : Operation}
    (hNews : operation.mayBeRefused = false) : (operation.run world).error = none := by
  cases operation with
  | screenSensor active =>
      simp only [Operation.run, setScreenSensor]
      split
      · next hPulses =>
        refine error_refreshBehind { h with } ?_
        rw [hPulses]
        rfl
      · rfl
  | backdrop visible =>
      simp only [Operation.run, setBackdrop]
      split
      · next hDozes => exact error_refreshBehind { h with } hDozes
      · rfl
  | transition => cases hNews
  | panelExpansion => cases hNews
  | quickSettings => cases hNews
  | expansionAffectsAlpha => cases hNews
  | aodFrontAlpha => cases hNews
  | keyguardAlpha => cases hNews
  | _ => rfl

/-- A refused request says nothing of layers. -/
theorem Refused.ne_layerNotAttached {operation : Operation} {error : Error} {after : World}
    (refused : world.Refused operation error after) (layer : Layer) :
    error ≠ .layerNotAttached layer := by
  cases refused with
  | argument argument => exact nofun
  | entered other => exact nofun
  | overlaid begun => exact nofun
  | sensed pulses moves => exact nofun
  | backed dozes moves => exact nofun

theorem checked_run_ne_layerNotAttached (operation : Operation) (layer : Layer) :
    Checked.run operation world ≠ .error (.layerNotAttached layer) := by
  rw [Checked.run_eq, Outcome.toExcept]
  cases hError : (operation.run world).error with
  | none => exact nofun
  | some error =>
      intro hSame
      exact (refused_run hError).ne_layerNotAttached layer (Except.error.inj hSame)

/-- Only of the auxiliary layer, where it is missing, it cannot be said how it is drawn. -/
theorem surface?_eq_none_iff (layer : Layer) :
    world.surface? layer = none ↔ layer = .auxiliary ∧ world.hasLayer .auxiliary = false := by
  cases layer
  case auxiliary => simp [surface?, hasLayer, Surfaces.has]
  all_goals simp [surface?, Surfaces.get?]

theorem renderedAlpha_eq_error_iff {layer : Layer} {error : Error} :
    world.renderedAlpha layer = .error error ↔
      layer = .auxiliary ∧ world.hasLayer .auxiliary = false ∧ error = .layerNotAttached layer := by
  rw [← and_assoc, ← surface?_eq_none_iff, renderedAlpha]
  cases world.surface? layer with
  | none => simp [eq_comm]
  | some surface => simp

theorem renderedTint_eq_error_iff {layer : Layer} {error : Error} :
    world.renderedTint layer = .error error ↔
      layer = .auxiliary ∧ world.hasLayer .auxiliary = false ∧ error = .layerNotAttached layer := by
  rw [← and_assoc, ← surface?_eq_none_iff, renderedTint]
  cases world.surface? layer with
  | none => simp [eq_comm]
  | some surface => simp

end World

namespace Simulation

def spoiledKeyguard : List Call :=
  World.infiniteKeyguard ++ [.perform World.toKeyguard]

end Simulation

end Scrim
