import Scrim.Proofs.Refusal

/-!
# Attempts

The owner of a simulation may go on after a refused request. An *attempt* is a step or a refused
request, and a `World.Trial` is a sequence of attempts, as a `World.Run` is one of steps. Whatever
calls are made on a simulation, refused ones included, its world is one that a trial leads to
(`Simulation.Tried.trial`), and its agenda is steady (`Simulation.Tried.steady`).
-/

namespace Scrim

namespace World

/-- An event that is accepted or refused, and the world after it. -/
inductive Attempt (world : World) : Event → World → Prop where
  | step {event : Event} {after : World} (step : Step world event after) :
      Attempt world event after
  | refused {operation : Operation} {error : Error}
      (refused : (operation.run world).error = some error) :
      Attempt world (.request operation) (operation.run world).world

/-- The moments of attempts that lead from one world to another. -/
inductive Trial (start : World) : List Moment → World → Prop where
  | nil : Trial start [] start
  | snoc {moments : List Moment} {before after : World} {event : Event}
      (trial : Trial start moments before) (attempt : Attempt before event after) :
      Trial start (moments ++ [⟨before, event, after⟩]) after

theorem Trial.invariant (Inv : World → Prop)
    (kept : ∀ before event after, Inv before → Attempt before event after → Inv after)
    {start last : World} {moments : List Moment} (trial : Trial start moments last)
    (h : Inv start) : Inv last := by
  induction trial with
  | nil => exact h
  | snoc _ attempt ih => exact kept _ _ _ ih attempt

theorem Trial.run {start middle last : World} {moments more : List Moment}
    (trial : Trial start moments middle) (run : Run middle more last) :
    Trial start (moments ++ more) last := by
  induction run with
  | nil => simpa using trial
  | snoc _ step ih =>
      rw [← List.append_assoc]
      exact ih.snoc (.step step)

/-! ## Steady attempts -/

/-- What no refusal touches is all that a steady agenda asks for. -/
theorem Spares.steady {world after : World} (spares : world.Spares after)
    (h : world.agenda.Steady) : after.agenda.Steady := by
  have hListening : after.agenda.listening = world.agenda.listening :=
    congrArg Surface.preDrawListener (Option.some.inj (spares.surface .behind nofun))
  have hAuxiliary : after.agenda.auxiliary = world.agenda.auxiliary :=
    congrArg Option.isSome (spares.surface .auxiliary nofun)
  have hRunning : after.agenda.running = world.agenda.running :=
    congrArg Animations.carried spares.animations
  have hMoving : after.agenda.moving = world.agenda.moving := by
    unfold Agenda.moving
    rw [hRunning]
  constructor
  · exact (hListening.trans h.listens).trans spares.updatePending.symm
  · intro hAbsent
    rw [hRunning]
    exact h.attached (hAuxiliary.symm.trans hAbsent)
  · intro hPending
    rw [hMoving]
    exact h.covered ((congrArg Blanking.isPending spares.blanking).symm.trans hPending)

theorem Attempt.steady {before after : World} {event : Event}
    (attempt : Attempt before event after) (h : before.agenda.Steady) : after.agenda.Steady := by
  cases attempt with
  | step step => exact step.steady h
  | refused refused => exact (refused_run refused).spares.steady h

end World

/-! ## Calls -/

namespace Simulation

open World

variable {settings : Settings} {options : SimulationOptions} {simulation : Simulation}

/-- The simulations that calls lead to, accepted or refused, in any order and with any
arguments. -/
inductive Tried (settings : Settings) (options : SimulationOptions) : Simulation → Prop where
  | created {simulation : Simulation} (h : create settings options = .ok simulation) :
      Tried settings options simulation
  | called {simulation next : Simulation} {call : Call} {error : Option Error}
      (h : Tried settings options simulation) (made : call.run simulation = some (next, error)) :
      Tried settings options next

theorem Reached.tried (h : Reached settings options simulation) :
    Tried settings options simulation := by
  induction h with
  | created h => exact .created h
  | called _ accepted ih => exact ih.called accepted

/-- Makes calls one after the other as long as they come back, whether they are accepted or not. -/
def tryAll : List Call → Simulation → Option Simulation
  | [], simulation => some simulation
  | call :: rest, simulation => (call.run simulation).bind fun (next, _) => tryAll rest next

/-- The first of several calls comes back, and so do the others after it. -/
theorem tryAll_cons {call : Call} {rest : List Call} {last : Simulation}
    (made : tryAll (call :: rest) simulation = some last) : ∃ next error,
      call.run simulation = some (next, error) ∧ tryAll rest next = some last := by
  obtain ⟨⟨next, error⟩, hCall, hRest⟩ := Option.bind_eq_some_iff.mp made
  exact ⟨next, error, hCall, hRest⟩

theorem Tried.tryAll {last : Simulation} {calls : List Call}
    (h : Tried settings options simulation) (made : tryAll calls simulation = some last) :
    Tried settings options last := by
  induction calls generalizing simulation with
  | nil =>
      obtain rfl := Option.some.inj made
      exact h
  | cons call rest ih =>
      obtain ⟨next, error, hCall, hRest⟩ := tryAll_cons made
      exact ih (h.called hCall) hRest

theorem exists_tryAll {calls : List Call} {good : Simulation → Bool}
    (h : (create settings options).toOption.any (fun first =>
      (Simulation.tryAll calls first).any good) = true) :
    ∃ first last, create settings options = .ok first ∧
      Simulation.tryAll calls first = some last ∧ good last = true := by
  obtain ⟨first, hCreate, hMade⟩ := exists_of_any_create h
  obtain ⟨last, hLast, hGood⟩ := (Option.any_eq_true _ _).mp hMade
  exact ⟨first, last, hCreate, hLast, hGood⟩

theorem trial_call {start : World} {moments : List Moment} {next : Simulation} {call : Call}
    {error : Option Error} (trial : Trial start moments simulation.world)
    (made : call.run simulation = some (next, error)) :
    ∃ more, Trial start more next.world := by
  rcases call_cases made with ⟨operation, hMade⟩ | ⟨_, _, hMade, -⟩ | ⟨_, _, hMade, -⟩
  · obtain ⟨rfl, -⟩ := perform_eq hMade
    cases hError : (operation.run simulation.world).error with
    | none => exact ⟨_, trial.snoc (.step (.request hError))⟩
    | some error => exact ⟨_, trial.snoc (.refused hError)⟩
  · obtain ⟨_, run⟩ := (unasked_advance hMade).leads
    exact ⟨_, trial.run run⟩
  · obtain ⟨_, run⟩ := (unasked_playWhile hMade).leads
    exact ⟨_, trial.run run⟩

/-- Every simulation that calls lead to holds a world that a trial leads to. -/
theorem Tried.trial (h : Tried settings options simulation) :
    ∃ first moments, create settings options = .ok first ∧
      Trial first.world moments simulation.world := by
  induction h with
  | created h => exact ⟨_, [], h, .nil⟩
  | called _ made ih =>
      obtain ⟨first, moments, hCreate, trial⟩ := ih
      obtain ⟨more, trial⟩ := trial_call trial made
      exact ⟨first, more, hCreate, trial⟩

theorem Tried.steady (h : Tried settings options simulation) :
    simulation.world.agenda.Steady := by
  obtain ⟨first, moments, hCreate, trial⟩ := h.trial
  exact trial.invariant (fun world => world.agenda.Steady)
    (fun _ _ _ h attempt => attempt.steady h) (driven_create hCreate).steady

end Simulation

end Scrim
