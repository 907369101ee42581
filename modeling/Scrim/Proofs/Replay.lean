import Scrim.Proofs.Pace
import Scrim.Scenario.Replay

/-!
# Replay by time

A replay depends on the timing of a script and not on how it is written down. The steps are put in
order of time, those of one instant in the order of the script (`InOrder`), and this determines the
list (`InOrder.unique`). Each step is applied when the clock stands exactly at its time and
everything up to then has happened, and the first refused step ends the replay (`Replays`).

The main statement is `Simulation.replay_by_timing`: on a fresh simulation a script is replayed so,
to its end if frames are some time apart, and a rearranged script, in which the steps of one instant
keep their order, leaves the same simulation behind: frames, callbacks, dispatches, visibility, lock
calls, log and all.
-/

namespace Scrim

/-! ## The order of steps -/

def stepsAt (atMs : Nat) (steps : List ScenarioStep) : List ScenarioStep :=
  steps.filter (·.atMs = atMs)

theorem mem_stepsAt {atMs : Nat} {steps : List ScenarioStep} {step : ScenarioStep} :
    step ∈ stepsAt atMs steps ↔ step ∈ steps ∧ step.atMs = atMs := by
  rw [stepsAt, List.mem_filter, decide_eq_true_eq]

theorem stepsAt_cons_of_eq {atMs : Nat} {step : ScenarioStep} (rest : List ScenarioStep)
    (h : step.atMs = atMs) : stepsAt atMs (step :: rest) = step :: stepsAt atMs rest :=
  List.filter_cons_of_pos (decide_eq_true h)

theorem stepsAt_cons_of_ne {atMs : Nat} {step : ScenarioStep} (rest : List ScenarioStep)
    (h : step.atMs ≠ atMs) : stepsAt atMs (step :: rest) = stepsAt atMs rest :=
  List.filter_cons_of_neg (by simpa using h)

/-- The same steps, those of one instant in the same order. -/
structure Rearranges (steps other : List ScenarioStep) : Prop where
  perm : other.Perm steps
  ties : ∀ atMs, stepsAt atMs other = stepsAt atMs steps

/-- The steps of a script in order of time, those of one instant in the order of the script. -/
structure InOrder (steps ordered : List ScenarioStep) : Prop extends Rearranges steps ordered where
  sorted : ordered.Pairwise fun step later => step.atMs ≤ later.atMs

theorem inOrder_sortedSteps (scenario : Scenario) :
    InOrder scenario.steps scenario.sortedSteps := by
  have hTrans (a b c : ScenarioStep) (hab : decide (a.atMs ≤ b.atMs) = true)
      (hbc : decide (b.atMs ≤ c.atMs) = true) : decide (a.atMs ≤ c.atMs) = true := by
    rw [decide_eq_true_eq] at hab hbc ⊢
    exact Nat.le_trans hab hbc
  have hTotal (a b : ScenarioStep) :
      (decide (a.atMs ≤ b.atMs) || decide (b.atMs ≤ a.atMs)) = true := by
    simpa using Nat.le_total a.atMs b.atMs
  have hPerm : scenario.sortedSteps.Perm scenario.steps := List.mergeSort_perm _ _
  have hSorted := List.pairwise_mergeSort hTrans hTotal scenario.steps
  refine ⟨⟨hPerm, fun atMs => ?_⟩, hSorted.imp of_decide_eq_true⟩
  -- the steps of one instant are in order as they stand, so sorting keeps them as a sublist
  have hEven : (stepsAt atMs scenario.steps).Pairwise fun step later =>
      decide (step.atMs ≤ later.atMs) = true := by
    refine List.pairwise_of_forall_mem_list fun step hStep later hLater => ?_
    rw [(mem_stepsAt.mp hStep).2, (mem_stepsAt.mp hLater).2]
    exact decide_eq_true (Nat.le_refl _)
  have hKept : (stepsAt atMs scenario.steps).Sublist scenario.sortedSteps :=
    List.sublist_mergeSort hTrans hTotal hEven List.filter_sublist
  have hTies := hKept.filter (·.atMs = atMs)
  rw [stepsAt, List.filter_filter] at hTies
  simp only [Bool.and_self] at hTies
  exact (hTies.eq_of_length (hPerm.filter _).length_eq.symm).symm

theorem mem_iff_of_stepsAt_eq {steps other : List ScenarioStep}
    (ties : ∀ atMs, stepsAt atMs other = stepsAt atMs steps) (step : ScenarioStep) :
    step ∈ other ↔ step ∈ steps := by
  have hAt (list : List ScenarioStep) : step ∈ stepsAt step.atMs list ↔ step ∈ list := by
    rw [mem_stepsAt, and_iff_left rfl]
  rw [← hAt other, ties, hAt]

/-- Of steps in order of time, the first is not later than any other. -/
theorem first_le_of_mem {first step : ScenarioStep} {rest : List ScenarioStep}
    (hSorted : (first :: rest).Pairwise fun step later => step.atMs ≤ later.atMs)
    (hMem : step ∈ first :: rest) : first.atMs ≤ step.atMs := by
  rcases List.mem_cons.mp hMem with rfl | hLater
  · exact Nat.le_refl _
  · exact List.rel_of_pairwise_cons hSorted hLater

/-- Lists in order of time are equal if they agree at every instant. -/
theorem eq_of_stepsAt_eq {steps other : List ScenarioStep}
    (hSteps : steps.Pairwise fun step later => step.atMs ≤ later.atMs)
    (hOther : other.Pairwise fun step later => step.atMs ≤ later.atMs)
    (ties : ∀ atMs, stepsAt atMs other = stepsAt atMs steps) : other = steps := by
  have hMem := mem_iff_of_stepsAt_eq ties
  induction steps generalizing other with
  | nil =>
      refine List.eq_nil_iff_forall_not_mem.mpr fun step hOther => ?_
      exact List.not_mem_nil ((hMem step).mp hOther)
  | cons step rest ih =>
      cases other with
      | nil => exact absurd ((hMem step).mpr List.mem_cons_self) List.not_mem_nil
      | cons step' rest' =>
          -- each of the two first steps is among those of the other list
          have hTime : step'.atMs = step.atMs :=
            Nat.le_antisymm (first_le_of_mem hOther ((hMem step).mpr List.mem_cons_self))
              (first_le_of_mem hSteps ((hMem step').mp List.mem_cons_self))
          have hFirst := ties step.atMs
          rw [stepsAt_cons_of_eq _ hTime, stepsAt_cons_of_eq _ rfl] at hFirst
          obtain ⟨rfl, hRest⟩ := List.cons.inj hFirst
          have hTies (atMs : Nat) : stepsAt atMs rest' = stepsAt atMs rest := by
            by_cases hAt : step'.atMs = atMs
            · subst hAt
              exact hRest
            · have hSame := ties atMs
              rwa [stepsAt_cons_of_ne _ hAt, stepsAt_cons_of_ne _ hAt] at hSame
          rw [ih hSteps.of_cons hOther.of_cons hTies (mem_iff_of_stepsAt_eq hTies)]

theorem InOrder.unique {steps ordered other : List ScenarioStep} (h : InOrder steps ordered)
    (h' : InOrder steps other) : other = ordered :=
  eq_of_stepsAt_eq h.sorted h'.sorted fun atMs => (h'.ties atMs).trans (h.ties atMs).symm

/-- However a script is rearranged, its steps are put in the same order. -/
theorem Rearranges.sortedSteps_eq {scenario other : Scenario}
    (h : Rearranges scenario.steps other.steps) : other.sortedSteps = scenario.sortedSteps := by
  have hOther := inOrder_sortedSteps other
  refine (inOrder_sortedSteps scenario).unique ⟨⟨?_, fun atMs => ?_⟩, hOther.sorted⟩
  · exact hOther.perm.trans h.perm
  · rw [hOther.ties, h.ties]

/-! ## Steps on the display -/

theorem Time.ofMillis_le {first second : Nat} (h : first ≤ second) :
    Time.ofMillis first ≤ Time.ofMillis second :=
  Nat.mul_le_mul_right _ h

namespace Simulation

open World

/-- Everything up to `time` has happened, and the clock stands there. -/
structure Reaches (simulation : Simulation) (time : Nat) (reached : Simulation) : Prop where
  ends : ∃ played, Plays (fun _ => true) time simulation played ∧ reached = played.moveClock time
  clock : reached.now = time

def request (simulation : Simulation) (number : Nat) (step : ScenarioStep) :
    Simulation × Option Error :=
  let (callback, prepared) := simulation.newCallback s!"step-{number}"
  prepared.perform (step.event.operation callback)

def note (simulation : Simulation) (step : ScenarioStep) : Simulation :=
  { simulation with
    world := simulation.world.debug s!"t={step.atMs}ms applied {step.event.describe}" }

/-- How steps are applied, the first of them with a given number, and where this ends: each when
its time is reached, up to the first that is refused. -/
inductive Replays : Nat → Simulation → List ScenarioStep → Simulation → Option StepFailure → Prop
    where
  | done {number : Nat} {simulation : Simulation} : Replays number simulation [] simulation none
  | refused {number : Nat} {simulation reached last : Simulation} {step : ScenarioStep}
      {rest : List ScenarioStep} {error : Error}
      (reaches : simulation.Reaches (Time.ofMillis step.atMs) reached)
      (refusal : reached.request number step = (last, some error)) :
      Replays number simulation (step :: rest) last (some ⟨number, step.atMs, error⟩)
  | applied {number : Nat} {simulation reached applied last : Simulation} {step : ScenarioStep}
      {rest : List ScenarioStep} {failure : Option StepFailure}
      (reaches : simulation.Reaches (Time.ofMillis step.atMs) reached)
      (accepted : reached.request number step = (applied, none))
      (later : Replays (number + 1) (applied.note step) rest last failure) :
      Replays number simulation (step :: rest) last failure

variable {simulation : Simulation}

theorem applyStep_eq (simulation : Simulation) (number : Nat) (step : ScenarioStep) :
    simulation.applyStep number step =
      (simulation.advance (Time.ofMillis step.atMs - simulation.now)).map fun reached =>
        match reached.request number step with
        | (applied, some error) => (applied, some ⟨number, step.atMs, error⟩)
        | (applied, none) => (applied.note step, none) := by
  unfold applyStep
  cases simulation.advance (Time.ofMillis step.atMs - simulation.now) with
  | none => rfl
  | some reached =>
      rw [Option.map_some]
      show (match reached.request number step with
        | (applied, some error) => some (applied, some (StepFailure.mk number step.atMs error))
        | (applied, none) => some (applied.note step, none)) = some _
      obtain ⟨applied, _ | error⟩ := reached.request number step
      · rfl
      · rfl

theorem reached_of_applyStep {number : Nat} {step : ScenarioStep} {applied : Simulation}
    {failure : Option StepFailure}
    (h : simulation.applyStep number step = some (applied, failure)) : ∃ reached after error,
      simulation.advance (Time.ofMillis step.atMs - simulation.now) = some reached ∧
      reached.request number step = (after, error) ∧
      (applied, failure) = match error with
        | some error => (after, some ⟨number, step.atMs, error⟩)
        | none => (after.note step, none) := by
  rw [applyStep_eq] at h
  obtain ⟨reached, hReached, hApplied⟩ := Option.map_eq_some_iff.mp h
  generalize hRequest : reached.request number step = requested at hApplied
  obtain ⟨after, _ | error⟩ := requested
  · exact ⟨reached, after, none, hReached, hRequest, hApplied.symm⟩
  · exact ⟨reached, after, some error, hReached, hRequest, hApplied.symm⟩

theorem Reaches.steady {time : Nat} {reached : Simulation}
    (reaches : simulation.Reaches time reached) (h : simulation.world.agenda.Steady) :
    reached.world.agenda.Steady := by
  obtain ⟨⟨played, plays, rfl⟩, -⟩ := reaches
  exact steady_moveClock (plays.timely.leads.steady h) time

/-- A span that is played to its end reaches it. -/
theorem reaches_of_advance {time : Nat} {reached : Simulation}
    (h : simulation.world.agenda.Steady) (hNow : simulation.now ≤ time)
    (hReached : simulation.advance (time - simulation.now) = some reached) :
    simulation.Reaches time reached := by
  obtain ⟨played, plays, rfl⟩ := plays_advance h hReached
  rw [Nat.add_sub_cancel' hNow] at plays ⊢
  exact ⟨⟨played, plays, rfl⟩, Nat.max_eq_right (plays.now_le_limit h hNow)⟩

theorem steady_request {number : Nat} {step : ScenarioStep} {after : Simulation}
    {error : Option Error} (h : simulation.world.agenda.Steady)
    (requested : simulation.request number step = (after, error)) :
    after.world.agenda.Steady ∧ after.now = simulation.now := by
  have attempt (operation : Operation) : Attempt simulation.world (.request operation)
      (operation.run simulation.world).world := by
    cases hError : (operation.run simulation.world).error with
    | none => exact .step (.request hError)
    | some error => exact .refused hError
  obtain ⟨rfl, -⟩ := perform_eq requested
  exact ⟨(attempt _).steady h, @now_run simulation.world _ h⟩

/-- Steps in order of time are applied when their times are reached. -/
theorem replays_applySteps {steps : List ScenarioStep} {number : Nat} {last : Simulation}
    {failure : Option StepFailure} (h : simulation.world.agenda.Steady)
    (hSorted : steps.Pairwise fun step later => step.atMs ≤ later.atMs)
    (hNow : ∀ step ∈ steps, simulation.now ≤ Time.ofMillis step.atMs)
    (hSteps : simulation.applySteps number steps = some (last, failure)) :
    Replays number simulation steps last failure := by
  induction steps generalizing simulation number with
  | nil =>
      obtain ⟨rfl, rfl⟩ := Prod.mk.inj (Option.some.inj hSteps)
      exact .done
  | cons step rest ih =>
      rw [applySteps] at hSteps
      obtain ⟨⟨applied, stepFailure⟩, hApply, hRest⟩ := Option.bind_eq_some_iff.mp hSteps
      obtain ⟨reached, after, error, hAdvance, hRequest, hApplied⟩ := reached_of_applyStep hApply
      have reaches := reaches_of_advance h (hNow step List.mem_cons_self) hAdvance
      cases error with
      | some error =>
          obtain ⟨rfl, rfl⟩ := Prod.mk.inj hApplied
          obtain ⟨rfl, rfl⟩ := Prod.mk.inj (Option.some.inj hRest)
          exact .refused reaches hRequest
      | none =>
          obtain ⟨rfl, rfl⟩ := Prod.mk.inj hApplied
          obtain ⟨hAfter, hClock⟩ := steady_request (reaches.steady h) hRequest
          refine .applied reaches hRequest (ih hAfter hSorted.of_cons ?_ hRest)
          -- the clock stands at the time of this step, and the later ones are not before it
          intro later hLater
          show after.now ≤ _
          rw [hClock, reaches.clock]
          exact Time.ofMillis_le (List.rel_of_pairwise_cons hSorted hLater)

theorem Replays.steady {number : Nat} {steps : List ScenarioStep} {last : Simulation}
    {failure : Option StepFailure} (replays : Replays number simulation steps last failure)
    (h : simulation.world.agenda.Steady) : last.world.agenda.Steady := by
  induction replays with
  | done => exact h
  | refused reaches refusal => exact (steady_request (reaches.steady h) refusal).1
  | applied reaches accepted later ih => exact ih (steady_request (reaches.steady h) accepted).1

/-- A refused step ends the replay after all earlier steps were applied. -/
theorem Replays.exists_refused {number : Nat} {steps : List ScenarioStep} {last : Simulation}
    {failure : StepFailure} (replays : Replays number simulation steps last (some failure)) :
    ∃ earlier step later before reached error, steps = earlier ++ step :: later ∧
      Replays number simulation earlier before none ∧
      before.Reaches (Time.ofMillis step.atMs) reached ∧
      reached.request (number + earlier.length) step = (last, some error) ∧
      failure = ⟨number + earlier.length, step.atMs, error⟩ := by
  generalize hFailure : some failure = outcome at replays
  induction replays with
  | done => cases hFailure
  | @refused number simulation reached last step rest error reaches refusal =>
      obtain rfl := Option.some.inj hFailure
      exact ⟨[], step, rest, simulation, reached, error, rfl, .done, reaches, refusal, rfl⟩
  | @applied number simulation reached applied last step rest outcome reaches accepted later ih =>
      obtain ⟨earlier, step', later, before, reached', error, hRest, hEarlier, reaches', refusal,
        hStep⟩ := ih hFailure
      have hNumber : number + 1 + earlier.length = number + (step :: earlier).length :=
        Nat.succ_add_eq_add_succ number earlier.length
      rw [hNumber] at refusal hStep
      exact ⟨step :: earlier, step', later, before, reached', error, congrArg (step :: ·) hRest,
        .applied reaches accepted hEarlier, reaches', refusal, hStep⟩

/-! ## Scripts on the display -/

/-- A script is replayed to its end: its steps are applied in order, and then time passes until all
is settled. -/
inductive Settles (simulation : Simulation) (scenario : Scenario) : Simulation → Prop where
  | intro {ordered : List ScenarioStep} {applied last : Simulation}
      (order : InOrder scenario.steps ordered) (replays : Replays 1 simulation ordered applied none)
      (settles : applied.Reaches (applied.now + Time.ofMillis scenario.settleMs) last) :
      Settles simulation scenario last

/-- The replay of a script stops at a step, which is refused when all earlier ones are applied. -/
inductive StopsAt (simulation : Simulation) (scenario : Scenario) (step : ScenarioStep) :
    StepFailure → Simulation → Prop where
  | intro {earlier later : List ScenarioStep} {before reached last : Simulation} {error : Error}
      (order : InOrder scenario.steps (earlier ++ step :: later))
      (replays : Replays 1 simulation earlier before none)
      (reaches : before.Reaches (Time.ofMillis step.atMs) reached)
      (refusal : reached.request (earlier.length + 1) step = (last, some error)) :
      StopsAt simulation scenario step ⟨earlier.length + 1, step.atMs, error⟩ last

inductive Replayed (simulation : Simulation) (scenario : Scenario) :
    Simulation × Option StepFailure → Prop where
  | settled {last : Simulation} (settles : simulation.Settles scenario last) :
      Replayed simulation scenario (last, none)
  | stopped {step : ScenarioStep} {failure : StepFailure} {last : Simulation}
      (stops : simulation.StopsAt scenario step failure last) :
      Replayed simulation scenario (last, some failure)

variable {settings : Settings} {options : SimulationOptions}

theorem now_create (h : create settings options = .ok simulation) : simulation.now = 0 :=
  (updated_create h).edited.now_eq

/-- What a replay answers on a fresh simulation. -/
theorem replayed_replay (hCreate : create settings options = .ok simulation)
    {scenario : Scenario} {result : Simulation × Option StepFailure}
    (hReplay : simulation.replay scenario = some result) :
    Replayed simulation scenario result := by
  have hSteady := (driven_create hCreate).steady
  have order := inOrder_sortedSteps scenario
  unfold replay at hReplay
  obtain ⟨⟨applied, failure⟩, hSteps, hRest⟩ := Option.bind_eq_some_iff.mp hReplay
  have hNow (step : ScenarioStep) (_ : step ∈ scenario.sortedSteps) :
      simulation.now ≤ Time.ofMillis step.atMs := by
    rw [now_create hCreate]
    exact Nat.zero_le _
  have replays := replays_applySteps hSteady order.sorted hNow hSteps
  cases failure with
  | some failure =>
      obtain rfl := Option.some.inj hRest
      obtain ⟨earlier, step, later, before, reached, error, hSplit, hEarlier, reaches, refusal,
        rfl⟩ := replays.exists_refused
      rw [hSplit] at order
      rw [Nat.add_comm] at refusal ⊢
      exact .stopped (.intro order hEarlier reaches refusal)
  | none =>
      obtain ⟨last, hSettled, hLast⟩ := Option.bind_eq_some_iff.mp hRest
      obtain rfl := Option.some.inj hLast
      have hSpan : applied.now + Time.ofMillis scenario.settleMs - applied.now =
          Time.ofMillis scenario.settleMs := Nat.add_sub_cancel_left ..
      rw [← hSpan] at hSettled
      have settles := reaches_of_advance (replays.steady hSteady) (Nat.le_add_right _ _) hSettled
      exact .settled (.intro order replays settles)

/-! ## Replays come to an end -/

theorem Paced.request (h : simulation.Paced) {number : Nat} {step : ScenarioStep}
    {after : Simulation} {error : Option Error}
    (requested : simulation.request number step = (after, error)) : after.Paced := by
  have hPrepared : (simulation.newCallback s!"step-{number}").2.Paced := { h with }
  obtain rfl : (simulation.request number step).1 = after := by rw [requested]
  exact hPrepared.perform _

theorem Paced.note (h : simulation.Paced) (step : ScenarioStep) : (simulation.note step).Paced :=
  { h with prompt := ⟨h.prompt.steady, h.prompt.punctual⟩ }

theorem Paced.exists_applySteps (h : simulation.Paced) (number : Nat)
    (steps : List ScenarioStep) : ∃ last failure,
      simulation.applySteps number steps = some (last, failure) ∧ last.Paced := by
  induction steps generalizing simulation number with
  | nil => exact ⟨simulation, none, rfl, h⟩
  | cons step rest ih =>
      obtain ⟨reached, hAdvance, hPaced⟩ :=
        h.exists_advance (Time.ofMillis step.atMs - simulation.now)
      rw [applySteps, applyStep_eq, hAdvance, Option.map_some]
      cases hRequest : reached.request number step with
      | mk after error =>
          have hAfter := hPaced.request hRequest
          cases error with
          | some error => exact ⟨after, _, rfl, hAfter⟩
          | none => exact ih (hAfter.note step) (number + 1)

theorem Paced.exists_replay (h : simulation.Paced) (scenario : Scenario) :
    ∃ result, simulation.replay scenario = some result := by
  obtain ⟨applied, failure, hSteps, hPaced⟩ := h.exists_applySteps 1 scenario.sortedSteps
  cases failure with
  | some failure => exact ⟨_, Option.bind_eq_some_iff.mpr ⟨_, hSteps, rfl⟩⟩
  | none =>
      obtain ⟨settled, hSettled, -⟩ := hPaced.exists_advance (Time.ofMillis scenario.settleMs)
      refine ⟨(settled, none), Option.bind_eq_some_iff.mpr ⟨_, hSteps, ?_⟩⟩
      exact Option.bind_eq_some_iff.mpr ⟨settled, hSettled, rfl⟩

def lateSteps : List ScenarioStep :=
  [⟨40, .transition .keyguard⟩, ⟨40, .panelExpansion 0.125⟩, ⟨60, .panelExpansion (0 / 0)⟩,
    ⟨60, .screenOff⟩]

def earlyStep : ScenarioStep := ⟨10, .panelExpansion 0⟩

theorem inOrder_earlyStep : InOrder (lateSteps ++ [earlyStep]) (earlyStep :: lateSteps) where
  perm := (List.perm_append_singleton _ _).symm
  ties atMs := by
    by_cases h : earlyStep.atMs = atMs
    · subst h
      rfl
    · rw [stepsAt_cons_of_ne _ h, stepsAt, stepsAt, List.filter_append,
        List.filter_cons_of_neg (by simpa using h), List.filter_nil, List.append_nil]
  sorted := by decide

/-- A replay that stops ends with its last applied step. -/
theorem replay_of_refused {scenario : Scenario} {ordered : List ScenarioStep} {last : Simulation}
    {failure : StepFailure} (order : InOrder scenario.steps ordered)
    (refused : simulation.applySteps 1 ordered = some (last, some failure)) :
    simulation.replay scenario = some (last, some failure) := by
  unfold replay
  rw [order.unique (inOrder_sortedSteps scenario), refused]
  rfl

end Simulation

end Scrim
