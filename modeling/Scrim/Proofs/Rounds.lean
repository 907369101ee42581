import Mathlib.Data.List.ReduceOption
import Scrim.Proofs.Timely

/-!
# The rounds of the event loop

A round moves the clock to the next event and handles all that is due there: the tasks, the alarm
and a frame. `Simulation.Plays` says what rounds come to one after the other, whatever their number.
A loop that comes back has played such rounds (`Simulation.plays_of_playWhile`), and the clock
passes no task by (`Simulation.Reached.timely`).

If frames are some time apart, every round leaves later events only (`Simulation.Round.quietTo`), so
a span is played in as many rounds as it has instants (`Simulation.exists_playWhile`). A display
that draws frames without end at one instant never gets to the next, and no number of rounds is
enough.
-/

namespace Scrim

/-- An armed alarm that is not due goes off later. -/
theorem Alarm.lt_of_isDue_false {alarm : Alarm} {now deadline : Nat}
    (h : alarm.isDue now = false) (armed : alarm.deadline = some deadline) : now < deadline := by
  simp only [isDue, armed, decide_eq_false_iff_not] at h
  exact Nat.lt_of_not_le h

namespace Simulation

open World

/-! ## All that is due -/

section Round

variable {world : World}

/-- Given fuel for every task that is due, running tasks leaves none of them. -/
theorem dueCount_runTasks (fuel : Nat) (h : world.agenda.Steady)
    (hFuel : world.host.scheduler.dueCount ≤ fuel) :
    (runTasks fuel world).host.scheduler.dueCount = 0 := by
  induction fuel generalizing world with
  | zero => exact Nat.le_zero.mp hFuel
  | succ fuel ih =>
      rw [runTasks]
      split
      · next hPop => exact Scheduler.dueCount_eq_zero_iff.mpr (Scheduler.popDue_eq_none_iff.mp hPop)
      · next task rest hPop =>
        have hStep := Step.task hPop
        have hRest : ({ world with host.scheduler := rest }.runTask task).host.scheduler.dueCount =
            rest.dueCount :=
          dueCount_runTask { world with host.scheduler := rest } h.attached task
        have hTaken := Scheduler.dueCount_of_popDue hPop
        -- the task posts none that is due at once, so one less is left
        apply ih (hStep.steady h)
        omega

/-- No task is due, and neither is the alarm. -/
structure Handled (world : World) : Prop where
  tasks : world.host.scheduler.dueCount = 0
  alarm : world.host.alarm.isDue world.now = false

theorem handled_fireAlarm (h : world.agenda.Steady) (hTasks : world.host.scheduler.dueCount = 0) :
    Handled (fireAlarm world) := by
  have hNow := (handed_fireAlarm world).instant.now_eq h
  constructor
  · rw [← hTasks]
    unfold fireAlarm
    split
    · rfl
    · exact dueCount_hideWallpaper { world with host.alarm := _ } h.listens
  · rw [hNow]
    unfold fireAlarm Alarm.fireIfDue
    cases hDue : world.host.alarm.isDue world.now with
    | true =>
        simp only [if_true]
        rw [alarm_hideWallpaper]
        rfl
    | false => simpa using hDue

/-- Running the tasks and the alarm leaves none of them due. -/
theorem handled_delivered (h : world.agenda.Steady) : Handled (fireAlarm (runDueTasks world)) :=
  handled_fireAlarm ((handed_runTasks _ _).leads.steady h)
    (dueCount_runTasks _ h List.countP_le_length)

theorem Handled.answerFrameRequest (hHandled : Handled world) (h : world.agenda.Steady) :
    Handled (answerFrameRequest world) := by
  have hNow := (handed_answerFrameRequest world).instant.now_eq h
  unfold Simulation.answerFrameRequest at hNow ⊢
  split
  · exact hHandled
  · next scheduler hRequest =>
    rw [hRequest] at hNow
    dsimp only at hNow
    obtain ⟨-, rfl⟩ := Prod.mk.inj hRequest
    constructor
    · exact (dueCount_animationFrame { world with
        host.scheduler := world.host.scheduler.takeFrameRequest.2 } h.covered).trans
        hHandled.tasks
    · rw [alarm_animationFrame, hNow]
      exact hHandled.alarm

theorem Handled.announceFrame (hHandled : Handled world) (h : world.agenda.Steady) :
    Handled (announceFrame world) := by
  have hNow := (handed_announceFrame world).instant.now_eq h
  unfold Simulation.announceFrame at hNow ⊢
  split
  · next hListens =>
    rw [if_pos hListens] at hNow
    constructor
    · exact (dueCount_preDraw world h.attached).trans hHandled.tasks
    · rw [alarm_preDraw, hNow]
      exact hHandled.alarm
  · exact hHandled

end Round

variable {simulation : Simulation}

/-! ## The next event -/

/-- The instants of an owed frame, of the first task and of the alarm. -/
inductive Awaits (simulation : Simulation) : Nat → Prop where
  | frame (owed : simulation.needsFrame = true) : Awaits simulation simulation.frameTime
  | task {due : Nat} (first : simulation.world.host.scheduler.nextDue = some due) :
      Awaits simulation due
  | alarm {deadline : Nat} (armed : simulation.world.host.alarm.deadline = some deadline) :
      Awaits simulation deadline

/-- The first instant that is awaited, if there is one. -/
def firstAwaited (simulation : Simulation) : Option Nat :=
  [if simulation.needsFrame then some simulation.frameTime else none,
    simulation.world.host.scheduler.nextDue,
    simulation.world.host.alarm.deadline].reduceOption.min?

theorem mem_awaited {time : Nat} :
    time ∈ [if simulation.needsFrame then some simulation.frameTime else none,
      simulation.world.host.scheduler.nextDue,
      simulation.world.host.alarm.deadline].reduceOption ↔ simulation.Awaits time := by
  rw [List.reduceOption_mem_iff]
  simp only [List.mem_cons, List.not_mem_nil, or_false]
  constructor
  · rintro (hFrame | hDue | hAlarm)
    · split at hFrame
      · next hOwed =>
        obtain rfl := Option.some.inj hFrame
        exact .frame hOwed
      · cases hFrame
    · exact .task hDue.symm
    · exact .alarm hAlarm.symm
  · intro h
    cases h with
    | frame owed => exact Or.inl (if_pos owed).symm
    | task first => exact Or.inr (Or.inl first.symm)
    | alarm armed => exact Or.inr (Or.inr armed.symm)

theorem firstAwaited_eq_some_iff {next : Nat} : simulation.firstAwaited = some next ↔
    simulation.Awaits next ∧ ∀ time, simulation.Awaits time → next ≤ time := by
  unfold firstAwaited
  rw [List.min?_eq_some_iff]
  simp only [mem_awaited]

theorem firstAwaited_eq_none_iff :
    simulation.firstAwaited = none ↔ ∀ time, ¬simulation.Awaits time := by
  unfold firstAwaited
  rw [List.min?_eq_none_iff, List.eq_nil_iff_forall_not_mem]
  simp only [mem_awaited]

/-- With an interval to go by, the next event is the first one awaited. -/
theorem nextEventTime_eq (h : ticks simulation.frameInterval ≠ 0) :
    simulation.nextEventTime = some simulation.firstAwaited := by
  unfold nextEventTime firstAwaited
  rw [nextFrameTime_eq h]
  split
  · rfl
  · rfl

/-- If the clock does not break off, the next event is the first one awaited. -/
theorem eq_firstAwaited {event : Option Nat} (h : simulation.nextEventTime = some event) :
    event = simulation.firstAwaited := by
  by_cases hNone : ticks simulation.frameInterval = 0
  · have hNever : simulation.nextFrameTime = none := if_pos hNone
    unfold nextEventTime at h
    unfold firstAwaited
    rw [hNever] at h
    split at h
    · cases h
    · next hFree =>
      rw [if_neg hFree]
      exact (Option.some.inj h).symm
  · exact Option.some.inj (h.symm.trans (nextEventTime_eq hNone))

theorem first_of_nextEventTime {next : Nat} (h : simulation.nextEventTime = some (some next)) :
    simulation.Awaits next ∧ ∀ time, simulation.Awaits time → next ≤ time :=
  firstAwaited_eq_some_iff.mp (eq_firstAwaited h).symm

/-- Nothing is due by `time`. -/
def QuietTo (simulation : Simulation) (time : Nat) : Prop :=
  ∀ event, simulation.Awaits event → time < event

theorem quietTo_iff {time : Nat} :
    simulation.QuietTo time ↔ ∀ next, simulation.firstAwaited = some next → time < next := by
  constructor
  · intro h next hNext
    exact h next (firstAwaited_eq_some_iff.mp hNext).1
  · intro h event hAwaits
    cases hNext : simulation.firstAwaited with
    | none => exact absurd hAwaits (firstAwaited_eq_none_iff.mp hNext event)
    | some next =>
        exact Nat.lt_of_lt_of_le (h next hNext) ((firstAwaited_eq_some_iff.mp hNext).2 _ hAwaits)

theorem le_due_of_awaits {time : Nat}
    (h : ∀ event, simulation.Awaits event → time ≤ event) :
    ∀ posted ∈ simulation.world.host.scheduler.queue, time ≤ posted.due := by
  intro posted hMem
  have hQueued : posted.due ∈ simulation.world.host.scheduler.queue.map (·.due) :=
    List.mem_map_of_mem hMem
  cases hFirst : simulation.world.host.scheduler.nextDue with
  | none =>
      rw [List.min?_eq_none_iff.mp hFirst] at hQueued
      exact absurd hQueued List.not_mem_nil
  | some first =>
      exact Nat.le_trans (h first (.task hFirst)) ((List.min?_eq_some_iff.mp hFirst).2 _ hQueued)

theorem nextEventTime_le {next : Nat} (h : simulation.nextEventTime = some (some next)) :
    ∀ posted ∈ simulation.world.host.scheduler.queue, next ≤ posted.due :=
  le_due_of_awaits (first_of_nextEventTime h).2

theorem QuietTo.lt_due {time : Nat} (h : simulation.QuietTo time) :
    ∀ posted ∈ simulation.world.host.scheduler.queue, time < posted.due :=
  le_due_of_awaits h

/-! ## Rounds -/

theorem Handled.quietTo (h : Handled simulation.world)
    (frame : simulation.needsFrame = true → simulation.now < simulation.frameTime) :
    simulation.QuietTo simulation.now := by
  intro event hAwaits
  cases hAwaits with
  | frame owed => exact frame owed
  | task first =>
      obtain ⟨head, hHead, rfl⟩ := List.mem_map.mp (List.min?_eq_some_iff.mp first).1
      exact Scheduler.dueCount_eq_zero_iff.mp h.tasks head hHead
  | alarm armed => exact Alarm.lt_of_isDue_false h.alarm armed

section Handles

variable {after : Simulation}

theorem Handles.steady (handles : simulation.Handles after) (h : simulation.world.agenda.Steady) :
    after.world.agenda.Steady :=
  handles.handed.leads.steady h

theorem Handles.now_eq (handles : simulation.Handles after)
    (h : simulation.world.agenda.Steady) : after.now = simulation.now :=
  handles.handed.instant.now_eq h

/-- After the tasks, the alarm and the frame that are due, all that is left to do is yet to come. -/
theorem Handles.quietTo (handles : simulation.Handles after) (h : simulation.world.agenda.Steady)
    (hInterval : 0 < simulation.frameInterval) : after.QuietTo after.now := by
  have hHandled : Handled simulation.deliver.world := handled_delivered h
  have hDelivered := (handed_deliver simulation).leads.steady h
  cases handles with
  | delivered later => exact hHandled.quietTo later
  | drawn owed due =>
      -- the frame is drawn at this instant, so the next one is due later
      have hNow := (handed_runFrame simulation.deliver).instant.now_eq hDelivered
      have hAnswered := (handed_answerFrameRequest simulation.deliver.world).leads
      have hApart : 0 < simulation.deliver.runFrame.frameInterval := hInterval
      refine Handled.quietTo ?_ fun _ => lt_frameTime hApart (congrArg some hNow.symm)
      exact (hHandled.answerFrameRequest hDelivered).announceFrame (hAnswered.steady hDelivered)

end Handles

/-- A round: the clock moves to the next event, and what is due there is handled. -/
structure Round (simulation : Simulation) (next : Nat) (after : Simulation) : Prop where
  event : simulation.nextEventTime = some (some next)
  handled : (simulation.moveClock next).processDue = some after

theorem exists_round {next : Nat} (h : ticks simulation.frameInterval ≠ 0)
    (hNext : simulation.nextEventTime = some (some next)) :
    ∃ after, simulation.Round next after := by
  have hMoved : ticks (simulation.moveClock next).frameInterval ≠ 0 := h
  obtain ⟨after, hAfter⟩ := exists_processDue hMoved
  exact ⟨after, hNext, hAfter⟩

theorem timely_moveClock {next : Nat} (hNext : simulation.nextEventTime = some (some next)) :
    LeadsBy Moment.Timely simulation.world (simulation.moveClock next).world := by
  refine (LeadsBy.refl _).step (.clock _ next) ?_
  intro time hTime posted hMem
  obtain rfl := Event.clock.inj hTime
  exact nextEventTime_le hNext posted hMem

theorem steady_moveClock (h : simulation.world.agenda.Steady) (time : Nat) :
    (simulation.moveClock time).world.agenda.Steady :=
  (leads_moveClock simulation time).steady h

namespace Round

variable {after : Simulation} {next : Nat}

theorem handles (round : simulation.Round next after) :
    (simulation.moveClock next).Handles after :=
  handles_of_processDue round.handled

/-- A round moves the clock to the next event, so it passes no task by. -/
theorem timely (round : simulation.Round next after) :
    LeadsBy Moment.Timely simulation.world after.world :=
  (timely_moveClock round.event).trans
    (round.handles.handed.mono fun _ handed => handed.1.timely)

theorem prompt (round : simulation.Round next after) (h : simulation.world.Prompt) :
    after.world.Prompt :=
  round.timely.prompt h

theorem steady (round : simulation.Round next after) (h : simulation.world.agenda.Steady) :
    after.world.agenda.Steady :=
  round.handles.steady (steady_moveClock h next)

theorem now_eq (round : simulation.Round next after) (h : simulation.world.agenda.Steady) :
    after.now = max simulation.now next :=
  round.handles.now_eq (steady_moveClock h next)

theorem frameInterval_eq (round : simulation.Round next after) :
    after.frameInterval = simulation.frameInterval :=
  round.handles.frameInterval_eq

theorem quietTo (round : simulation.Round next after) (h : simulation.world.agenda.Steady)
    (hInterval : 0 < simulation.frameInterval) : after.QuietTo after.now :=
  round.handles.quietTo (steady_moveClock h next) hInterval

/-- No round stops before all due tasks are run. -/
theorem drained (_ : simulation.Round next after) (h : simulation.world.agenda.Steady) :
    (runDueTasks (simulation.moveClock next).world).host.scheduler.popDue = none := by
  have hNone := dueCount_runTasks _ (steady_moveClock h next) List.countP_le_length
  exact Scheduler.popDue_eq_none_iff.mpr (Scheduler.dueCount_eq_zero_iff.mp hNone)

end Round

/-! ## Loops -/

/-- What rounds come to that are played up to `limit` while `goesOn` has them. None is cut short,
and there is no bound on their number. -/
inductive Plays (goesOn : Simulation → Bool) (limit : Nat) : Simulation → Simulation → Prop where
  | stopped {simulation : Simulation} (stops : goesOn simulation = false) :
      Plays goesOn limit simulation simulation
  | ended {simulation : Simulation} {event : Option Nat}
      (known : simulation.nextEventTime = some event) (quiet : simulation.QuietTo limit) :
      Plays goesOn limit simulation simulation
  | round {simulation after last : Simulation} {next : Nat} (goes : goesOn simulation = true)
      (within : next ≤ limit) (round : simulation.Round next after)
      (drained : (runDueTasks (simulation.moveClock next).world).host.scheduler.popDue = none)
      (rest : Plays goesOn limit after last) :
      Plays goesOn limit simulation last

section Loops

variable {goesOn : Simulation → Bool} {limit rounds : Nat} {last : Simulation}

theorem plays_of_still (h : goesOn simulation = true → ∃ event,
    simulation.nextEventTime = some event ∧ ∀ next, event = some next → limit < next) :
    Plays goesOn limit simulation simulation := by
  cases hGoes : goesOn simulation with
  | false => exact .stopped hGoes
  | true =>
      obtain ⟨event, hEvent, hBeyond⟩ := h hGoes
      obtain rfl := eq_firstAwaited hEvent
      exact .ended hEvent (quietTo_iff.mpr hBeyond)

/-- A loop that comes back has played rounds to their end. -/
theorem plays_of_playWhile (h : simulation.world.agenda.Steady)
    (played : playWhile goesOn limit rounds simulation = some last) :
    Plays goesOn limit simulation last := by
  induction rounds generalizing simulation with
  | zero =>
      rcases playWhile_cases played with ⟨rfl, hStill⟩ | ⟨_, _, _, -, -, -, -, hNone, -⟩
      · exact plays_of_still hStill
      · cases hNone
  | succ rounds ih =>
      rcases playWhile_cases played with
        ⟨rfl, hStill⟩ | ⟨next, after, _, hGoes, hNext, hWithin, hAfter, ⟨⟩, hRest⟩
      · exact plays_of_still hStill
      · have round : simulation.Round next after := ⟨hNext, hAfter⟩
        exact .round hGoes hWithin round (round.drained h) (ih (round.steady h) hRest)

theorem playWhile_round {after : Simulation} {next more : Nat} (goes : goesOn simulation = true)
    (within : next ≤ limit) (round : simulation.Round next after) :
    playWhile goesOn limit (more + 1) simulation = playWhile goesOn limit more after := by
  rw [playWhile, if_pos goes, round.event]
  dsimp only
  rw [if_neg (Nat.not_lt_of_le within), round.handled]
  rfl

/-- Unless it has come to its end, a loop has another round, if there is an interval to go by. -/
theorem still_or_round (goesOn : Simulation → Bool) (limit : Nat)
    (hTicks : ticks simulation.frameInterval ≠ 0) :
    (∀ rounds, playWhile goesOn limit rounds simulation = some simulation) ∨
      ∃ next after, goesOn simulation = true ∧ next ≤ limit ∧ simulation.Round next after := by
  cases hGoes : goesOn simulation with
  | false =>
      refine Or.inl fun rounds => ?_
      rw [playWhile, hGoes]
      rfl
  | true =>
      have hKnown := nextEventTime_eq hTicks
      cases hNext : simulation.firstAwaited with
      | none =>
          refine Or.inl fun rounds => ?_
          rw [playWhile, if_pos hGoes, hKnown, hNext]
      | some next =>
          rw [hNext] at hKnown
          by_cases hWithin : next ≤ limit
          · obtain ⟨after, round⟩ := exists_round hTicks hKnown
            exact Or.inr ⟨next, after, rfl, hWithin, round⟩
          · refine Or.inl fun rounds => ?_
            rw [playWhile, if_pos hGoes, hKnown]
            dsimp only
            rw [if_pos (Nat.lt_of_not_le hWithin)]

/-- If nothing is due at present, a round for every instant to come is enough. -/
theorem exists_of_quiet {span : Nat} (h : simulation.world.agenda.Steady)
    (hInterval : 0 < simulation.frameInterval) (hTicks : ticks simulation.frameInterval ≠ 0)
    (hQuiet : simulation.QuietTo simulation.now) (hSpan : limit ≤ simulation.now + span) :
    ∃ last, ∀ rounds, span ≤ rounds → playWhile goesOn limit rounds simulation = some last := by
  induction span generalizing simulation with
  | zero =>
      rcases still_or_round goesOn limit hTicks with hStill | ⟨next, after, -, hWithin, round⟩
      · exact ⟨simulation, fun rounds _ => hStill rounds⟩
      · have hLater := hQuiet next (first_of_nextEventTime round.event).1
        omega
  | succ span ih =>
      rcases still_or_round goesOn limit hTicks with hStill | ⟨next, after, hGoes, hWithin, round⟩
      · exact ⟨simulation, fun rounds _ => hStill rounds⟩
      · have hLater := hQuiet next (first_of_nextEventTime round.event).1
        have hNow := round.now_eq h
        -- the round has moved the clock, so less of the span is left
        obtain ⟨last, hRest⟩ := ih (round.steady h) (round.frameInterval_eq ▸ hInterval)
          (round.frameInterval_eq ▸ hTicks) (round.quietTo h hInterval) (by omega)
        refine ⟨last, fun rounds hRounds => ?_⟩
        obtain ⟨more, rfl⟩ := Nat.exists_eq_add_one_of_ne_zero (n := rounds) (by omega)
        rw [playWhile_round hGoes hWithin round]
        exact hRest more (by omega)

/-- A span takes a round for each of its instants, the first one included. -/
theorem exists_playWhile (goesOn : Simulation → Bool) (h : simulation.world.agenda.Steady)
    (hInterval : 0 < simulation.frameInterval) (hTicks : ticks simulation.frameInterval ≠ 0)
    (duration : Nat) : ∃ last, ∀ rounds, duration < rounds →
      playWhile goesOn (simulation.now + duration) rounds simulation = some last := by
  rcases still_or_round goesOn (simulation.now + duration) hTicks with
    hStill | ⟨next, after, hGoes, hWithin, round⟩
  · exact ⟨simulation, fun rounds _ => hStill rounds⟩
  · have hNow := round.now_eq h
    -- this round may leave the clock where it is, but after it nothing is due there
    obtain ⟨last, hRest⟩ := exists_of_quiet (round.steady h) (round.frameInterval_eq ▸ hInterval)
      (round.frameInterval_eq ▸ hTicks) (round.quietTo h hInterval)
      (show simulation.now + duration ≤ after.now + duration by omega)
    refine ⟨last, fun rounds hRounds => ?_⟩
    obtain ⟨more, rfl⟩ := Nat.exists_eq_add_one_of_ne_zero (n := rounds) (by omega)
    rw [playWhile_round hGoes hWithin round]
    exact hRest more (by omega)

end Loops

namespace Plays

variable {goesOn : Simulation → Bool} {limit : Nat} {last : Simulation}

theorem timely (plays : Plays goesOn limit simulation last) :
    LeadsBy Moment.Timely simulation.world last.world := by
  induction plays with
  | stopped stops => exact .refl _
  | ended known quiet => exact .refl _
  | round goes within round drained rest ih => exact round.timely.trans ih

theorem frameInterval_eq (plays : Plays goesOn limit simulation last) :
    last.frameInterval = simulation.frameInterval := by
  induction plays with
  | stopped stops => rfl
  | ended known quiet => rfl
  | round goes within round drained rest ih => exact ih.trans round.frameInterval_eq

/-- What is played to its end leaves nothing due by then. -/
theorem quietTo (plays : Plays (fun _ => true) limit simulation last) : last.QuietTo limit := by
  induction plays with
  | stopped stops => cases stops
  | ended known quiet => exact quiet
  | round goes within round drained rest ih => exact ih

end Plays

/-! ## Calls -/

section Calls

variable {last : Simulation} {duration rounds : Nat}

/-- `advance` plays a span to its end and moves the clock there. -/
theorem plays_advance (h : simulation.world.agenda.Steady)
    (played : simulation.advance duration rounds = some last) : ∃ middle,
      Plays (fun _ => true) (simulation.now + duration) simulation middle ∧
      last = middle.moveClock (simulation.now + duration) := by
  obtain ⟨middle, hPlayed, rfl⟩ := Option.map_eq_some_iff.mp played
  exact ⟨middle, plays_of_playWhile h hPlayed, rfl⟩

theorem exists_advance (h : simulation.world.agenda.Steady)
    (hInterval : 0 < simulation.frameInterval) (hTicks : ticks simulation.frameInterval ≠ 0)
    (duration : Nat) : ∃ last, ∀ rounds, duration < rounds →
      simulation.advance duration rounds = some last := by
  obtain ⟨middle, hPlayed⟩ := exists_playWhile (fun _ => true) h hInterval hTicks duration
  refine ⟨middle.moveClock (simulation.now + duration), fun rounds hRounds => ?_⟩
  exact Option.map_eq_some_iff.mpr ⟨middle, hPlayed rounds hRounds, rfl⟩

theorem exists_runUntilIdle (h : simulation.world.agenda.Steady)
    (hInterval : 0 < simulation.frameInterval) (hTicks : ticks simulation.frameInterval ≠ 0)
    (duration : Nat) : ∃ last, ∀ rounds, duration < rounds →
      simulation.runUntilIdle duration rounds = some last :=
  exists_playWhile _ h hInterval hTicks duration

/-- Once a span is played, moving the clock to its end passes no task by. -/
theorem timely_advance (h : simulation.world.agenda.Steady)
    (played : simulation.advance duration rounds = some last) :
    LeadsBy Moment.Timely simulation.world last.world := by
  obtain ⟨middle, plays, rfl⟩ := plays_advance h played
  refine plays.timely.step (.clock _ _) ?_
  intro time hTime posted hMem
  obtain rfl := Event.clock.inj hTime
  exact Nat.le_of_lt (plays.quietTo.lt_due posted hMem)

theorem timely_call {next : Simulation} {call : Call} (h : simulation.world.agenda.Steady)
    (accepted : call.run simulation = some (next, none)) :
    LeadsBy Moment.Timely simulation.world next.world := by
  rcases call_cases accepted with ⟨operation, hMade⟩ | ⟨_, _, hMade, -⟩ | ⟨_, _, hMade, -⟩
  · obtain ⟨rfl, hError⟩ := perform_eq hMade
    exact (LeadsBy.refl _).step (.request hError.symm) (by rintro _ ⟨⟩)
  · exact timely_advance h hMade
  · exact (plays_of_playWhile h hMade).timely

theorem frameInterval_call {next : Simulation} {call : Call} {error : Option Error}
    (h : simulation.world.agenda.Steady) (made : call.run simulation = some (next, error)) :
    next.frameInterval = simulation.frameInterval := by
  rcases call_cases made with ⟨operation, hMade⟩ | ⟨_, _, hMade, -⟩ | ⟨_, _, hMade, -⟩
  · obtain ⟨rfl, -⟩ := perform_eq hMade
    rfl
  · obtain ⟨middle, plays, rfl⟩ := plays_advance h hMade
    exact plays.frameInterval_eq
  · exact (plays_of_playWhile h hMade).frameInterval_eq

end Calls

/-- A fresh simulation has drawn no frame. -/
theorem eq_of_create {settings : Settings} {options : SimulationOptions}
    (h : create settings options = .ok simulation) :
    ∃ world, simulation = { world, frameInterval := options.frameInterval } := by
  unfold create at h
  split at h
  · cases h
  · exact ⟨_, (Except.ok.inj h).symm⟩

/-- Calls on a simulation make a run in which the clock passes no task by. -/
theorem Reached.timely {settings : Settings} {options : SimulationOptions}
    (h : Reached settings options simulation) :
    ∃ first, create settings options = .ok first ∧
      LeadsBy Moment.Timely first.world simulation.world := by
  induction h with
  | @created simulation hCreate => exact ⟨_, hCreate, .refl _⟩
  | called _ accepted ih =>
      obtain ⟨first, hCreate, leads⟩ := ih
      have hSteady := (leads.prompt (onTime_create hCreate).prompt).steady
      exact ⟨first, hCreate, leads.trans (timely_call hSteady accepted)⟩

end Simulation

end Scrim
