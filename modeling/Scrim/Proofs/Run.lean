import Mathlib.Data.List.Basic
import Mathlib.Data.List.Induction
import Scrim.Proofs.FrameClock

/-!
# Runs

A world moves in *steps*: a caller's accepted request, the clock, or an event that the host
delivers once it is due. A `Run` is a sequence of steps with every world it passes through,
so a statement about all runs speaks of every boundary between two events, also of those
inside one call of the event loop.

The main statement is `Simulation.Reached.reachable`: whatever calls are made on a
simulation, its world is one that a run leads to. The event loop delivers at chosen instants
only, a run at any instant at which something is due, so runs allow more orders, not fewer.
-/

namespace Scrim

/-- What happens to a world at one moment of a run. -/
inductive Event where
  | request (operation : Operation)
  /-- Time passes. -/
  | clock (time : Nat)
  /-- The wallpaper alarm goes off. -/
  | alarm
  | host (event : HostEvent)

namespace World

/-- One event and the world after it. Requests are accepted ones, and the host delivers a
task or the alarm once it is due, a frame once it is requested, and the notice of a frame to
a listener. -/
inductive Step : World → Event → World → Prop where
  | request {world : World} {operation : Operation}
      (accepted : (operation.run world).error = none) :
      Step world (.request operation) (operation.run world).world
  | clock (world : World) (time : Nat) :
      Step world (.clock time)
        { world with host.scheduler := world.host.scheduler.advanceTo time }
  | alarm {world : World} (due : world.host.alarm.isDue world.now = true) :
      Step world .alarm { world with host.alarm := world.host.alarm.cancel }.hideWallpaper
  | task {world : World} {task : Task} {scheduler : Scheduler}
      (due : world.host.scheduler.popDue = some (task, scheduler)) :
      Step world (.host (.task task)) ({ world with host.scheduler := scheduler }.runTask task)
  | animationFrame {world : World} (requested : world.host.scheduler.frameRequested = true) :
      Step world (.host .animationFrame)
        { world with host.scheduler := world.host.scheduler.takeFrameRequest.2 }.animationFrame
  | preDraw {world : World} (listening : world.host.surfaces.behind.preDrawListener = true) :
      Step world (.host .preDraw) world.preDraw

/-- An event of a run with the worlds around it. -/
structure Moment where
  before : World
  event : Event
  after : World

/-- Of a sequence with one more moment, those before it and the moment itself. -/
theorem forall_mem_snoc {Good : Moment → Prop} {moments : List Moment} {moment : Moment} :
    (∀ other ∈ moments ++ [moment], Good other) ↔
      (∀ other ∈ moments, Good other) ∧ Good moment := by
  rw [List.forall_mem_append, List.forall_mem_singleton]

/-- The moments that lead from one world to another. -/
inductive Run (start : World) : List Moment → World → Prop where
  | nil : Run start [] start
  | snoc {moments : List Moment} {before after : World} {event : Event}
      (run : Run start moments before) (step : Step before event after) :
      Run start (moments ++ [⟨before, event, after⟩]) after

theorem Run.append {start middle last : World} {moments more : List Moment}
    (first : Run start moments middle) (second : Run middle more last) :
    Run start (moments ++ more) last := by
  induction second with
  | nil => simpa using first
  | snoc _ step ih =>
      rw [← List.append_assoc]
      exact ih.snoc step

theorem Run.step {start last : World} {moments : List Moment} (run : Run start moments last) :
    ∀ moment ∈ moments, Step moment.before moment.event moment.after := by
  induction run with
  | nil => simp
  | snoc _ step ih => exact forall_mem_snoc.mpr ⟨ih, step⟩

/-- The last moment of a run leads to its last world. -/
theorem Run.unsnoc {start last : World} {moments : List Moment} {moment : Moment}
    (run : Run start (moments ++ [moment]) last) :
    Run start moments moment.before ∧ Step moment.before moment.event moment.after ∧
      moment.after = last := by
  generalize hMoments : moments ++ [moment] = all at run
  cases run with
  | nil => simp at hMoments
  | snoc run step =>
      obtain ⟨rfl, hMoment⟩ := List.append_inj' hMoments rfl
      obtain rfl := List.singleton_inj.mp hMoment
      exact ⟨run, step, rfl⟩

/-- A run up to one of its moments, the moment, and the run after it. -/
theorem Run.split {start last : World} {earlier later : List Moment} {moment : Moment}
    (run : Run start (earlier ++ moment :: later) last) :
    Run start earlier moment.before ∧ Step moment.before moment.event moment.after ∧
      Run moment.after later last := by
  induction later using List.reverseRecOn generalizing last with
  | nil =>
      obtain ⟨hEarlier, step, rfl⟩ := run.unsnoc
      exact ⟨hEarlier, step, .nil⟩
  | append_singleton later newest ih =>
      rw [← List.cons_append, ← List.append_assoc] at run
      obtain ⟨hBefore, hNewest, rfl⟩ := run.unsnoc
      obtain ⟨hEarlier, step, hLater⟩ := ih hBefore
      exact ⟨hEarlier, step, hLater.snoc hNewest⟩

/-- What a step keeps if its moment is a good one is kept by every run of good moments. -/
theorem Run.invariant_while (Inv : World → Prop) (Good : Moment → Prop)
    (kept : ∀ before event after, Inv before → Step before event after →
      Good ⟨before, event, after⟩ → Inv after)
    {start last : World} {moments : List Moment} (run : Run start moments last) (h : Inv start)
    (good : ∀ moment ∈ moments, Good moment) :
    Inv last ∧ ∀ moment ∈ moments, Inv moment.after := by
  induction run with
  | nil => exact ⟨h, by simp⟩
  | @snoc earlier before after event run step ih =>
      obtain ⟨hEarlier, hLast⟩ := forall_mem_snoc.mp good
      obtain ⟨hBefore, hMoments⟩ := ih hEarlier
      have hAfter := kept before event after hBefore step hLast
      exact ⟨hAfter, forall_mem_snoc.mpr ⟨hMoments, hAfter⟩⟩

theorem Run.invariant (Inv : World → Prop)
    (kept : ∀ before event after, Inv before → Step before event after → Inv after)
    {start last : World} {moments : List Moment} (run : Run start moments last)
    (h : Inv start) : Inv last :=
  (run.invariant_while Inv (fun _ => True) (fun _ _ _ h step _ => kept _ _ _ h step) h
    fun _ _ => trivial).1

/-- What every step keeps holds before every moment of a run. -/
theorem Run.invariant_before (Inv : World → Prop)
    (kept : ∀ before event after, Inv before → Step before event after → Inv after)
    {start last : World} {moments : List Moment} (run : Run start moments last)
    (h : Inv start) : ∀ moment ∈ moments, Inv moment.before := by
  induction run with
  | nil => simp
  | snoc run _ ih => exact forall_mem_snoc.mpr ⟨ih, run.invariant Inv kept h⟩

/-- Some run of good moments leads from one world to the other. -/
def LeadsBy (Good : Moment → Prop) (start last : World) : Prop :=
  ∃ moments, Run start moments last ∧ ∀ moment ∈ moments, Good moment

namespace LeadsBy

variable {Good : Moment → Prop}

theorem refl (world : World) : LeadsBy Good world world := ⟨[], .nil, by simp⟩

theorem step {start before after : World} {event : Event} (h : LeadsBy Good start before)
    (step : Step before event after) (good : Good ⟨before, event, after⟩) :
    LeadsBy Good start after := by
  obtain ⟨moments, run, hGood⟩ := h
  exact ⟨_, run.snoc step, forall_mem_snoc.mpr ⟨hGood, good⟩⟩

theorem trans {start middle last : World} (h : LeadsBy Good start middle)
    (h' : LeadsBy Good middle last) : LeadsBy Good start last := by
  obtain ⟨moments, run, hGood⟩ := h
  obtain ⟨more, run', hGood'⟩ := h'
  exact ⟨_, run.append run', List.forall_mem_append.mpr ⟨hGood, hGood'⟩⟩

theorem mono {Fine : Moment → Prop} {start last : World} (h : LeadsBy Good start last)
    (fine : ∀ moment, Good moment → Fine moment) : LeadsBy Fine start last := by
  obtain ⟨moments, run, hGood⟩ := h
  exact ⟨moments, run, fun moment hMem => fine moment (hGood moment hMem)⟩

end LeadsBy

def Leads (start last : World) : Prop :=
  ∃ moments, Run start moments last

theorem LeadsBy.leads {Good : Moment → Prop} {start last : World}
    (h : LeadsBy Good start last) : Leads start last := by
  obtain ⟨moments, run, -⟩ := h
  exact ⟨moments, run⟩

theorem Leads.refl (world : World) : Leads world world := ⟨[], .nil⟩

theorem Leads.step {start before after : World} {event : Event} (h : Leads start before)
    (step : Step before event after) : Leads start after := by
  obtain ⟨moments, run⟩ := h
  exact ⟨_, run.snoc step⟩

theorem Leads.trans {start middle last : World} (h : Leads start middle)
    (h' : Leads middle last) : Leads start last := by
  obtain ⟨moments, run⟩ := h
  obtain ⟨more, run'⟩ := h'
  exact ⟨_, run.append run'⟩

/-- The clock stands still at a moment. -/
def Moment.Instant (moment : Moment) : Prop :=
  ∀ time, moment.event ≠ .clock time

/-- Nobody asks for what happens. -/
def Moment.Unasked (moment : Moment) : Prop :=
  ∀ operation, moment.event ≠ .request operation

/-- The host delivers something: nobody asks for it, and the clock stands still. -/
def Moment.Handed (moment : Moment) : Prop :=
  moment.Instant ∧ ∀ operation, moment.event ≠ .request operation

theorem Moment.handed_host {before after : World} {event : HostEvent} :
    Moment.Handed ⟨before, .host event, after⟩ :=
  ⟨fun _ => nofun, fun _ => nofun⟩

theorem LeadsBy.instant {start last : World} (h : LeadsBy Moment.Handed start last) :
    LeadsBy Moment.Instant start last :=
  h.mono fun _ handed => handed.1

/-- The worlds that a run leads to from a fresh simulation. -/
def Reachable (settings : Settings) (options : SimulationOptions) (world : World) : Prop :=
  ∃ simulation, Simulation.create settings options = .ok simulation ∧
    Leads simulation.world world

/-- What a fresh simulation has and every step keeps holds in every reachable world. -/
theorem Reachable.invariant {settings : Settings} {options : SimulationOptions}
    (Inv : World → Prop)
    (created : ∀ simulation, Simulation.create settings options = .ok simulation →
      Inv simulation.world)
    (kept : ∀ before event after, Inv before → Step before event after → Inv after)
    {world : World} (h : Reachable settings options world) : Inv world := by
  obtain ⟨simulation, hCreate, moments, run⟩ := h
  exact run.invariant Inv kept (created simulation hCreate)

/-! ## Computing a run -/

/-- The world after an event, if the event can happen here. -/
def undergo (world : World) : Event → Option World
  | .request operation =>
    let outcome := operation.run world
    if outcome.error.isNone then some outcome.world else none
  | .clock time => some { world with host.scheduler := world.host.scheduler.advanceTo time }
  | .alarm =>
    if world.host.alarm.isDue world.now then
      some { world with host.alarm := world.host.alarm.cancel }.hideWallpaper
    else none
  | .host (.task task) =>
    world.host.scheduler.popDue.bind fun (first, scheduler) =>
      if first = task then some ({ world with host.scheduler := scheduler }.runTask task)
      else none
  | .host .animationFrame =>
    let (requested, scheduler) := world.host.scheduler.takeFrameRequest
    if requested then some { world with host.scheduler := scheduler }.animationFrame else none
  | .host .preDraw =>
    if world.host.surfaces.behind.preDrawListener then some world.preDraw else none

/-- A step can be computed: an event leads to one world only. -/
theorem step_iff_undergo {world after : World} {event : Event} :
    Step world event after ↔ world.undergo event = some after := by
  constructor
  · intro step
    cases step with
    | request accepted => exact if_pos (Option.isNone_iff_eq_none.mpr accepted)
    | clock => rfl
    | alarm due => exact if_pos due
    | task due => exact (congrArg (Option.bind · _) due).trans (if_pos rfl)
    | animationFrame requested => exact if_pos requested
    | preDraw listening => exact if_pos listening
  · intro h
    cases event with
    | request operation =>
        obtain ⟨accepted, h⟩ := Option.ite_none_right_eq_some.mp h
        obtain rfl := Option.some.inj h
        exact .request (Option.isNone_iff_eq_none.mp accepted)
    | clock time =>
        obtain rfl := Option.some.inj h
        exact .clock world time
    | alarm =>
        obtain ⟨due, h⟩ := Option.ite_none_right_eq_some.mp h
        obtain rfl := Option.some.inj h
        exact .alarm due
    | host event =>
        cases event with
        | preDraw =>
            obtain ⟨listening, h⟩ := Option.ite_none_right_eq_some.mp h
            obtain rfl := Option.some.inj h
            exact .preDraw listening
        | animationFrame =>
            obtain ⟨requested, h⟩ := Option.ite_none_right_eq_some.mp h
            obtain rfl := Option.some.inj h
            exact .animationFrame requested
        | task task =>
            obtain ⟨⟨first, scheduler⟩, due, h⟩ := Option.bind_eq_some_iff.mp h
            obtain ⟨rfl, h⟩ := Option.ite_none_right_eq_some.mp h
            obtain rfl := Option.some.inj h
            exact .task due

/-- The moments of these events and the world they lead to, if each can happen in its turn. -/
def follow (world : World) : List Event → Option (List Moment × World)
  | [] => some ([], world)
  | event :: rest =>
    (world.undergo event).bind fun after =>
      (after.follow rest).map fun (moments, last) => (⟨world, event, after⟩ :: moments, last)

theorem run_follow {world last : World} {events : List Event} {moments : List Moment}
    (h : world.follow events = some (moments, last)) : Run world moments last := by
  induction events generalizing world moments with
  | nil =>
      obtain ⟨rfl, rfl⟩ := Prod.mk.inj (Option.some.inj h)
      exact .nil
  | cons event rest ih =>
      obtain ⟨after, hStep, h⟩ := Option.bind_eq_some_iff.mp h
      obtain ⟨⟨later, other⟩, hRest, h⟩ := Option.map_eq_some_iff.mp h
      obtain ⟨rfl, rfl⟩ := Prod.mk.inj h
      exact (Run.nil.snoc (step_iff_undergo.mpr hStep)).append (ih hRest)

end World

/-! ## The event loop moves in steps -/

namespace Simulation

open World

theorem handed_runTasks (fuel : Nat) (world : World) :
    LeadsBy Moment.Handed world (runTasks fuel world) := by
  induction fuel generalizing world with
  | zero => exact .refl world
  | succ fuel ih =>
      rw [runTasks]
      split
      · exact .refl world
      · next task scheduler hPop =>
        exact ((LeadsBy.refl world).step (.task hPop) Moment.handed_host).trans (ih _)

theorem handed_fireAlarm (world : World) : LeadsBy Moment.Handed world (fireAlarm world) := by
  unfold fireAlarm Alarm.fireIfDue
  by_cases hDue : world.host.alarm.isDue world.now = true
  · simp only [hDue, if_true]
    exact (LeadsBy.refl world).step (.alarm hDue) ⟨fun _ => nofun, fun _ => nofun⟩
  · simp only [hDue, Bool.false_eq_true, if_false]
    exact .refl world

theorem handed_answerFrameRequest (world : World) :
    LeadsBy Moment.Handed world (answerFrameRequest world) := by
  unfold answerFrameRequest Scheduler.takeFrameRequest
  cases hRequest : world.host.scheduler.frameRequested with
  | false => exact .refl world
  | true => exact (LeadsBy.refl world).step (.animationFrame hRequest) Moment.handed_host

theorem handed_announceFrame (world : World) :
    LeadsBy Moment.Handed world (announceFrame world) := by
  unfold announceFrame
  split
  · exact (LeadsBy.refl world).step (.preDraw ‹_›) Moment.handed_host
  · exact .refl world

theorem handed_deliver (simulation : Simulation) :
    LeadsBy Moment.Handed simulation.world simulation.deliver.world :=
  (handed_runTasks _ _).trans (handed_fireAlarm _)

theorem handed_runFrame (simulation : Simulation) :
    LeadsBy Moment.Handed simulation.world simulation.runFrame.world :=
  (handed_answerFrameRequest _).trans (handed_announceFrame _)

/-- What is handled at an instant: the tasks and the alarm, and then a frame if one is due. -/
inductive Handles (simulation : Simulation) : Simulation → Prop where
  | delivered (later : simulation.deliver.needsFrame = true →
      simulation.deliver.now < simulation.deliver.frameTime) :
      Handles simulation simulation.deliver
  | drawn (owed : simulation.deliver.needsFrame = true)
      (due : simulation.deliver.frameTime ≤ simulation.deliver.now) :
      Handles simulation simulation.deliver.runFrame

theorem handles_of_processDue {simulation after : Simulation}
    (h : simulation.processDue = some after) : simulation.Handles after := by
  unfold processDue at h
  dsimp only at h
  split at h
  · next hOwed =>
    obtain ⟨frame, hFrame, rfl⟩ := Option.map_eq_some_iff.mp h
    obtain rfl := eq_frameTime hFrame
    split
    · exact .drawn hOwed ‹_›
    · exact .delivered fun _ => Nat.lt_of_not_le ‹_›
  · next hNone =>
    obtain rfl := Option.some.inj h
    exact .delivered fun hOwed => absurd hOwed hNone

/-- With an interval to go by, the frame clock does not break off. -/
theorem exists_processDue {simulation : Simulation} (h : ticks simulation.frameInterval ≠ 0) :
    ∃ after, simulation.processDue = some after := by
  have hFrame : simulation.deliver.nextFrameTime = some simulation.deliver.frameTime :=
    nextFrameTime_eq h
  unfold processDue
  dsimp only
  rw [hFrame]
  split
  · exact ⟨_, rfl⟩
  · exact ⟨_, rfl⟩

section Handles

variable {simulation after : Simulation}

theorem Handles.handed (h : simulation.Handles after) :
    LeadsBy Moment.Handed simulation.world after.world := by
  cases h with
  | delivered later => exact handed_deliver simulation
  | drawn owed due => exact (handed_deliver simulation).trans (handed_runFrame _)

theorem Handles.frameInterval_eq (h : simulation.Handles after) :
    after.frameInterval = simulation.frameInterval := by
  cases h with
  | delivered later => rfl
  | drawn owed due => rfl

theorem handed_processDue (h : simulation.processDue = some after) :
    LeadsBy Moment.Handed simulation.world after.world :=
  (handles_of_processDue h).handed

end Handles

theorem leads_moveClock (simulation : Simulation) (time : Nat) :
    Leads simulation.world (simulation.moveClock time).world :=
  (Leads.refl _).step (.clock _ time)

/-- A loop plays no round, or one round and then others. -/
theorem playWhile_cases {goesOn : Simulation → Bool} {limit rounds : Nat}
    {simulation last : Simulation} (h : playWhile goesOn limit rounds simulation = some last) :
    (last = simulation ∧ (goesOn simulation = true → ∃ event,
        simulation.nextEventTime = some event ∧ ∀ next, event = some next → limit < next)) ∨
      ∃ next after more, goesOn simulation = true ∧
        simulation.nextEventTime = some (some next) ∧ next ≤ limit ∧
        (simulation.moveClock next).processDue = some after ∧ rounds = more + 1 ∧
        playWhile goesOn limit more after = some last := by
  rw [playWhile] at h
  split at h
  · next hGoes =>
    split at h
    · cases h
    · next hNone =>
      obtain rfl := Option.some.inj h
      exact Or.inl ⟨rfl, fun _ => ⟨none, hNone, nofun⟩⟩
    · next next hNext =>
      split at h
      · next hBeyond =>
        obtain rfl := Option.some.inj h
        refine Or.inl ⟨rfl, fun _ => ⟨_, hNext, ?_⟩⟩
        rintro _ ⟨⟩
        exact hBeyond
      · next hWithin =>
        split at h
        · cases h
        · next more =>
          obtain ⟨after, hAfter, hRest⟩ := Option.bind_eq_some_iff.mp h
          exact Or.inr ⟨next, after, more, hGoes, hNext, Nat.le_of_not_lt hWithin, hAfter, rfl,
            hRest⟩
  · next hStops =>
    obtain rfl := Option.some.inj h
    exact Or.inl ⟨rfl, fun hGoes => absurd hGoes hStops⟩

theorem unasked_playWhile {goesOn : Simulation → Bool} {limit rounds : Nat}
    {simulation last : Simulation} (h : playWhile goesOn limit rounds simulation = some last) :
    LeadsBy Moment.Unasked simulation.world last.world := by
  induction rounds generalizing simulation with
  | zero =>
      rcases playWhile_cases h with ⟨rfl, -⟩ | ⟨_, _, _, -, -, -, -, hNone, -⟩
      · exact .refl _
      · cases hNone
  | succ rounds ih =>
      rcases playWhile_cases h with ⟨rfl, -⟩ | ⟨next, after, _, -, -, -, hAfter, ⟨⟩, hRest⟩
      · exact .refl _
      · have hMoved : LeadsBy Moment.Unasked simulation.world
            (simulation.moveClock next).world :=
          (LeadsBy.refl _).step (.clock _ next) fun _ => nofun
        have hHanded := (handed_processDue hAfter).mono fun _ handed => handed.2
        exact (hMoved.trans hHanded).trans (ih hRest)

theorem unasked_advance {simulation last : Simulation} {duration rounds : Nat}
    (h : simulation.advance duration rounds = some last) :
    LeadsBy Moment.Unasked simulation.world last.world := by
  obtain ⟨played, hPlayed, rfl⟩ := Option.map_eq_some_iff.mp h
  exact (unasked_playWhile hPlayed).step (.clock _ _) fun _ => nofun

/-! ## Calls -/

/-- What the owner of a simulation can do with it. Both loops are given a number of rounds. -/
inductive Call where
  | perform (operation : Operation)
  | advance (duration : Nat) (rounds : Nat := duration + 1)
  | runUntilIdle (duration : Nat) (rounds : Nat := duration + 1)

/-- Makes a call; only requests can be refused, and only loops may not come back. -/
def Call.run (call : Call) (simulation : Simulation) : Option (Simulation × Option Error) :=
  match call with
  | .perform operation => some (simulation.perform operation)
  | .advance duration rounds => (simulation.advance duration rounds).map (·, none)
  | .runUntilIdle duration rounds => (simulation.runUntilIdle duration rounds).map (·, none)

/-- The simulations that accepted calls lead to, in any order and with any arguments. -/
inductive Reached (settings : Settings) (options : SimulationOptions) : Simulation → Prop where
  | created {simulation : Simulation} (h : create settings options = .ok simulation) :
      Reached settings options simulation
  | called {simulation next : Simulation} {call : Call} (h : Reached settings options simulation)
      (accepted : call.run simulation = some (next, none)) : Reached settings options next

/-- A call that comes back makes a request, or plays rounds and may move the clock then. -/
theorem call_cases {simulation next : Simulation} {call : Call} {error : Option Error}
    (made : call.run simulation = some (next, error)) :
    (∃ operation, simulation.perform operation = (next, error)) ∨
    (∃ duration rounds, simulation.advance duration rounds = some next ∧ error = none) ∨
    ∃ duration rounds, simulation.runUntilIdle duration rounds = some next ∧ error = none := by
  cases call with
  | perform operation => exact Or.inl ⟨operation, Option.some.inj made⟩
  | advance duration rounds =>
      obtain ⟨last, hPlayed, hLast⟩ := Option.map_eq_some_iff.mp made
      obtain ⟨rfl, rfl⟩ := Prod.mk.inj hLast
      exact Or.inr (Or.inl ⟨duration, rounds, hPlayed, rfl⟩)
  | runUntilIdle duration rounds =>
      obtain ⟨last, hPlayed, hLast⟩ := Option.map_eq_some_iff.mp made
      obtain ⟨rfl, rfl⟩ := Prod.mk.inj hLast
      exact Or.inr (Or.inr ⟨duration, rounds, hPlayed, rfl⟩)

/-- Of a request that is made, the world and the error are those of the operation. -/
theorem perform_eq {simulation next : Simulation} {operation : Operation} {error : Option Error}
    (made : simulation.perform operation = (next, error)) :
    next = { simulation with world := (operation.run simulation.world).world } ∧
      error = (operation.run simulation.world).error := by
  obtain ⟨hNext, hError⟩ := Prod.mk.inj made
  exact ⟨hNext.symm, hError.symm⟩

theorem leads_call {simulation next : Simulation} {call : Call}
    (accepted : call.run simulation = some (next, none)) :
    Leads simulation.world next.world := by
  rcases call_cases accepted with ⟨operation, hMade⟩ | ⟨_, _, hMade, -⟩ | ⟨_, _, hMade, -⟩
  · obtain ⟨rfl, hError⟩ := perform_eq hMade
    exact (Leads.refl _).step (.request hError.symm)
  · exact (unasked_advance hMade).leads
  · exact (unasked_playWhile hMade).leads

/-- Every simulation that calls lead to holds a reachable world. -/
theorem Reached.reachable {settings : Settings} {options : SimulationOptions}
    {simulation : Simulation} (h : Reached settings options simulation) :
    Reachable settings options simulation.world := by
  induction h with
  | created h => exact ⟨_, h, .refl _⟩
  | called _ accepted ih =>
      obtain ⟨first, hCreate, leads⟩ := ih
      exact ⟨first, hCreate, leads.trans (leads_call accepted)⟩

/-! ## Playing calls -/

def callAll : List Call → Simulation → Option Simulation
  | [], simulation => some simulation
  | call :: rest, simulation =>
    match call.run simulation with
    | some (next, none) => callAll rest next
    | _ => none

theorem callAll_perform {simulation last : Simulation} {operation : Operation}
    {rest : List Call} (played : callAll (.perform operation :: rest) simulation = some last) :
    (operation.run simulation.world).error = none ∧
    callAll rest { simulation with world := (operation.run simulation.world).world } =
      some last := by
  simp only [callAll, Call.run, perform] at played
  cases hError : (operation.run simulation.world).error with
  | none => exact ⟨rfl, by simpa only [hError] using played⟩
  | some error =>
      rw [hError] at played
      cases played

theorem callAll_append (calls more : List Call) (simulation : Simulation) :
    callAll (calls ++ more) simulation = (callAll calls simulation).bind (callAll more) := by
  induction calls generalizing simulation with
  | nil => rfl
  | cons call rest ih =>
      rw [List.cons_append, callAll, callAll]
      split
      · exact ih _
      · rfl

def play (settings : Settings) (options : SimulationOptions) (calls : List Call) :
    Option Simulation :=
  (create settings options).toOption.bind (callAll calls)

theorem Reached.callAll {settings : Settings} {options : SimulationOptions}
    {simulation last : Simulation} {calls : List Call} (h : Reached settings options simulation)
    (played : callAll calls simulation = some last) : Reached settings options last := by
  induction calls generalizing simulation with
  | nil =>
      obtain rfl := Option.some.inj played
      exact h
  | cons call rest ih =>
      rw [Simulation.callAll] at played
      split at played
      · next accepted => exact ih (h.called accepted) played
      · cases played

theorem play_append (settings : Settings) (options : SimulationOptions) (calls more : List Call) :
    play settings options (calls ++ more) =
      (play settings options calls).bind (callAll more) := by
  unfold play
  rw [Option.bind_assoc]
  exact congrArg _ (funext (callAll_append calls more))

/-- Calls may be followed by one more request that is accepted. -/
theorem exists_play_perform {settings : Settings} {options : SimulationOptions} {calls : List Call}
    {simulation : Simulation} {operation : Operation}
    (played : play settings options calls = some simulation)
    (accepted : (operation.run simulation.world).error = none) : ∃ last : Simulation,
    play settings options (calls ++ [.perform operation]) = some last ∧
      last.world = (operation.run simulation.world).world := by
  refine ⟨{ simulation with world := (operation.run simulation.world).world }, ?_, rfl⟩
  rw [play_append, played]
  simp [callAll, Call.run, perform, accepted]

theorem create_of_toOption {settings : Settings} {options : SimulationOptions}
    {first : Simulation} (h : (create settings options).toOption = some first) :
    create settings options = .ok first := by
  cases hCreate : create settings options with
  | error error =>
      rw [hCreate] at h
      cases h
  | ok created =>
      rw [hCreate] at h
      exact congrArg Except.ok (Option.some.inj h)

theorem exists_of_any_create {settings : Settings} {options : SimulationOptions}
    {good : Simulation → Bool} (h : (create settings options).toOption.any good = true) :
    ∃ first, create settings options = .ok first ∧ good first = true := by
  obtain ⟨first, hSome, hGood⟩ := (Option.any_eq_true _ _).mp h
  exact ⟨first, create_of_toOption hSome, hGood⟩

theorem reached_play {settings : Settings} {options : SimulationOptions} {calls : List Call}
    {last : Simulation} (played : play settings options calls = some last) :
    Reached settings options last := by
  obtain ⟨simulation, hCreated, hCalls⟩ := Option.bind_eq_some_iff.mp played
  exact (Reached.created (create_of_toOption hCreated)).callAll hCalls

end Simulation

end Scrim
