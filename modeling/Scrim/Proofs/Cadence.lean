import Mathlib.Order.Bounds.Basic
import Scrim.Proofs.Driven
import Scrim.Proofs.Pace

/-!
# The cadence of frames

Frames are drawn one after the other on multiples of the frame interval, each of them because it is
owed, and a frame that is owed is neither early nor late: it is drawn on the first multiple from now
on that comes after the last frame (`Simulation.keeps_cadence`). Beyond its range the frame clock
overflows, and frames are drawn at any time.

Two facts carry this. Whatever is delivered before a frame is drawn, the frame stays owed
(`World.Step.owesFrame`), and the clock, wherever it stops before the frame is due, does not move it
(`Simulation.Regular.frameTime_moveClock`).
-/

namespace Scrim

/-! ## Frames that are owed -/

/-- A frame was requested, or the notice of a frame is waited for. -/
def Agenda.owesFrame (agenda : Agenda) : Bool :=
  agenda.scheduler.frameRequested || agenda.listening

namespace Agenda

variable {agenda after : Agenda}

theorem Updated.owesFrame (update : agenda.Updated after) (h : agenda.owesFrame = true) :
    after.owesFrame = true := by
  cases update with
  | held pending => exact h
  | blanked idle blank => exact h
  | @moving running idle clear holders attached moves =>
      unfold Agenda.owesFrame placeAll
      rw [Bool.or_right_comm]
      exact Bool.or_eq_true_iff.mpr (Or.inl h)
  | settled idle clear => exact h

theorem Delivered.owesFrame {task : Task} (delivered : agenda.Delivered task after)
    (h : agenda.owesFrame = true) : after.owesFrame = true := by
  cases delivered with
  | stray commit reveal => exact h
  | committed phase delay => exact h
  | revealed phase update => exact update.owesFrame h

end Agenda

/-- Whether an event is neither a request nor a part of a frame. -/
def Event.backstage : Event → Bool
  | .clock _ => true
  | .alarm => true
  | .host (.task _) => true
  | _ => false

namespace World

theorem Step.owesFrame {before after : World} {event : Event} (step : Step before event after)
    (steady : before.agenda.Steady) (backstage : event.backstage = true)
    (h : before.agenda.owesFrame = true) : after.agenda.owesFrame = true := by
  have stepped := step.stepped_of_steady steady
  generalize after.agenda = agenda at stepped ⊢
  cases stepped with
  | requested other request => cases backstage
  | confirmed active => exact h
  | entered other entered => cases backstage
  | clock time => exact h
  | alarm =>
      split
      · exact Bool.or_true _
      · exact h
  | task due delivered =>
      refine delivered.owesFrame ?_
      unfold Agenda.owesFrame Agenda.onScheduler
      rw [Scheduler.frameRequested_of_popDue due]
      exact h
  | animationFrame framed => cases backstage
  | preDraw update => cases backstage

end World

namespace Simulation

open World

theorem owesFrame_runTasks {world : World} (fuel : Nat) (steady : world.agenda.Steady)
    (h : world.agenda.owesFrame = true) : (runTasks fuel world).agenda.owesFrame = true := by
  induction fuel generalizing world with
  | zero => exact h
  | succ fuel ih =>
      rw [runTasks]
      cases hPop : world.host.scheduler.popDue with
      | none => exact h
      | some taken =>
          obtain ⟨task, scheduler⟩ := taken
          have hFirst := Step.task hPop
          exact ih (hFirst.steady steady) (hFirst.owesFrame steady rfl h)

theorem owesFrame_fireAlarm {world : World} (steady : world.agenda.Steady)
    (h : world.agenda.owesFrame = true) : (fireAlarm world).agenda.owesFrame = true := by
  unfold fireAlarm Alarm.fireIfDue
  by_cases hDue : world.host.alarm.isDue world.now = true
  · simp only [hDue, if_true]
    exact (Step.alarm hDue).owesFrame steady rfl h
  · simp only [hDue, Bool.false_eq_true, if_false]
    exact h

/-! ## One round -/

/-- The frame of a round, as the simulation stands when it is about to be drawn. -/
def frame? (simulation : Simulation) : Option Simulation :=
  let delivered := simulation.deliver
  if delivered.needsFrame && delivered.nextFrameTime.any (· ≤ delivered.now) then some delivered
  else none

theorem eq_of_processDue {simulation after : Simulation} (h : simulation.processDue = some after) :
    after = (simulation.frame?.map runFrame).getD simulation.deliver := by
  unfold processDue at h
  unfold frame?
  dsimp only at h ⊢
  split at h
  · next hOwed =>
    obtain ⟨frame, hFrame, rfl⟩ := Option.map_eq_some_iff.mp h
    rw [hOwed, Bool.true_and, hFrame, Option.any_some]
    by_cases hDue : frame ≤ simulation.deliver.now
    · simp only [hDue, decide_true, if_true, Option.map_some, Option.getD_some]
    · simp only [hDue, decide_false, Bool.false_eq_true, if_false, Option.map_none,
        Option.getD_none]
  · next hFree =>
    obtain rfl := Option.some.inj h
    rw [Bool.of_not_eq_true hFree]
    rfl

/-- The first instant that is open to another frame. -/
def nextOpen (simulation : Simulation) : Nat :=
  simulation.lastFrame.elim 0 (· + 1)

variable {simulation last : Simulation}

theorem nextOpen_le_iff {time : Nat} : simulation.nextOpen ≤ time ↔
    ∀ last, simulation.lastFrame = some last → last < time := by
  unfold nextOpen
  cases simulation.lastFrame with
  | none => simp
  | some last =>
      constructor
      · rintro hOpen _ ⟨⟩
        exact hOpen
      · intro hLater
        exact hLater last rfl

theorem now_runFrame (h : simulation.world.agenda.Steady) :
    simulation.runFrame.now = simulation.now :=
  (handed_runFrame simulation).instant.now_eq h

section Deliver

variable (h : simulation.world.agenda.Steady)
include h

theorem now_deliver : simulation.deliver.now = simulation.now :=
  (handed_deliver simulation).instant.now_eq h

theorem frameTime_deliver : simulation.deliver.frameTime = simulation.frameTime :=
  frameTime_congr (now_deliver h) rfl rfl

theorem needsFrame_deliver (hOwed : simulation.needsFrame = true) :
    simulation.deliver.needsFrame = true := by
  have hTasks := handed_runTasks simulation.world.host.scheduler.queue.length simulation.world
  exact owesFrame_fireAlarm (hTasks.leads.steady h) (owesFrame_runTasks _ h hOwed)

/-- A frame is drawn in a round if it is owed when all else is handled, and is due. -/
theorem due_of_frame? {frame : Simulation} (hFrame : simulation.frame? = some frame) :
    simulation.deliver = frame ∧ frame.needsFrame = true ∧
      simulation.frameTime ≤ simulation.now := by
  unfold frame? at hFrame
  dsimp only at hFrame
  split at hFrame
  · next hDrawn =>
    obtain rfl := Option.some.inj hFrame
    obtain ⟨hOwed, hDue⟩ := Bool.and_eq_true_iff.mp hDrawn
    obtain ⟨time, hTime, hLe⟩ := (Option.any_eq_true _ _).mp hDue
    have hReached := of_decide_eq_true hLe
    rw [eq_frameTime hTime, frameTime_deliver h, now_deliver h] at hReached
    exact ⟨rfl, hOwed, hReached⟩
  · cases hFrame

end Deliver

/-! ## The frames of a run -/

def framesWhile (goesOn : Simulation → Bool) (limit rounds : Nat) (simulation : Simulation) :
    List Simulation :=
  if goesOn simulation then
    match simulation.nextEventTime with
    | some (some next) =>
      if limit < next then []
      else
        match rounds with
        | 0 => []
        | more + 1 =>
          let moved := simulation.moveClock next
          moved.frame?.toList ++ moved.processDue.elim [] (framesWhile goesOn limit more)
    | _ => []
  else []

/-- The frames that are drawn during a call, each as it is about to be drawn. -/
def Call.frames (call : Call) (simulation : Simulation) : List Simulation :=
  match call with
  | .perform _ => []
  | .advance duration rounds =>
    framesWhile (fun _ => true) (simulation.now + duration) rounds simulation
  | .runUntilIdle duration rounds =>
    framesWhile (fun s => !s.isIdle) (simulation.now + duration) rounds simulation

/-- The frames that are drawn during calls, refused ones among them. -/
def framesOf : List Call → Simulation → List Simulation
  | [], _ => []
  | call :: rest, simulation =>
    call.frames simulation ++ (call.run simulation).elim [] fun (next, _) => framesOf rest next

section Frames

variable {goesOn : Simulation → Bool} {limit more : Nat}

theorem framesWhile_round {after : Simulation} {next : Nat} (goes : goesOn simulation = true)
    (within : next ≤ limit) (round : simulation.Round next after) :
    framesWhile goesOn limit (more + 1) simulation =
      (simulation.moveClock next).frame?.toList ++ framesWhile goesOn limit more after := by
  rw [framesWhile, if_pos goes, round.event]
  dsimp only
  rw [if_neg (Nat.not_lt_of_le within), round.handled]
  rfl

theorem framesWhile_of_still {rounds : Nat} (h : goesOn simulation = true → ∃ event,
    simulation.nextEventTime = some event ∧ ∀ next, event = some next → limit < next) :
    framesWhile goesOn limit rounds simulation = [] := by
  rw [framesWhile]
  split
  · next hGoes =>
    obtain ⟨event, hEvent, hBeyond⟩ := h hGoes
    rw [hEvent]
    cases event with
    | none => rfl
    | some next => exact if_pos (hBeyond next rfl)
  · rfl

end Frames

structure Stretch (simulation : Simulation) (frames : List Simulation) (last : Simulation) :
    Prop where
  /-- The trace grows by what each frame shows. -/
  trace : last.trace = (frames.map fun frame => frame.runFrame.snapshot).reverse ++ simulation.trace
  /-- It takes no time to draw a frame. -/
  instant : ∀ frame ∈ frames, frame.runFrame.now = frame.now
  owed : ∀ frame ∈ frames, frame.needsFrame = true
  interval : last.frameInterval = simulation.frameInterval
  /-- Where the frame clock does not overflow. -/
  aligned : ∀ frame ∈ frames, frame.now + simulation.frameInterval < clockRange →
    simulation.frameInterval ∣ frame.now
  increasing : frames.Pairwise (·.now < ·.now)
  later : ∀ frame ∈ frames, simulation.nextOpen ≤ frame.now
  /-- With `later`, this puts the frames of one stretch before those of the next. -/
  nextOpen : ∀ time, last.nextOpen ≤ time ↔
    simulation.nextOpen ≤ time ∧ ∀ frame ∈ frames, frame.now < time

namespace Stretch

theorem nil (simulation : Simulation) : Stretch simulation [] simulation where
  trace := by simp
  instant := by simp
  owed := by simp
  interval := rfl
  aligned := by simp
  increasing := .nil
  later := by simp
  nextOpen := by simp

/-- What a world does between frames is no matter of the frames. -/
theorem onWorld {frames : List Simulation} (h : Stretch simulation frames last) (world : World) :
    Stretch simulation frames { last with world } :=
  ⟨h.trace, h.instant, h.owed, h.interval, h.aligned, h.increasing, h.later, h.nextOpen⟩

theorem trans {middle : Simulation} {frames more : List Simulation}
    (h : Stretch simulation frames middle) (h' : Stretch middle more last) :
    Stretch simulation (frames ++ more) last where
  trace := by simp [h'.trace, h.trace]
  instant := List.forall_mem_append.mpr ⟨h.instant, h'.instant⟩
  owed := List.forall_mem_append.mpr ⟨h.owed, h'.owed⟩
  interval := h'.interval.trans h.interval
  aligned := List.forall_mem_append.mpr ⟨h.aligned, h.interval ▸ h'.aligned⟩
  increasing := by
    refine List.pairwise_append.mpr ⟨h.increasing, h'.increasing, ?_⟩
    intro frame hFrame other hOther
    exact ((h.nextOpen _).mp (h'.later other hOther)).2 frame hFrame
  later := by
    refine List.forall_mem_append.mpr ⟨h.later, fun frame hFrame => ?_⟩
    exact ((h.nextOpen _).mp (h'.later frame hFrame)).1
  nextOpen := by
    intro time
    rw [h'.nextOpen, h.nextOpen, List.forall_mem_append, and_assoc]

end Stretch

/-- A round draws a frame at most, on a multiple of the interval that is open to it. -/
theorem stretch_processDue {after : Simulation} (hRegular : simulation.Regular)
    (h : simulation.world.agenda.Steady) (hAfter : simulation.processDue = some after) :
    Stretch simulation simulation.frame?.toList after := by
  rw [eq_of_processDue hAfter]
  cases hFrame : simulation.frame? with
  | none => exact (Stretch.nil simulation).onWorld _
  | some frame =>
      obtain ⟨hDelivered, hOwed, hDue⟩ := due_of_frame? h hFrame
      have hSteady := (handed_deliver simulation).leads.steady h
      have hNow : frame.now = simulation.now := hDelivered ▸ now_deliver h
      have hOpen := nextOpen_le_iff.mpr fun last hLast =>
        Nat.lt_of_lt_of_le (lt_frameTime hRegular.interval hLast) hDue
      have hLast : frame.runFrame.nextOpen = simulation.now + 1 := congrArg (· + 1) hNow
      constructor
      case trace =>
        show _ :: frame.trace = _ :: simulation.trace
        rw [← hDelivered]
        rfl
      case instant => simpa using now_runFrame (hDelivered ▸ hSteady)
      case owed => simpa using hOwed
      case interval => exact hDelivered ▸ rfl
      case aligned =>
        intro other hOther noOverflow
        obtain rfl := List.mem_singleton.mp hOther
        rw [hNow] at noOverflow ⊢
        obtain ⟨hAligned, hAhead, -⟩ := hRegular.frameTime_least noOverflow
        exact Nat.le_antisymm hDue hAhead ▸ hAligned
      case increasing => exact List.pairwise_singleton ..
      case later => simpa [hNow] using hOpen
      case nextOpen =>
        intro time
        show frame.runFrame.nextOpen ≤ time ↔ _
        simp only [hLast, Option.toList_some, List.mem_singleton, forall_eq, hNow]
        omega

section Calls

variable {goesOn : Simulation → Bool} {limit rounds : Nat}

theorem Paced.stretch_playWhile (h : simulation.Paced)
    (played : playWhile goesOn limit rounds simulation = some last) :
    Stretch simulation (framesWhile goesOn limit rounds simulation) last := by
  induction rounds generalizing simulation with
  | zero =>
      rcases playWhile_cases played with ⟨rfl, hStill⟩ | ⟨_, _, _, -, -, -, -, hNone, -⟩
      · rw [framesWhile_of_still hStill]
        exact .nil _
      · cases hNone
  | succ rounds ih =>
      rcases playWhile_cases played with
        ⟨rfl, hStill⟩ | ⟨next, after, _, hGoes, hNext, hWithin, hAfter, ⟨⟩, hRest⟩
      · rw [framesWhile_of_still hStill]
        exact .nil _
      · have round : simulation.Round next after := ⟨hNext, hAfter⟩
        have hMoved : Stretch simulation [] (simulation.moveClock next) :=
          (Stretch.nil simulation).onWorld _
        have hRound := stretch_processDue (h.moveClock next)
          (steady_moveClock h.prompt.steady next) hAfter
        rw [framesWhile_round hGoes hWithin round]
        exact (hMoved.trans hRound).trans (ih (round.paced h) hRest)

theorem Paced.stretch_call {call : Call} {error : Option Error} (h : simulation.Paced)
    (made : call.run simulation = some (last, error)) :
    Stretch simulation (call.frames simulation) last := by
  cases call with
  | perform operation =>
      obtain ⟨rfl, -⟩ := perform_eq (Option.some.inj made)
      exact (Stretch.nil simulation).onWorld _
  | advance duration rounds =>
      obtain ⟨moved, hAdvance, hLast⟩ := Option.map_eq_some_iff.mp made
      obtain ⟨played, hPlayed, rfl⟩ := Option.map_eq_some_iff.mp hAdvance
      obtain ⟨rfl, -⟩ := Prod.mk.inj hLast
      exact (h.stretch_playWhile hPlayed).onWorld _
  | runUntilIdle duration rounds =>
      obtain ⟨played, hPlayed, hLast⟩ := Option.map_eq_some_iff.mp made
      obtain ⟨rfl, -⟩ := Prod.mk.inj hLast
      exact h.stretch_playWhile hPlayed

theorem Paced.stretch_tryAll {calls : List Call} (h : simulation.Paced)
    (made : tryAll calls simulation = some last) :
    Stretch simulation (framesOf calls simulation) last := by
  induction calls generalizing simulation with
  | nil =>
      obtain rfl := Option.some.inj made
      exact .nil _
  | cons call rest ih =>
      obtain ⟨next, error, hCall, hRest⟩ := tryAll_cons made
      rw [framesOf, hCall]
      exact (h.stretch_call hCall).trans (ih (h.call hCall) hRest)

/-! ## The next frame -/

/-- The next event is not past, unless a frame is. -/
theorem Paced.now_le_nextEventTime (h : simulation.Paced)
    (hAhead : simulation.now ≤ simulation.frameTime) {next : Nat}
    (hNext : simulation.nextEventTime = some (some next)) : simulation.now ≤ next := by
  cases (first_of_nextEventTime hNext).1 with
  | frame owed => exact hAhead
  | task first =>
      obtain ⟨head, hHead, rfl⟩ := List.mem_map.mp (List.min?_eq_some_iff.mp first).1
      exact h.prompt.punctual head hHead
  | alarm armed => exact Nat.le_of_lt (Alarm.lt_of_isDue_false h.alarm armed)

/-- A round leaves an owed frame where it is, or draws it. -/
theorem Paced.owed_round {after : Simulation} {next : Nat} (h : simulation.Paced)
    (hRange : simulation.frameInterval < clockRange) (hOwed : simulation.needsFrame = true)
    (hAhead : simulation.now ≤ simulation.frameTime) (round : simulation.Round next after) :
    ((simulation.moveClock next).frame? = none ∧ after.needsFrame = true ∧
        after.frameTime = simulation.frameTime ∧ after.now ≤ after.frameTime) ∨
      ∃ frame, (simulation.moveClock next).frame? = some frame ∧
        frame.now = simulation.frameTime ∧ frame.now = next := by
  have hNow := h.now_le_nextEventTime hAhead round.event
  have hFirst := (first_of_nextEventTime round.event).2 _ (.frame hOwed)
  have hSteady := steady_moveClock h.prompt.steady next
  have hClock : (simulation.moveClock next).now = next := Nat.max_eq_right hNow
  have hSlot := h.frameTime_moveClock hRange hNow hFirst
  have hMovedOwed : (simulation.moveClock next).needsFrame = true := hOwed
  rw [eq_of_processDue round.handled]
  generalize simulation.moveClock next = moved at hSteady hClock hSlot hMovedOwed ⊢
  cases hFrame : moved.frame? with
  | none =>
      have hSame := (frameTime_deliver hSteady).trans hSlot
      refine Or.inl ⟨rfl, needsFrame_deliver hSteady hMovedOwed, hSame, ?_⟩
      show moved.deliver.now ≤ moved.deliver.frameTime
      rw [hSame, now_deliver hSteady, hClock]
      exact hFirst
  | some frame =>
      obtain ⟨rfl, -, hDue⟩ := due_of_frame? hSteady hFrame
      refine Or.inr ⟨_, rfl, ?_⟩
      rw [now_deliver hSteady, hClock]
      -- the clock was moved no further than to the frame, which is due there
      omega

/-- Rounds leave an owed frame where it is, or it is the first that they draw. -/
theorem Paced.owed_playWhile (h : simulation.Paced)
    (hRange : simulation.frameInterval < clockRange) (hOwed : simulation.needsFrame = true)
    (hAhead : simulation.now ≤ simulation.frameTime)
    (played : playWhile goesOn limit rounds simulation = some last) :
    (framesWhile goesOn limit rounds simulation = [] ∧ last.needsFrame = true ∧
        last.frameTime = simulation.frameTime) ∨
      ∃ frame rest, framesWhile goesOn limit rounds simulation = frame :: rest ∧
        frame.now = simulation.frameTime ∧ frame.now ≤ limit := by
  induction rounds generalizing simulation with
  | zero =>
      rcases playWhile_cases played with ⟨rfl, hStill⟩ | ⟨_, _, _, -, -, -, -, hNone, -⟩
      · exact Or.inl ⟨framesWhile_of_still hStill, hOwed, rfl⟩
      · cases hNone
  | succ rounds ih =>
      rcases playWhile_cases played with
        ⟨rfl, hStill⟩ | ⟨next, after, _, hGoes, hNext, hWithin, hAfter, ⟨⟩, hRest⟩
      · exact Or.inl ⟨framesWhile_of_still hStill, hOwed, rfl⟩
      · have round : simulation.Round next after := ⟨hNext, hAfter⟩
        rw [framesWhile_round hGoes hWithin round]
        rcases h.owed_round hRange hOwed hAhead round with
          ⟨hNone, hStill, hSame, hLater⟩ | ⟨frame, hFrame, hSlot, hAt⟩
        · rw [hNone, ← hSame]
          exact ih (round.paced h) (round.frameInterval_eq ▸ hRange) hStill hLater hRest
        · rw [hFrame]
          exact Or.inr ⟨frame, _, rfl, hSlot, by omega⟩

/-- A span draws an owed frame first, and does so if it lasts until the frame is due. -/
theorem Paced.frames_advance (h : simulation.Paced)
    (hRange : simulation.frameInterval < clockRange) (hOwed : simulation.needsFrame = true)
    (hAhead : simulation.now ≤ simulation.frameTime) {duration : Nat}
    (hRounds : duration < rounds) :
    if simulation.frameTime ≤ simulation.now + duration then
      ∃ frame rest, Call.frames (.advance duration rounds) simulation = frame :: rest ∧
        frame.now = simulation.frameTime
    else Call.frames (.advance duration rounds) simulation = [] := by
  have hSteady := h.prompt.steady
  obtain ⟨last, hPlayed⟩ := exists_playWhile (fun _ => true) hSteady h.interval h.ticks duration
  have plays := plays_of_playWhile hSteady (hPlayed rounds hRounds)
  rcases h.owed_playWhile hRange hOwed hAhead (hPlayed rounds hRounds) with
    ⟨hNone, hStill, hSame⟩ | ⟨frame, rest, hFrames, hSlot, hWithin⟩
  · -- what is played to its end leaves no frame due
    have hLater := plays.quietTo _ (.frame hStill)
    rw [if_neg (by omega)]
    exact hNone
  · rw [if_pos (by omega)]
    exact ⟨frame, rest, hFrames, hSlot⟩

end Calls

/-! ## The cadence -/

/-- What is known of the frames that calls draw. -/
structure KeepsCadence (first : Simulation) (calls : List Call) (last : Simulation) : Prop where
  /-- The trace has one entry for each frame, newest first. -/
  trace : last.trace = ((framesOf calls first).map fun frame => frame.runFrame.snapshot).reverse
  instant : ∀ frame ∈ framesOf calls first, frame.runFrame.now = frame.now
  increasing : (framesOf calls first).Pairwise (·.now < ·.now)
  aligned : ∀ frame ∈ framesOf calls first, first.frameInterval ∣ frame.now
  owed : ∀ frame ∈ framesOf calls first,
    frame.world.host.scheduler.frameRequested = true ∨
      frame.world.host.surfaces.behind.preDrawListener = true
  /-- A frame that is owed is drawn at the first multiple from now on after the last frame. -/
  next : last.needsFrame = true → ∃ slot,
    IsLeast {time | first.frameInterval ∣ time ∧ last.now ≤ time ∧
      ∀ frame ∈ framesOf calls first, frame.now < time} slot ∧
    ∀ duration rounds, duration < rounds →
      if slot ≤ last.now + duration then
        ∃ frame rest, Call.frames (.advance duration rounds) last = frame :: rest ∧
          frame.now = slot
      else Call.frames (.advance duration rounds) last = []

variable {settings : Settings} {options : SimulationOptions} {first : Simulation}

/-- Whatever calls are made, refused ones included, frames keep their cadence as long as the frame
clock does not overflow. -/
theorem keeps_cadence {calls : List Call} (hCreate : create settings options = .ok first)
    (hInterval : 0 < options.frameInterval) (made : tryAll calls first = some last)
    (noOverflow : last.now + options.frameInterval < clockRange) :
    first.KeepsCadence calls last := by
  have hTicks : ticks options.frameInterval ≠ 0 := ticks_ne_zero (by omega)
  have hTried := (Tried.created hCreate).tryAll made
  have hLast := hTried.paced hInterval hTicks
  have hStretch := (paced_create hCreate hInterval hTicks).stretch_tryAll made
  have hSame := hTried.frameInterval_eq
  -- no frame was drawn before the calls, and none after what the clock shows
  obtain ⟨world, rfl⟩ := eq_of_create hCreate
  have hTrace := hStretch.trace
  rw [List.append_nil] at hTrace
  have hPast : last.nextOpen ≤ last.now + 1 :=
    nextOpen_le_iff.mpr fun frame hFrame => Nat.lt_succ_of_le (hLast.past frame hFrame)
  have hFrames := ((hStretch.nextOpen _).mp hPast).2
  obtain ⟨hAligned, hAhead, hLeast⟩ := hLast.frameTime_least (hSame ▸ noOverflow)
  refine ⟨hTrace, hStretch.instant, hStretch.increasing, fun frame hFrame => ?_, ?_,
    fun hOwed => ?_⟩
  · have hNow := hFrames frame hFrame
    exact hStretch.aligned frame hFrame (show frame.now + options.frameInterval < _ by omega)
  · exact fun frame hFrame => Bool.or_eq_true_iff.mp (hStretch.owed frame hFrame)
  · refine ⟨last.frameTime, ⟨⟨hSame ▸ hAligned, hAhead, ?_⟩, ?_⟩, fun duration rounds hRounds => ?_⟩
    · have hOpen := nextOpen_le_iff.mpr fun frame hFrame => lt_frameTime hLast.interval hFrame
      exact ((hStretch.nextOpen _).mp hOpen).2
    · rintro time ⟨hMultiple, hNow, hAfter⟩
      have hOpen := (hStretch.nextOpen time).mpr ⟨Nat.zero_le _, hAfter⟩
      exact hLeast time (hSame.symm ▸ hMultiple) hNow (nextOpen_le_iff.mp hOpen)
    · exact hLast.frames_advance (hSame ▸ by omega) hOwed hAhead hRounds

def unevenSpan : List Call :=
  refusedPull ++ [.advance (Time.ofMillis 5)]

set_option maxRecDepth 100000 in
/-- One frame is drawn at once, and another one is owed. -/
theorem keeps_cadence_of_unevenSpan : ∃ first last,
    create {} {} = .ok first ∧ 0 < SimulationOptions.frameInterval {} ∧
    tryAll unevenSpan first = some last ∧
    last.now + SimulationOptions.frameInterval {} < clockRange ∧
    (framesOf unevenSpan first).map (·.now) = [0] ∧ last.needsFrame = true ∧
    first.KeepsCadence unevenSpan last := by
  have hPlayed : (create {} {}).toOption.any (fun first =>
      (tryAll unevenSpan first).any fun last =>
        (framesOf unevenSpan first).map (·.now) = [0] && last.needsFrame &&
          decide (last.now + SimulationOptions.frameInterval {} < clockRange)) = true := by
    decide +kernel
  obtain ⟨first, hCreate, hMade⟩ := exists_of_any_create hPlayed
  obtain ⟨last, hLast, hGood⟩ := (Option.any_eq_true _ _).mp hMade
  simp only [Bool.and_eq_true, decide_eq_true_eq] at hGood
  obtain ⟨⟨hFrames, hOwed⟩, hFits⟩ := hGood
  exact ⟨first, last, hCreate, by decide, hLast, hFits, hFrames, hOwed,
    keeps_cadence hCreate (by decide) hLast hFits⟩

end Simulation

end Scrim
