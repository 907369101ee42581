import Scrim.Proofs.Pace

/-!
# Splitting time

It leaves no trace how a stretch of time is cut into calls: two spans one after the other are one
long span, and waiting for idleness is a span of as long as it took
(`Simulation.Tried.splits_time`). Two facts carry this. Moving the clock between two events does not
move the next one (`Simulation.Regular.firstAwaited_moveClock`), if the interval of the frames fits
the frame clock, and where rounds start determines where they lead (`Simulation.Plays.unique`).
-/

namespace Scrim

namespace Simulation

variable {simulation last : Simulation} {goesOn : Simulation → Bool} {limit : Nat}

/-! ## The clock -/

theorem moveClock_now (simulation : Simulation) :
    simulation.moveClock simulation.now = simulation := by
  have hClock : simulation.world.host.scheduler.advanceTo simulation.now =
      simulation.world.host.scheduler :=
    congrArg (fun now => { simulation.world.host.scheduler with now }) (Nat.max_self _)
  unfold moveClock
  rw [hClock]

theorem moveClock_moveClock {first second : Nat} (h : first ≤ second) :
    (simulation.moveClock first).moveClock second = simulation.moveClock second := by
  have hClock : max (max simulation.now first) second = max simulation.now second := by
    rw [Nat.max_assoc, Nat.max_eq_right h]
  exact congrArg (fun now => { simulation with
    world.host.scheduler := { simulation.world.host.scheduler with now } }) hClock

/-- Moving the clock between two events does not move the next one. -/
theorem Regular.firstAwaited_moveClock (h : simulation.Regular)
    (hRange : simulation.frameInterval < clockRange) {time : Nat} (hNow : simulation.now ≤ time)
    (hQuiet : simulation.QuietTo time) :
    (simulation.moveClock time).firstAwaited = simulation.firstAwaited := by
  have hTime (event : Nat) (hAwaits : simulation.Awaits event) : time ≤ event :=
    Nat.le_of_lt (hQuiet event hAwaits)
  apply Option.ext
  intro next
  rw [firstAwaited_eq_some_iff, firstAwaited_eq_some_iff]
  simp only [h.awaits_moveClock hRange hNow hTime]

/-! ## What is played -/

theorem Round.unique {after other : Simulation} {next next' : Nat}
    (round : simulation.Round next after) (round' : simulation.Round next' other) :
    next = next' ∧ after = other := by
  obtain rfl := Option.some.inj (Option.some.inj (round.event.symm.trans round'.event))
  exact ⟨rfl, Option.some.inj (round.handled.symm.trans round'.handled)⟩

/-- Nothing is left for a round where all is quiet. -/
theorem Round.not_quiet {after : Simulation} {next : Nat} (round : simulation.Round next after)
    (within : next ≤ limit) : ¬simulation.QuietTo limit := fun quiet =>
  Nat.not_lt_of_le within (quiet next (first_of_nextEventTime round.event).1)

/-- Where rounds start determines where they lead. -/
theorem Plays.unique {other : Simulation} (plays : Plays goesOn limit simulation last)
    (plays' : Plays goesOn limit simulation other) : last = other := by
  -- a round excludes the two ways to stop, and both of these stay where they are
  induction plays with
  | stopped stops =>
      cases plays' with
      | stopped _ => rfl
      | ended _ _ => rfl
      | round goes _ _ _ _ => exact absurd (goes.symm.trans stops) Bool.true_eq_false.mp
  | ended _ quiet =>
      cases plays' with
      | stopped _ => rfl
      | ended _ _ => rfl
      | round _ within round _ _ => exact absurd quiet (round.not_quiet within)
  | round goes within round _ rest ih =>
      cases plays' with
      | stopped stops => exact absurd (goes.symm.trans stops) Bool.true_eq_false.mp
      | ended _ quiet => exact absurd quiet (round.not_quiet within)
      | round _ _ round' _ rest' =>
          obtain ⟨-, rfl⟩ := round.unique round'
          exact ih rest'

theorem exists_plays (h : simulation.Paced) (hNow : simulation.now ≤ limit) :
    ∃ last, Plays goesOn limit simulation last := by
  obtain ⟨last, hPlayed⟩ :=
    exists_playWhile goesOn h.prompt.steady h.interval h.ticks (limit - simulation.now)
  rw [Nat.add_sub_cancel' hNow] at hPlayed
  exact ⟨last, plays_of_playWhile h.prompt.steady (hPlayed _ (Nat.lt_succ_self _))⟩

/-- Rounds up to one limit may go on up to a later one. -/
theorem Plays.extend {later : Nat} {middle : Simulation}
    (first : Plays (fun _ => true) limit simulation middle) (h : limit ≤ later)
    (second : Plays (fun _ => true) later middle last) :
    Plays (fun _ => true) later simulation last := by
  induction first with
  | stopped stops => cases stops
  | ended known quiet => exact second
  | round goes within round drained rest ih =>
      exact .round goes (Nat.le_trans within h) round drained (ih second)

/-- Rounds lead to the same end if the clock is moved first, as long as nothing is due by then. -/
theorem Plays.of_moveClock (plays : Plays (fun _ => true) limit simulation last)
    (h : simulation.Regular) (hRange : simulation.frameInterval < clockRange) {time : Nat}
    (hNow : simulation.now ≤ time) (hQuiet : simulation.QuietTo time) (hTime : time ≤ limit) :
    ∃ moved, Plays (fun _ => true) limit (simulation.moveClock time) moved ∧
      moved.moveClock limit = last.moveClock limit := by
  have hNext := h.firstAwaited_moveClock hRange hNow hQuiet
  have hKnown := nextEventTime_eq (h.moveClock time).ticks
  cases plays with
  | stopped stops => cases stops
  | ended known quiet =>
      refine ⟨_, .ended hKnown (quietTo_iff.mpr ?_), moveClock_moveClock hTime⟩
      rw [hNext]
      exact quietTo_iff.mp quiet
  | @round _ after _ next goes within round drained rest =>
      -- the first round moves the clock to the next event in either case
      have hLater := hQuiet next (first_of_nextEventTime round.event).1
      have hMoved : (simulation.moveClock time).moveClock next = simulation.moveClock next :=
        moveClock_moveClock (Nat.le_of_lt hLater)
      rw [hNext, ← eq_firstAwaited round.event] at hKnown
      have round' : (simulation.moveClock time).Round next after := ⟨hKnown, hMoved ▸ round.handled⟩
      exact ⟨last, .round rfl within round' (hMoved ▸ drained) rest, rfl⟩

/-! ## Spans -/

theorem advance_eq_of_plays (h : simulation.Paced) {duration : Nat}
    (hLimit : simulation.now + duration = limit)
    (plays : Plays (fun _ => true) limit simulation last) :
    simulation.advance duration = some (last.moveClock limit) := by
  subst hLimit
  obtain ⟨whole, hWhole, -⟩ := h.exists_advance duration
  obtain ⟨played, plays', rfl⟩ := plays_advance h.prompt.steady hWhole
  rw [hWhole, plays'.unique plays]

/-- Two spans one after the other are one long span. -/
theorem Paced.advance_advance (h : simulation.Paced)
    (hRange : simulation.frameInterval < clockRange) (first second : Nat) : ∃ middle last,
    simulation.advance first = some middle ∧ middle.advance second = some last ∧
      simulation.advance (first + second) = some last := by
  have hSpan : simulation.now ≤ simulation.now + first := Nat.le_add_right _ _
  have hLonger : simulation.now + first ≤ simulation.now + first + second := Nat.le_add_right _ _
  obtain ⟨middle, hFirst, hEnd⟩ := h.exists_advance first
  obtain ⟨played, playsFirst, rfl⟩ := plays_advance h.prompt.steady hFirst
  obtain ⟨hClock, -⟩ := playsFirst.paced_end h hSpan
  have hPlayed := playsFirst.paced h
  have hPlayedNow := playsFirst.now_le_limit h.prompt.steady hSpan
  obtain ⟨last, playsRest⟩ := exists_plays hPlayed (Nat.le_trans hPlayedNow hLonger)
  -- the rounds after the first span, with and without its last move of the clock
  obtain ⟨moved, playsMoved, hMoved⟩ := playsRest.of_moveClock hPlayed.toRegular
    (playsFirst.frameInterval_eq ▸ hRange) hPlayedNow playsFirst.quietTo hLonger
  have hSecond := advance_eq_of_plays hEnd (congrArg (· + second) hClock) playsMoved
  have hWhole := advance_eq_of_plays h (Nat.add_assoc ..).symm
    (playsFirst.extend hLonger playsRest)
  exact ⟨_, _, hFirst, hSecond.trans (congrArg some hMoved), hWhole⟩

/-! ## Waiting for idleness -/

/-- Between calls nothing is due on an idle display: an alarm that is armed goes off later. -/
theorem Paced.quietTo_of_idle (h : simulation.Paced) (hIdle : simulation.isIdle = true) :
    simulation.QuietTo simulation.now := by
  obtain ⟨hNone, hDone⟩ := Bool.and_eq_true_iff.mp hIdle
  intro event hAwaits
  cases hAwaits with
  | frame owed => exact absurd owed (by simpa using hNone)
  | task first =>
      exact absurd (first.symm.trans (Option.isNone_iff_eq_none.mp hDone)) nofun
  | alarm armed => exact Alarm.lt_of_isDue_false h.alarm armed

/-- What is played until the display is idle is all that there is to play by that time. -/
theorem Plays.to_idle (plays : Plays (fun s => !s.isIdle) limit simulation last)
    (h : simulation.Paced) (hNow : simulation.now ≤ limit) :
    Plays (fun _ => true) last.now simulation last := by
  induction plays with
  | stopped stops =>
      exact .ended (nextEventTime_eq h.ticks) (h.quietTo_of_idle (by simpa using stops))
  | ended known quiet =>
      exact .ended known fun event hAwaits => Nat.lt_of_le_of_lt hNow (quiet event hAwaits)
  | @round simulation after last next goes within round drained rest ih =>
      have hRound := round.paced h
      have hClock := round.now_eq h.prompt.steady
      have hLast := rest.now_le hRound.prompt.steady
      -- the clock never goes back, so the round is within the time at which the rest ends
      refine .round rfl (by omega) round drained (ih hRound ?_)
      rw [hClock]
      exact Nat.max_le.mpr ⟨hNow, within⟩

theorem Paced.exists_runUntilIdle (h : simulation.Paced) (duration : Nat) : ∃ last,
    simulation.runUntilIdle duration = some last ∧
      simulation.advance (last.now - simulation.now) = some last := by
  have hSteady := h.prompt.steady
  obtain ⟨last, hLast⟩ := Simulation.exists_runUntilIdle hSteady h.interval h.ticks duration
  have hIdle := hLast _ (Nat.lt_succ_self duration)
  have plays := plays_of_playWhile hSteady hIdle
  have hSpan : simulation.now + (last.now - simulation.now) = last.now :=
    Nat.add_sub_cancel' (plays.now_le hSteady)
  have hAdvance := advance_eq_of_plays h hSpan (plays.to_idle h (Nat.le_add_right _ _))
  rw [moveClock_now] at hAdvance
  exact ⟨last, hIdle, hAdvance⟩

variable {settings : Settings} {options : SimulationOptions}

/-- Whatever calls were made before, a span may be split anywhere, and waiting for idleness is a
span of as long as it took, unless an interval overflows the frame clock. -/
theorem Tried.splits_time (h : Tried settings options simulation)
    (hInterval : 0 < options.frameInterval) (noOverflow : options.frameInterval < clockRange) :
    (∀ first second, ∃ middle last, simulation.advance first = some middle ∧
      middle.advance second = some last ∧ simulation.advance (first + second) = some last) ∧
    ∀ duration, ∃ last, simulation.runUntilIdle duration = some last ∧
      simulation.advance (last.now - simulation.now) = some last := by
  have hPaced := h.paced hInterval (ticks_ne_zero noOverflow)
  exact ⟨hPaced.advance_advance (h.frameInterval_eq ▸ noOverflow), hPaced.exists_runUntilIdle⟩

set_option maxRecDepth 100000 in
/-- The frame that a transition waits for may be due at the end of the first call or in the middle
of a longer one. -/
theorem splits_time_after_refusal : ∃ simulation middle last idle,
    Tried {} {} simulation ∧ 0 < SimulationOptions.frameInterval {} ∧
    SimulationOptions.frameInterval {} < clockRange ∧ simulation.needsFrame = true ∧
    simulation.advance (Time.ofMillis 16) = some middle ∧
    middle.advance (Time.ofMillis 5) = some last ∧
    simulation.advance (Time.ofMillis 16 + Time.ofMillis 5) = some last ∧
    simulation.runUntilIdle (Time.ofMillis 500) = some idle ∧
    simulation.advance (idle.now - simulation.now) = some idle := by
  have hPlayed : (create {} {}).toOption.any (fun first =>
      (tryAll refusedPull first).any (·.needsFrame)) = true := by
    decide +kernel
  obtain ⟨first, simulation, hCreate, hMade, hOwed⟩ := exists_tryAll hPlayed
  have hTried := (Tried.created hCreate).tryAll hMade
  obtain ⟨hSplit, hIdle⟩ := hTried.splits_time (by decide) (by decide)
  obtain ⟨middle, last, hFirst, hSecond, hWhole⟩ := hSplit (Time.ofMillis 16) (Time.ofMillis 5)
  obtain ⟨idle, hRests, hTook⟩ := hIdle (Time.ofMillis 500)
  exact ⟨simulation, middle, last, idle, hTried, by decide, by decide, hOwed, hFirst, hSecond,
    hWhole, hRests, hTook⟩

end Simulation

end Scrim
