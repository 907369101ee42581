import Scrim.Proofs.Attempt
import Scrim.Proofs.Rounds

/-!
# The pace of a simulation

Between calls a simulation is `Paced`: frames are some time apart and the last one was not early,
no task is late, and the alarm is not due. Whatever calls are made, refused ones included, it stays
so (`Simulation.Tried.paced`). So both loops come to an end by themselves, and a span that is played
to its end leaves nothing due (`Simulation.Tried.keeps_time`).

The last of this asks that the interval of the frames fits the frame clock. If it does not, that
clock goes by what is left of it, and may have a frame due that was put off when it was asked
before.
-/

namespace Scrim

/-! ## The alarm -/

namespace World

/-! Only a task arms the alarm, so no request does. -/

section Alarm

variable (world : World)

theorem alarm_of_silent {world after : World} (h : after.silent = world.silent) :
    after.host.alarm = world.host.alarm :=
  congrArg (·.host.alarm) h

theorem alarm_update : world.update.host.alarm = world.host.alarm := by
  obtain ⟨stale, alpha, surfaces, hPrepared⟩ := prepare_eq world.standing
  rw [← alarm_standing, standing_update, hPrepared]
  rfl

theorem alarm_scheduleUpdate : world.scheduleUpdate.host.alarm = world.host.alarm := by
  rw [← alarm_standing, standing_scheduleUpdate]
  rfl

theorem alarm_screenTurnedOn : world.screenTurnedOn.host.alarm = world.host.alarm := by
  unfold screenTurnedOn reveal
  dsimp only
  split
  · rfl
  · split
    · rfl
    · exact alarm_update _

theorem alarm_followGesture : world.followGesture.host.alarm = world.host.alarm := by
  have restored (w : World) : w.restoreWallpaper.host.alarm = w.host.alarm := by
    unfold restoreWallpaper
    split
    · rfl
    · rfl
  unfold followGesture
  simp only [List.foldl_cons, List.foldl_nil]
  rw [restored, ← alarm_standing, standing_of_silent (silent_dispatchState ..)]
  simp only [standing_followTarget, alarm_standing]

theorem alarm_applyGesture : world.applyGesture.world.host.alarm = world.host.alarm := by
  unfold applyGesture overlayGesture
  dsimp only
  split
  · next hOverlay =>
    obtain ⟨rfl, -⟩ := Outcome.mk.inj hOverlay
    rfl
  · next hOverlay =>
    obtain ⟨rfl, -⟩ := Outcome.mk.inj hOverlay
    split
    · rfl
    · exact alarm_followGesture _

theorem alarm_setPanelExpansion (fraction : Float32) :
    (world.setPanelExpansion fraction).world.host.alarm = world.host.alarm := by
  unfold setPanelExpansion
  split
  · rfl
  · rfl
  · dsimp only
    split
    · exact alarm_applyGesture _
    · rfl

theorem alarm_setQuickSettings (fraction : Float32) (panelBottom : Int) :
    (world.setQuickSettings fraction panelBottom).world.host.alarm = world.host.alarm := by
  have hFollowed := (spares_followNotifications world fraction panelBottom).alarm
  unfold setQuickSettings
  generalize world.followNotifications fraction panelBottom = followed at hFollowed ⊢
  split
  · rfl
  · dsimp only
    split
    · exact hFollowed
    · split
      · exact (alarm_applyGesture _).trans hFollowed
      · exact hFollowed

theorem alarm_setAodFrontAlpha (alpha : Float32) :
    (world.setAodFrontAlpha alpha).world.host.alarm = world.host.alarm := by
  unfold setAodFrontAlpha
  split
  · rfl
  · dsimp only
    split
    · dsimp only
      exact alarm_update _
    · rfl

theorem alarm_refreshBehind : world.refreshBehind.world.host.alarm = world.host.alarm := by
  unfold refreshBehind
  dsimp only
  split
  · rfl
  · split
    · rfl
    · dsimp only
      exact alarm_update _

theorem alarm_completeTransition (previous : State) :
    (world.completeTransition previous).host.alarm = world.host.alarm := by
  have applied (w : World) : (w.applyTransition previous).host.alarm = w.host.alarm := by
    unfold applyTransition
    split
    · exact alarm_scheduleUpdate _
    · split
      · exact alarm_preDraw w
      · exact alarm_scheduleUpdate w
  unfold completeTransition
  extract_lets abandoned state controller marked awake complete
  have hAwake : awake.host.alarm = world.host.alarm := by
    dsimp only [awake]
    split
    · rfl
    · rfl
  exact (applied awake.restartWallpaper).trans hAwake

theorem alarm_transition (state : State) (callback : Option Callback) :
    (world.transition state callback).world.host.alarm = world.host.alarm := by
  have hEntered := (spares_enter world state callback).alarm
  unfold transition overlayGesture
  split
  · rfl
  · split
    · exact alarm_of_silent (silent_confirm world callback)
    · dsimp only
      generalize world.enter state callback = entered at hEntered ⊢
      split
      · exact hEntered
      · split
        · next hOverlay =>
          obtain ⟨rfl, -⟩ := Outcome.mk.inj hOverlay
          exact hEntered
        · next hOverlay =>
          obtain ⟨rfl, -⟩ := Outcome.mk.inj hOverlay
          exact (alarm_completeTransition _ _).trans hEntered

theorem alarm_run (operation : Operation) :
    (operation.run world).world.host.alarm = world.host.alarm := by
  cases operation with
  | transition state callback => exact alarm_transition world state callback
  | panelExpansion fraction => exact alarm_setPanelExpansion world fraction
  | quickSettings fraction panelBottom => exact alarm_setQuickSettings world fraction panelBottom
  | expansionAffectsAlpha affects =>
      cases affects with
      | true => exact alarm_applyGesture _
      | false => rfl
  | aodFrontAlpha alpha => exact alarm_setAodFrontAlpha world alpha
  | screenSensor active =>
      simp only [Operation.run, setScreenSensor]
      split
      · exact alarm_refreshBehind _
      · rfl
  | backdrop visible =>
      simp only [Operation.run, setBackdrop]
      split
      · exact alarm_refreshBehind _
      · rfl
  | keyguardOccluded occluded =>
      simp only [Operation.run, setKeyguardOccluded]
      exact alarm_update _
  | keyguardAlpha alpha =>
      simp only [Operation.run, setKeyguardAlpha]
      split
      · rfl
      · exact alarm_scheduleUpdate _
  | theme palette => exact alarm_scheduleUpdate _
  | themeChanged => exact alarm_scheduleUpdate _
  | keyguardVisibility showing => exact alarm_scheduleUpdate _
  | screenOn => exact alarm_screenTurnedOn world
  | wallpaperTimeout => exact alarm_hideWallpaper world
  | _ => rfl

end Alarm

/-! ## Requests -/

variable {world : World}

theorem prompt_run (operation : Operation) (h : world.Prompt) :
    (operation.run world).world.Prompt := by
  cases hError : (operation.run world).error with
  | none => exact (Step.request hError).prompt h (fun _ => nofun)
  | some error =>
      have spares := (refused_run hError).spares
      exact ⟨spares.steady h.steady, by rw [spares.scheduler]; exact h.punctual⟩

theorem now_run (operation : Operation) (h : world.agenda.Steady) :
    (operation.run world).world.now = world.now := by
  cases hError : (operation.run world).error with
  | none => exact (Step.request hError).now_eq h (fun _ => nofun)
  | some error => exact congrArg Scheduler.now (refused_run hError).spares.scheduler

end World

namespace Simulation

open World

/-! ## Frames -/

section Frames

variable {simulation after : Simulation} {time : Nat}

/-- A frame is drawn when the frame clock does not put it off. -/
theorem Handles.regular (handles : simulation.Handles after) (h : simulation.Regular)
    (steady : simulation.world.agenda.Steady) : after.Regular := by
  have hNow := handles.now_eq steady
  cases handles with
  | delivered later => exact ⟨h.interval, h.ticks, h.settled, by rw [hNow]; exact h.past⟩
  | drawn owed due =>
      have hDelivered := (handed_deliver simulation).instant.now_eq steady
      refine ⟨h.interval, h.ticks, fun last hLast => ?_, fun last hLast => ?_⟩
      · obtain rfl := Option.some.inj hLast
        exact alignUp_le_of_due due
      · obtain rfl := Option.some.inj hLast
        exact Nat.le_of_eq (hDelivered.trans hNow.symm)

/-- Until the next event is due, the clock does not move it. -/
theorem Regular.awaits_moveClock (h : simulation.Regular)
    (hRange : simulation.frameInterval < clockRange) (hNow : simulation.now ≤ time)
    (hTime : ∀ event, simulation.Awaits event → time ≤ event) {event : Nat} :
    (simulation.moveClock time).Awaits event ↔ simulation.Awaits event := by
  have hFrame (owed : simulation.needsFrame = true) :=
    h.frameTime_moveClock hRange hNow (hTime _ (.frame owed))
  constructor
  · intro hAwaits
    cases hAwaits with
    | frame owed =>
        rw [hFrame owed]
        exact .frame owed
    | task first => exact .task first
    | alarm armed => exact .alarm armed
  · intro hAwaits
    cases hAwaits with
    | frame owed =>
        rw [← hFrame owed]
        exact .frame owed
    | task first => exact .task first
    | alarm armed => exact .alarm armed

theorem QuietTo.moveClock (h : simulation.QuietTo time) (hRegular : simulation.Regular)
    (hRange : simulation.frameInterval < clockRange) (hNow : simulation.now ≤ time) :
    (simulation.moveClock time).QuietTo time := by
  intro event hAwaits
  have hTime (other : Nat) (hOther : simulation.Awaits other) := Nat.le_of_lt (h other hOther)
  exact h event ((hRegular.awaits_moveClock hRange hNow hTime).mp hAwaits)

theorem QuietTo.alarm (h : simulation.QuietTo time) :
    simulation.world.host.alarm.isDue time = false := by
  unfold Alarm.isDue
  split
  · next deadline hArmed => exact decide_eq_false (Nat.not_le_of_lt (h deadline (.alarm hArmed)))
  · rfl

end Frames

/-! ## Calls -/

/-- How calls leave a simulation: frames are regular, nothing is late, and the alarm is not due. -/
structure Paced (simulation : Simulation) : Prop extends Regular simulation where
  prompt : simulation.world.Prompt
  alarm : simulation.world.host.alarm.isDue simulation.now = false

section Paced

variable {simulation last : Simulation} {goesOn : Simulation → Bool} {limit : Nat}

theorem Round.paced {after : Simulation} {next : Nat} (round : simulation.Round next after)
    (h : simulation.Paced) : after.Paced where
  toRegular := round.handles.regular (h.moveClock next) (steady_moveClock h.prompt.steady next)
  prompt := round.prompt h.prompt
  alarm := (round.quietTo h.prompt.steady h.interval).alarm

theorem Plays.paced (plays : Plays goesOn limit simulation last) (h : simulation.Paced) :
    last.Paced := by
  induction plays with
  | stopped stops => exact h
  | ended known quiet => exact h
  | round goes within round drained rest ih => exact ih (round.paced h)

theorem Plays.now_le (plays : Plays goesOn limit simulation last)
    (h : simulation.world.agenda.Steady) : simulation.now ≤ last.now := by
  induction plays with
  | stopped stops => exact Nat.le_refl _
  | ended known quiet => exact Nat.le_refl _
  | @round simulation after last next goes within round drained rest ih =>
      have hRest := ih (round.steady h)
      rw [round.now_eq h] at hRest
      exact Nat.le_trans (Nat.le_max_left _ _) hRest

/-- No round goes beyond the limit. -/
theorem Plays.now_le_limit (plays : Plays goesOn limit simulation last)
    (h : simulation.world.agenda.Steady) (hNow : simulation.now ≤ limit) : last.now ≤ limit := by
  induction plays with
  | stopped stops => exact hNow
  | ended known quiet => exact hNow
  | @round simulation after last next goes within round drained rest ih =>
      apply ih (round.steady h)
      rw [round.now_eq h]
      exact Nat.max_le.mpr ⟨hNow, within⟩

theorem Plays.paced_end (plays : Plays (fun _ => true) limit simulation last)
    (h : simulation.Paced) (hNow : simulation.now ≤ limit) :
    (last.moveClock limit).now = limit ∧ (last.moveClock limit).Paced := by
  have hPaced := plays.paced h
  have hClock : (last.moveClock limit).now = limit :=
    Nat.max_eq_right (plays.now_le_limit h.prompt.steady hNow)
  refine ⟨hClock, hPaced.moveClock limit, ?_, ?_⟩
  · refine (Step.clock last.world limit).prompt hPaced.prompt ?_
    intro time hTime posted hMem
    obtain rfl := Event.clock.inj hTime
    exact Nat.le_of_lt (plays.quietTo.lt_due posted hMem)
  · rw [hClock]
    exact plays.quietTo.alarm

theorem Plays.quiet_end (plays : Plays (fun _ => true) limit simulation last)
    (h : simulation.Paced) (hRange : simulation.frameInterval < clockRange)
    (hNow : simulation.now ≤ limit) : (last.moveClock limit).QuietTo limit :=
  plays.quietTo.moveClock (plays.paced h).toRegular (plays.frameInterval_eq ▸ hRange)
    (plays.now_le_limit h.prompt.steady hNow)

theorem Paced.perform (h : simulation.Paced) (operation : Operation) :
    (simulation.perform operation).1.Paced where
  interval := h.interval
  ticks := h.ticks
  settled := h.settled
  past last hLast :=
    Nat.le_trans (h.past last hLast) (Nat.le_of_eq (now_run operation h.prompt.steady).symm)
  prompt := prompt_run operation h.prompt
  alarm := by
    have hNow := now_run operation h.prompt.steady
    have hAlarm := alarm_run simulation.world operation
    show (operation.run simulation.world).world.host.alarm.isDue
      (operation.run simulation.world).world.now = false
    rw [hNow, hAlarm]
    exact h.alarm

theorem Paced.call {next : Simulation} {call : Call} {error : Option Error} (h : simulation.Paced)
    (made : call.run simulation = some (next, error)) : next.Paced := by
  rcases call_cases made with ⟨operation, hMade⟩ | ⟨_, _, hMade, -⟩ | ⟨_, _, hMade, -⟩
  · have hPerformed := h.perform operation
    rw [hMade] at hPerformed
    exact hPerformed
  · obtain ⟨middle, plays, rfl⟩ := plays_advance h.prompt.steady hMade
    exact (plays.paced_end h (Nat.le_add_right _ _)).2
  · exact (plays_of_playWhile h.prompt.steady hMade).paced h

theorem Paced.exists_advance (h : simulation.Paced) (duration : Nat) :
    ∃ last, simulation.advance duration = some last ∧ last.Paced := by
  obtain ⟨last, hLast⟩ := Simulation.exists_advance h.prompt.steady h.interval h.ticks duration
  have hAdvance := hLast _ (Nat.lt_succ_self duration)
  have hMade : Call.run (.advance duration) simulation = some (last, none) :=
    congrArg (Option.map (·, none)) hAdvance
  exact ⟨last, hAdvance, h.call hMade⟩

theorem paced_create {settings : Settings} {options : SimulationOptions}
    (h : create settings options = .ok simulation) (hInterval : 0 < options.frameInterval)
    (hTicks : ticks options.frameInterval ≠ 0) : simulation.Paced := by
  have hAlarm : simulation.world.host.alarm = {} := by
    have hFresh := alarm_update (fresh settings options)
    obtain ⟨message, screenOn, hWorld⟩ := create_eq h
    generalize (fresh settings options).update = first at hFresh hWorld
    rw [hWorld]
    exact hFresh
  have hPrompt := (onTime_create h).prompt
  obtain ⟨world, rfl⟩ := eq_of_create h
  refine ⟨⟨hInterval, hTicks, nofun, nofun⟩, hPrompt, ?_⟩
  rw [hAlarm]
  rfl

end Paced

variable {settings : Settings} {options : SimulationOptions} {simulation : Simulation}

theorem Tried.paced (h : Tried settings options simulation)
    (hInterval : 0 < options.frameInterval) (hTicks : ticks options.frameInterval ≠ 0) :
    simulation.Paced := by
  induction h with
  | created hCreate => exact paced_create hCreate hInterval hTicks
  | called _ made ih => exact ih.call made

theorem Tried.frameInterval_eq (h : Tried settings options simulation) :
    simulation.frameInterval = options.frameInterval := by
  induction h with
  | created hCreate =>
      obtain ⟨world, rfl⟩ := eq_of_create hCreate
      rfl
  | called h made ih => exact (frameInterval_call h.steady made).trans ih

/-- `advance` comes to an end, at the end of its span, and nothing is due there. -/
structure Advances (simulation : Simulation) (duration : Nat) (last : Simulation) : Prop where
  returns : ∀ rounds, duration < rounds →
    Call.run (.advance duration rounds) simulation = some (last, none)
  ends : ∃ played, Plays (fun _ => true) (simulation.now + duration) simulation played ∧
    last = played.moveClock (simulation.now + duration)
  clock : last.now = simulation.now + duration
  tasks : ∀ posted ∈ last.world.host.scheduler.queue, last.now < posted.due
  alarm : ∀ deadline, last.world.host.alarm.deadline = some deadline → last.now < deadline
  frame : last.needsFrame = true → ∃ frame, last.nextFrameTime = some frame ∧ last.now < frame

/-- `runUntilIdle` comes to an end, within its span. -/
structure Idles (simulation : Simulation) (duration : Nat) (last : Simulation) : Prop where
  returns : ∀ rounds, duration < rounds →
    Call.run (.runUntilIdle duration rounds) simulation = some (last, none)
  ends : Plays (fun s => !s.isIdle) (simulation.now + duration) simulation last
  clock : simulation.now ≤ last.now ∧ last.now ≤ simulation.now + duration

/-- Whatever calls were made before, both loops come to an end, and `advance` leaves nothing due,
unless an interval overflows the frame clock. -/
theorem Tried.keeps_time (h : Tried settings options simulation)
    (hInterval : 0 < options.frameInterval) (noOverflow : options.frameInterval < clockRange)
    (duration : Nat) :
    ∃ last idle, simulation.Advances duration last ∧ simulation.Idles duration idle := by
  have hPaced := h.paced hInterval (ticks_ne_zero noOverflow)
  have hSteady := hPaced.prompt.steady
  have hRange : simulation.frameInterval < clockRange := h.frameInterval_eq ▸ noOverflow
  have hSpan : simulation.now ≤ simulation.now + duration := Nat.le_add_right _ _
  obtain ⟨last, hAdvance⟩ := exists_advance hSteady hPaced.interval hPaced.ticks duration
  obtain ⟨idle, hIdle⟩ := exists_runUntilIdle hSteady hPaced.interval hPaced.ticks duration
  obtain ⟨played, plays, hLast⟩ := plays_advance hSteady (hAdvance _ (Nat.lt_succ_self _))
  have idles := plays_of_playWhile hSteady (hIdle _ (Nat.lt_succ_self _))
  obtain ⟨hClock, hEnd⟩ := plays.paced_end hPaced hSpan
  have hQuiet := plays.quiet_end hPaced hRange hSpan
  rw [← hLast] at hClock hEnd hQuiet
  refine ⟨last, idle, ⟨?_, ⟨played, plays, hLast⟩, hClock, ?_, ?_, ?_⟩, ?_, idles,
    idles.now_le hSteady, idles.now_le_limit hSteady hSpan⟩
  · exact fun rounds hRounds => congrArg (Option.map (·, none)) (hAdvance rounds hRounds)
  · rw [hClock]
    exact hQuiet.lt_due
  · rw [hClock]
    exact fun deadline hArmed => hQuiet deadline (.alarm hArmed)
  · rw [hClock]
    exact fun hOwed => ⟨_, nextFrameTime_eq hEnd.ticks, hQuiet _ (.frame hOwed)⟩
  · exact fun rounds hRounds => congrArg (Option.map (·, none)) (hIdle rounds hRounds)

def refusedPull : List Call :=
  [.perform (.panelExpansion (0 / 0)), .perform (.panelExpansion 0), .perform toKeyguard]

set_option maxRecDepth 100000 in
/-- The frame that the transition waits for is drawn in time. -/
theorem keeps_time_after_refusal : ∃ simulation last idle,
    Tried {} {} simulation ∧ 0 < SimulationOptions.frameInterval {} ∧
    SimulationOptions.frameInterval {} < clockRange ∧ simulation.needsFrame = true ∧
    simulation.Advances (Time.ofMillis 16) last ∧ simulation.Idles (Time.ofMillis 16) idle := by
  have hPlayed : (create {} {}).toOption.any (fun first =>
      (tryAll refusedPull first).any (·.needsFrame)) = true := by
    decide +kernel
  obtain ⟨first, simulation, hCreate, hMade, hOwed⟩ := exists_tryAll hPlayed
  have hTried := (Tried.created hCreate).tryAll hMade
  obtain ⟨last, idle, hKeeps⟩ := hTried.keeps_time (by decide) (by decide) (Time.ofMillis 16)
  exact ⟨simulation, last, idle, hTried, by decide, by decide, hOwed, hKeeps⟩

end Simulation

end Scrim
