import Scrim.Proofs.Arrival
import Scrim.Proofs.Splitting
import Scrim.Proofs.Work

/-!
# Every run settles

Without a further request a simulation comes to rest, provided that its animations arrive: waiting
for idleness long enough ends with nothing left to do (`Simulation.Reached.comes_to_rest`). It has
to be shown that a round of the event loop always makes headway. If a round delivers a task, the
alarm or the notice of a frame, it does some of the work there is (`World.work`). Otherwise it draws
a frame, and only moves animations: those that are over are dropped, and the others have less of
their time left (`Simulation.motion`). So the two, in this order, are lower after every round
(`Simulation.Round.work_or_motion_lt`).
-/

namespace Scrim

/-! ## The time that animations have left -/

/-- When an animation has had its time. -/
def Animation.ends (animation : Animation) : Nat :=
  animation.begins + animation.duration

/-- When all running animations have had their time. -/
def Animations.lastEnd (animations : Animations) : Nat :=
  let ends (layer : Layer) := (animations.get? layer).elim 0 Animation.ends
  max (max (ends .front) (ends .behind)) (max (ends .notifications) (ends .auxiliary))

theorem Animations.lastEnd_le_iff {animations : Animations} {time : Nat} :
    animations.lastEnd ≤ time ↔
      ∀ layer animation, animations.get? layer = some animation → animation.ends ≤ time := by
  have layer (layer : Layer) : (animations.get? layer).elim 0 Animation.ends ≤ time ↔
      ∀ animation, animations.get? layer = some animation → animation.ends ≤ time := by
    cases animations.get? layer with
    | none => simp
    | some animation => simp
  simp only [lastEnd, Nat.max_le, layer]
  constructor
  · rintro ⟨⟨hFront, hBehind⟩, hNotifications, hAuxiliary⟩ (_ | _ | _ | _)
    exacts [hFront, hBehind, hNotifications, hAuxiliary]
  · exact fun h => ⟨⟨h .front, h .behind⟩, h .notifications, h .auxiliary⟩

theorem Animations.ends_le_lastEnd {animations : Animations} {layer : Layer}
    {animation : Animation} (h : animations.get? layer = some animation) :
    animation.ends ≤ animations.lastEnd :=
  lastEnd_le_iff.mp (Nat.le_refl _) layer animation h

/-- Of the animations that arrive, a frame leaves those that end later, as they were. -/
theorem World.Arriving.of_advance {world : World} (h : world.Arriving) {now : Nat} {layer : Layer}
    {animation : Animation}
    (hLeft : (world.controller.animations.advance now).get? layer = some animation) :
    world.controller.animations.get? layer = some animation ∧ now < animation.ends := by
  rw [Animations.get?_advance] at hLeft
  obtain ⟨hRan, hGoesOn⟩ := Animations.eq_of_keep? hLeft
  refine ⟨hRan, Nat.lt_of_not_le fun hEnded => ?_⟩
  exact absurd (hGoesOn.symm.trans ((h.running _ _ hRan).isOver hEnded)) Bool.false_ne_true

theorem World.Arriving.lastEnd_advance_le {world : World} (h : world.Arriving) (now : Nat) :
    (world.controller.animations.advance now).lastEnd ≤ world.controller.animations.lastEnd := by
  rw [Animations.lastEnd_le_iff]
  intro layer animation hLeft
  exact Animations.ends_le_lastEnd (h.of_advance hLeft).1

namespace Simulation

open World

/-- How long the running animations may get frames yet, counted from the last frame; zero if no
frame is requested. -/
def motion (simulation : Simulation) : Nat :=
  if simulation.world.host.scheduler.frameRequested then
    simulation.world.controller.animations.lastEnd - simulation.lastFrame.elim 0 (· + 1) + 1
  else 0

theorem answerFrameRequest_of_requested {world : World}
    (h : world.host.scheduler.frameRequested = true) : answerFrameRequest world =
      { world with host.scheduler := world.host.scheduler.takeFrameRequest.2 }.animationFrame := by
  unfold answerFrameRequest Scheduler.takeFrameRequest
  rw [h]

theorem answerFrameRequest_of_not_requested {world : World}
    (h : world.host.scheduler.frameRequested = false) : answerFrameRequest world = world := by
  unfold answerFrameRequest Scheduler.takeFrameRequest
  rw [h]

/-- A request that is answered is repeated only if something moves on. -/
theorem exists_animation_of_requested {world : World} (h : world.agenda.Steady)
    (hAnswered : world.host.scheduler.frameRequested = false)
    (hAgain : world.animationFrame.host.scheduler.frameRequested = true) :
    ∃ layer animation,
      world.animationFrame.controller.animations.get? layer = some animation := by
  have hFramed : world.agenda.Framed world.animationFrame.agenda :=
    framed_animationFrame rfl h.covered
  have hMoving : world.animationFrame.agenda.moving = true := by
    have hRequest : world.animationFrame.agenda.scheduler.frameRequested = true := hAgain
    generalize world.animationFrame.agenda = after at hFramed hRequest ⊢
    cases hFramed with
    | still still => exact absurd (hAnswered.symm.trans hRequest) Bool.false_ne_true
    | moving kept moves => exact moves
    | settled ended carried => exact absurd (hAnswered.symm.trans hRequest) Bool.false_ne_true
  rw [← anyAnimating_eq_moving] at hMoving
  obtain ⟨layer, -, hLayer⟩ := List.any_eq_true.mp hMoving
  exact ⟨layer, Option.isSome_iff_exists.mp hLayer⟩

variable {simulation : Simulation}

/-- A frame takes some of the time that animations have left. -/
theorem motion_lt {drawn : Simulation} (h : simulation.world.agenda.Steady)
    (arriving : simulation.world.Arriving)
    (requested : simulation.world.host.scheduler.frameRequested = true)
    (later : ∀ last, simulation.lastFrame = some last → last < simulation.now)
    (hWorld : drawn.world = answerFrameRequest simulation.world)
    (hFrame : drawn.lastFrame = some simulation.now) : drawn.motion < simulation.motion := by
  rw [answerFrameRequest_of_requested requested] at hWorld
  have hAnimations : drawn.world.controller.animations =
      simulation.world.controller.animations.advance simulation.now := by
    rw [hWorld]
    exact animations_animationFrame _
  unfold motion
  rw [if_pos requested, hFrame, hAnimations]
  split
  · next hAgain =>
    rw [hWorld] at hAgain
    have hSteady : { simulation.world with host.scheduler :=
        simulation.world.host.scheduler.takeFrameRequest.2 }.agenda.Steady := h.onScheduler _
    obtain ⟨layer, animation, hLeft⟩ := exists_animation_of_requested hSteady rfl hAgain
    rw [← hWorld, hAnimations] at hLeft
    -- what moves on ends after this frame, which comes after the last one
    have hNow := Nat.lt_of_lt_of_le (arriving.of_advance hLeft).2
      (Animations.ends_le_lastEnd hLeft)
    have hEnd := arriving.lastEnd_advance_le simulation.now
    have hBefore : simulation.lastFrame.elim 0 (· + 1) ≤ simulation.now := by
      cases hLast : simulation.lastFrame with
      | none => exact Nat.zero_le _
      | some last => exact later last hLast
    show _ - (simulation.now + 1) + 1 < _
    omega
  · exact Nat.succ_pos _

/-! ## Rounds -/

section Delivered

variable {world : World}

/-- Tasks that are run do some of the work. -/
theorem work_runTasks (fuel : Nat) (h : world.agenda.Steady) :
    runTasks fuel world = world ∨ (runTasks fuel world).work < world.work := by
  cases fuel with
  | zero => exact Or.inl rfl
  | succ fuel =>
      rw [runTasks]
      split
      · exact Or.inl rfl
      · next task rest hPop =>
        have hFirst := Step.task hPop
        have hRest := (handed_runTasks fuel _).work_le (hFirst.steady h)
        exact Or.inr (Nat.lt_of_le_of_lt hRest (work_runTask h.attached hPop))

theorem work_fireAlarm (h : world.agenda.Steady) :
    fireAlarm world = world ∨ (fireAlarm world).work < world.work := by
  unfold fireAlarm Alarm.fireIfDue
  cases hDue : world.host.alarm.isDue world.now with
  | true => exact Or.inr (work_hideWallpaper h.listens hDue)
  | false => exact Or.inl rfl

theorem work_announceFrame (h : world.agenda.Steady) :
    announceFrame world = world ∧ world.host.surfaces.behind.preDrawListener = false ∨
      (announceFrame world).work < world.work := by
  unfold announceFrame
  split
  · next hListens => exact Or.inr (work_preDraw h hListens)
  · next hSilent => exact Or.inl ⟨rfl, Bool.of_not_eq_true hSilent⟩

theorem work_delivered (h : world.agenda.Steady) :
    fireAlarm (runDueTasks world) = world ∨
      (fireAlarm (runDueTasks world)).work < world.work := by
  have hTasks := handed_runTasks world.host.scheduler.queue.length world
  have hAlarm := (handed_fireAlarm (runDueTasks world)).work_le (hTasks.leads.steady h)
  rcases work_runTasks world.host.scheduler.queue.length h with hNone | hSome
  · rw [runDueTasks, hNone]
    exact work_fireAlarm h
  · exact Or.inr (Nat.lt_of_le_of_lt hAlarm hSome)

end Delivered

/-- What is awaited is due once the clock is moved there. -/
theorem Regular.exists_due (h : simulation.Regular) {next : Nat}
    (hAwaits : simulation.Awaits next) : ∃ event,
      (simulation.moveClock next).Awaits event ∧ event ≤ (simulation.moveClock next).now := by
  have hReached : next ≤ (simulation.moveClock next).now := Nat.le_max_right _ _
  cases hAwaits with
  | frame owed => exact ⟨_, .frame owed, h.frameTime_moveClock_le⟩
  | task first => exact ⟨_, .task first, hReached⟩
  | alarm armed => exact ⟨_, .alarm armed, hReached⟩

/-- A round that delivers no task and no alarm draws a frame. -/
theorem Round.drawn_of_same {after : Simulation} {next : Nat}
    (round : simulation.Round next after) (h : simulation.Paced)
    (hSame : fireAlarm (runDueTasks (simulation.moveClock next).world) =
      (simulation.moveClock next).world) :
    (simulation.moveClock next).needsFrame = true ∧
      (simulation.moveClock next).frameTime ≤ (simulation.moveClock next).now ∧
      after = (simulation.moveClock next).runFrame := by
  have hHandled := handled_delivered (steady_moveClock h.prompt.steady next)
  obtain ⟨event, hAwaits, hDue⟩ := h.exists_due (first_of_nextEventTime round.event).1
  have handles := round.handles
  rw [hSame] at hHandled
  generalize simulation.moveClock next = moved at hSame hHandled hAwaits hDue handles ⊢
  have hDelivered : moved.deliver = moved := congrArg (fun world => { moved with world }) hSame
  cases handles with
  | delivered later =>
      -- were no frame due, nothing would be, but the event that the clock was moved to is
      rw [hDelivered] at later
      exact absurd (hHandled.quietTo later event hAwaits) (Nat.not_lt_of_le hDue)
  | drawn owed due =>
      rw [hDelivered] at owed due ⊢
      exact ⟨owed, due, rfl⟩

/-- A frame that announces no update only moves animations, and was requested for them. -/
theorem motion_runFrame (h : simulation.Regular) (hSteady : simulation.world.agenda.Steady)
    (arriving : simulation.world.Arriving) (hNeeds : simulation.needsFrame = true)
    (hDue : simulation.frameTime ≤ simulation.now)
    (hWorld : simulation.runFrame.world = answerFrameRequest simulation.world)
    (hSilent : (answerFrameRequest simulation.world).host.surfaces.behind.preDrawListener = false) :
    simulation.runFrame.world.work = simulation.world.work ∧
      simulation.runFrame.motion < simulation.motion := by
  have hRequested : simulation.world.host.scheduler.frameRequested = true := by
    apply Bool.of_not_eq_false
    intro hNone
    rw [answerFrameRequest_of_not_requested hNone] at hSilent
    simp only [needsFrame, hNone, hSilent, Bool.or_false] at hNeeds
    cases hNeeds
  have hLater (last : Nat) (hLast : simulation.lastFrame = some last) : last < simulation.now :=
    Nat.lt_of_lt_of_le (lt_frameTime h.interval hLast) hDue
  constructor
  · rw [hWorld, answerFrameRequest_of_requested hRequested]
    exact (Step.animationFrame hRequested).work_animationFrame hSteady
  · exact motion_lt hSteady arriving hRequested hLater hWorld rfl

/-- After the tasks and the alarm, nothing adds to the work. -/
theorem Handles.work_le {after : Simulation} (handles : simulation.Handles after)
    (h : simulation.world.agenda.Steady) :
    after.world.work ≤ (fireAlarm (runDueTasks simulation.world)).work := by
  have hSteady := (handed_deliver simulation).leads.steady h
  cases handles with
  | delivered later => exact Nat.le_refl _
  | drawn owed due => exact (handed_runFrame simulation.deliver).work_le hSteady

/-- A round does some of the work, or takes some of the time that animations have left. -/
theorem Round.work_or_motion_lt {after : Simulation} {next : Nat}
    (round : simulation.Round next after) (h : simulation.Paced)
    (arriving : simulation.world.Arriving) :
    after.world.work < simulation.world.work ∨
      after.world.work = simulation.world.work ∧ after.motion < simulation.motion := by
  have hRegular := h.toRegular.moveClock next
  have hSteady := steady_moveClock h.prompt.steady next
  have hArriving : (simulation.moveClock next).world.Arriving := { arriving with }
  have hFrame := round.drawn_of_same h
  have handles := round.handles
  -- the clock alone is none of the work, and no animation moves by it
  change _ < (simulation.moveClock next).world.work ∨
    _ = (simulation.moveClock next).world.work ∧ _ < (simulation.moveClock next).motion
  generalize simulation.moveClock next = moved at hRegular hSteady hArriving hFrame handles ⊢
  rcases work_delivered hSteady with hSame | hDelivered
  · obtain ⟨hNeeds, hDue, rfl⟩ := hFrame hSame
    have hAnswered := handed_answerFrameRequest moved.world
    rcases work_announceFrame (hAnswered.leads.steady hSteady) with ⟨hWorld, hSilent⟩ | hAnnounced
    · exact Or.inr (motion_runFrame hRegular hSteady hArriving hNeeds hDue hWorld hSilent)
    · exact Or.inl (Nat.lt_of_lt_of_le hAnnounced (hAnswered.work_le hSteady))
  · exact Or.inl (Nat.lt_of_le_of_lt (handles.work_le hSteady) hDelivered)

/-! ## Rest -/

/-- Something is yet to come on a display that is not idle. -/
theorem exists_awaited (h : simulation.isIdle = false) :
    ∃ next, simulation.firstAwaited = some next := by
  cases hNext : simulation.firstAwaited with
  | some next => exact ⟨next, rfl⟩
  | none =>
      have hNothing := firstAwaited_eq_none_iff.mp hNext
      rcases Bool.and_eq_false_iff.mp h with hOwed | hQueued
      · exact absurd (.frame (by simpa using hOwed)) (hNothing simulation.frameTime)
      · obtain ⟨due, hDue⟩ := Option.ne_none_iff_exists'.mp
          (mt Option.isNone_iff_eq_none.mpr (ne_true_of_eq_false hQueued))
        exact absurd (.task hDue) (hNothing due)

/-- However much there is to do, finitely many rounds are enough. -/
theorem Paced.exists_idle {simulation : Simulation} (h : simulation.Paced)
    (arriving : simulation.world.Arriving) : ∃ last bound, last.isIdle = true ∧
      ∀ limit, bound ≤ limit → Plays (fun s => !s.isIdle) limit simulation last := by
  cases hIdle : simulation.isIdle with
  | true => exact ⟨simulation, 0, hIdle, fun _ _ => .stopped (by rw [hIdle]; rfl)⟩
  | false =>
      obtain ⟨next, hNext⟩ := exists_awaited hIdle
      obtain ⟨after, round⟩ :=
        exists_round h.ticks ((nextEventTime_eq h.ticks).trans (congrArg some hNext))
      have hLess := round.work_or_motion_lt h arriving
      have hArriving := round.handles.handed.arriving { arriving with }
      obtain ⟨last, bound, hLast, plays⟩ := (round.paced h).exists_idle hArriving
      refine ⟨last, max next bound, hLast, fun limit hLimit => ?_⟩
      obtain ⟨hWithin, hRest⟩ := Nat.max_le.mp hLimit
      exact .round (by rw [hIdle]; rfl) hWithin round (round.drained h.prompt.steady)
        (plays limit hRest)
termination_by (simulation.world.work, simulation.motion)
decreasing_by exact Prod.lex_def.mpr hLess

/-- Waiting for idleness long enough ends with nothing left to do. -/
theorem Paced.exists_limit (h : simulation.Paced) (arriving : simulation.world.Arriving) :
    ∃ limit last, last.isIdle = true ∧ ∀ duration rounds, limit ≤ duration → duration < rounds →
      simulation.runUntilIdle duration rounds = some last := by
  obtain ⟨last, bound, hIdle, plays⟩ := h.exists_idle arriving
  refine ⟨bound, last, hIdle, fun duration rounds hDuration hRounds => ?_⟩
  have hSteady := h.prompt.steady
  obtain ⟨played, hPlayed⟩ :=
    Simulation.exists_runUntilIdle hSteady h.interval h.ticks duration
  have plays' := plays_of_playWhile hSteady (hPlayed rounds hRounds)
  have hLimit := Nat.le_trans hDuration (Nat.le_add_left duration simulation.now)
  rw [hPlayed rounds hRounds, plays'.unique (plays _ hLimit)]

/-- Without a further request every simulation whose frames are some time apart comes to rest:
waiting for idleness long enough ends with nothing left to do. -/
theorem Reached.comes_to_rest {settings : Settings} {options : SimulationOptions}
    (h : Reached settings options simulation) (hInterval : 0 < options.frameInterval)
    (hTicks : ticks options.frameInterval ≠ 0) (arriving : simulation.world.Arriving) :
    ∃ limit last, last.isIdle = true ∧ ∀ duration rounds, limit ≤ duration → duration < rounds →
      simulation.runUntilIdle duration rounds = some last :=
  (h.tried.paced hInterval hTicks).exists_limit arriving

def fadingDoze : Settings where
  doze :=
    { alwaysOn := true
      displayNeedsBlanking := true
      controlsScreenOff := false
      wallpaperAodDuration := Time.ofMillis 20
      wallpaperFadeOutDuration := 0 }

def unlockThenDoze : List Call :=
  [.perform (.expansionAffectsAlpha false), .perform (.ambientWallpaper true),
    .perform (.keyguardFadingAway true 0), .perform (.slowUnlock true),
    .perform (.transition .unlocked none), .advance (Time.ofMillis 40),
    .perform (.transition .aod (some ⟨0, "doze"⟩)), .advance 0]

/-- Everything at once: an animation that holds back, a pending update that is to blank the display,
and an alarm that goes off in the middle of the blanking. -/
def Restless (simulation : Simulation) : Prop :=
  simulation.world.controller.animations.isAnimating .behind = true ∧
    simulation.world.controller.updatePending = true ∧
    simulation.world.controller.blankScreen = true ∧
    simulation.world.host.alarm.deadline = some (simulation.now + Time.ofMillis 20)

instance (simulation : Simulation) : Decidable simulation.Restless :=
  inferInstanceAs (Decidable (_ ∧ _ ∧ _ ∧ _))

set_option maxRecDepth 100000 in
/-- Narrowing to single precision has no defining equation, so of a change that takes time it cannot
be evaluated when it arrives. No change takes any time here. -/
theorem comes_to_rest_of_restless : ∃ simulation,
    Reached fadingDoze {} simulation ∧ 0 < SimulationOptions.frameInterval {} ∧
    ticks (SimulationOptions.frameInterval {}) ≠ 0 ∧ simulation.world.Arriving ∧
    simulation.Restless ∧ ∃ limit last, last.isIdle = true ∧
      ∀ duration rounds, limit ≤ duration → duration < rounds →
        simulation.runUntilIdle duration rounds = some last := by
  have hPlayed : (play fadingDoze {} unlockThenDoze).any (fun simulation =>
      simulation.Restless ∧ (∀ layer ∈ Layer.all,
        (simulation.world.controller.animations.get? layer).all (·.duration = 0)) ∧
      simulation.world.controller.animateChange = false ∧
      simulation.world.controller.catalog.doze.wallpaperFadeOutDuration = 0) = true := by
    decide +kernel
  obtain ⟨simulation, hPlay, hLast⟩ := (Option.any_eq_true _ _).mp hPlayed
  obtain ⟨hRestless, hRunning, hNext, hFade⟩ := of_decide_eq_true hLast
  have hReached := reached_play hPlay
  have arriving : simulation.world.Arriving := by
    refine ⟨fun layer animation hRuns => ?_, ?_, ?_⟩
    · have hDuration := hRunning layer layer.mem_all
      rw [hRuns] at hDuration
      rw [of_decide_eq_true hDuration]
      exact arrives_zero
    · rw [hNext]
      exact nofun
    · rw [hFade]
      exact arrives_zero
  have hTicks : ticks (SimulationOptions.frameInterval {}) ≠ 0 := ticks_ne_zero (by decide)
  exact ⟨simulation, hReached, by decide, hTicks, arriving, hRestless,
    hReached.comes_to_rest (by decide) hTicks arriving⟩

end Simulation

end Scrim
