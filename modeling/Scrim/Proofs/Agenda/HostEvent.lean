import Scrim.Proofs.Agenda.Update

/-!
# What a host event does to the agenda

One statement for each event that the host delivers. An animation frame has three outcomes,
listed by `Agenda.Framed`, and a task that came due has three as well (`Agenda.Delivered`). The
notice of a frame is an update. How gestures are followed is here too, since it draws like a
frame does.
-/

namespace Scrim

namespace Agenda

def schedule (agenda : Agenda) : Agenda :=
  { agenda with updatePending := true, listening := true }

theorem schedule_of_pending {agenda : Agenda} (hPending : agenda.updatePending = true)
    (hListening : agenda.listening = true) : agenda.schedule = agenda := by
  rcases agenda with ⟨⟩
  obtain rfl : _ = true := hPending
  obtain rfl : _ = true := hListening
  rfl

def unschedule (agenda : Agenda) : Agenda :=
  { agenda with updatePending := false, listening := false }

def post (agenda : Agenda) (task : Task) : Agenda :=
  { agenda with scheduler := agenda.scheduler.post task }

def reveal (agenda : Agenda) : Agenda :=
  { agenda with blanking := .idle, blankScreen := false }

def expedite (agenda : Agenda) : Agenda :=
  { agenda with scheduler := agenda.scheduler.cancel .blankingTransition }

def onScheduler (agenda : Agenda) (scheduler : Scheduler) : Agenda :=
  { agenda with scheduler := scheduler }

def answer (agenda : Agenda) : Agenda :=
  agenda.onScheduler agenda.scheduler.takeFrameRequest.2

/-- Forgets the active registration if it is among the given ones. -/
def forgetAny (agenda : Agenda) (registrations : List (Option Registration)) : Agenda :=
  { agenda with callback :=
      if agenda.callback.map (·.id) ∈ registrations.map (·.map (·.id)) then none
      else agenda.callback }

theorem forget_eq_forgetAny (agenda : Agenda) (registration : Option Registration) :
    agenda.forget registration = agenda.forgetAny [registration] := by
  rcases agenda with ⟨callback⟩
  cases registration with
  | none => cases callback <;> simp [forget, forgetAny]
  | some registration => simp only [forget, forgetAny]; split <;> simp_all

theorem forgetAny_forgetAny (agenda : Agenda) (first rest : List (Option Registration)) :
    (agenda.forgetAny first).forgetAny rest = agenda.forgetAny (first ++ rest) := by
  rcases agenda with ⟨callback⟩
  by_cases hFirst : callback.map (·.id) ∈ first.map (·.map (·.id))
  · simp [forgetAny, hFirst]
  · simp only [forgetAny, hFirst, if_false, List.map_append, List.mem_append, false_or]

theorem release_forgetAny (agenda : Agenda) (registrations : List (Option Registration)) :
    (agenda.release.forgetAny registrations).release = agenda.release.forgetAny registrations := by
  have hIdle : agenda.release.wakeGuard.release = (agenda.release.wakeGuard, .nothing) := by
    unfold release WakeGuard.release
    cases hHeld : agenda.wakeGuard.held <;> simp [hHeld]
  simp only [forgetAny, release] at hIdle ⊢
  simp [hIdle, GuardResult.calls]

end Agenda

namespace Animations

/-- A step leaves an animation or ends it. -/
theorem get_carried_advance (animations : Animations) (layer : Layer) (now : Nat) :
    (animations.advance now).carried.get layer = animations.carried.get layer ∨
      (animations.advance now).carried.get layer = none := by
  rw [get_carried, get_carried, get?_advance]
  cases animations.get? layer with
  | none => exact Or.inl rfl
  | some animation =>
      simp only [keep?]
      split
      · exact Or.inr rfl
      · exact Or.inl rfl

/-- Only an animation that ran completes. -/
theorem carried_of_mem_completions {animations : Animations} {now : Nat}
    {completion : Completion} (h : completion ∈ animations.completions now) :
    animations.carried.get completion.layer = some completion.registration := by
  obtain ⟨layer, -, hLayer⟩ := List.mem_filterMap.mp h
  rw [get_carried]
  cases hGet : animations.get? layer with
  | none => simp [hGet] at hLayer
  | some animation =>
      simp only [hGet] at hLayer
      split at hLayer
      · obtain rfl := Option.some.inj hLayer
        simp [hGet]
      · simp at hLayer

theorem carried_advance_of_completions_nil {animations : Animations} {now : Nat}
    (h : animations.completions now = []) :
    (animations.advance now).carried = animations.carried := by
  apply PerLayer.ext_get
  intro layer
  rw [get_carried, get_carried, get?_advance]
  have hLayer := List.filterMap_eq_nil_iff.mp h layer layer.mem_all
  cases hGet : animations.get? layer with
  | none => rfl
  | some animation =>
      simp only [hGet] at hLayer
      have hOver : animation.isOver now = false := by
        cases hOver : animation.isOver now with
        | false => rfl
        | true => simp [hOver] at hLayer
      simp [keep?, hOver]

/-- Moving the end of an animation leaves it to the registration that it carries. -/
theorem carried_retarget (animations : Animations) (layer : Layer) (stop : Look) (now : Nat) :
    (animations.retarget layer stop now).1.carried = animations.carried := by
  unfold retarget
  split
  · rfl
  · next animation hGet =>
    rw [carried_start]
    apply PerLayer.ext_get
    intro other
    by_cases h : other = layer
    · subst h
      rw [PerLayer.get_set_self, get_carried, hGet]
      rfl
    · exact PerLayer.get_set_of_ne _ _ h

end Animations

namespace World

theorem agenda_scheduleUpdate {world : World} {agenda : Agenda} (hAgenda : world.agenda = agenda)
    (h : agenda.listening = agenda.updatePending) :
    world.scheduleUpdate.agenda = agenda.schedule := by
  subst hAgenda
  unfold scheduleUpdate
  split
  · next hPending =>
    exact (Agenda.schedule_of_pending hPending (h.trans hPending)).symm
  · rfl

/-! ## Host events -/

theorem updated_preDraw {world : World} (hAttached : world.agenda.Attached) :
    world.agenda.unschedule.Updated world.preDraw.agenda := by
  unfold preDraw
  dsimp only
  refine updated_update ?_ hAttached
  rw [agenda_notifyActive]
  rfl

theorem updated_reveal {world : World} {agenda : Agenda} (hAgenda : world.agenda = agenda)
    (hAttached : agenda.Attached) (h : agenda.blanking = .awaitingReveal) :
    agenda.reveal.Updated world.reveal.agenda := by
  subst hAgenda
  have hPhase : world.controller.blanking = .awaitingReveal := h
  unfold reveal
  simp only [hPhase, Blanking.reveal, if_true]
  exact updated_update rfl hAttached

theorem reveal_of_ne {world : World} (h : world.agenda.blanking ≠ .awaitingReveal) :
    world.reveal = world := by
  have hPhase : world.controller.blanking ≠ .awaitingReveal := h
  simp only [reveal, Blanking.reveal, if_neg hPhase]

/-- Once the black frame is on the display the reveal is queued. -/
theorem agenda_frameCommitted (world : World) :
    world.frameCommitted.agenda = world.agenda ∧ world.agenda.blanking ≠ .awaitingFrame ∨
      world.agenda.blanking = .awaitingFrame ∧ world.frameCommitted.agenda =
        { world.agenda with
          blanking := .awaitingReveal
          scheduler := world.agenda.scheduler.postDelayed .blankingTransition
            (Blanking.revealDelay world.controller.screenOn) } := by
  unfold frameCommitted Blanking.commitFrame
  dsimp only
  by_cases hPhase : world.controller.blanking = .awaitingFrame
  · refine Or.inr ⟨hPhase, ?_⟩
    simp only [hPhase, if_true, agenda_debug]
    split
    · exact agenda_notifyActive _ .displayBlanked
    · rfl
  · exact Or.inl ⟨by simp only [if_neg hPhase], hPhase⟩

end World

inductive Agenda.Delivered (agenda : Agenda) : Task → Agenda → Prop where
  /-- The task is none of a blanking, or of a phase that is over. -/
  | stray {task : Task} (commit : agenda.blanking = .awaitingFrame → task ≠ .pendingFrame)
      (reveal : agenda.blanking = .awaitingReveal → task ≠ .blankingTransition) :
      Delivered agenda task agenda
  /-- The black frame is on the display, and the reveal is queued. -/
  | committed (phase : agenda.blanking = .awaitingFrame) (delay : Nat) :
      Delivered agenda .pendingFrame { agenda with
        blanking := .awaitingReveal
        scheduler := agenda.scheduler.postDelayed .blankingTransition delay }
  /-- The display shows the targets. -/
  | revealed {after : Agenda} (phase : agenda.blanking = .awaitingReveal)
      (update : agenda.reveal.Updated after) : Delivered agenda .blankingTransition after

namespace World

theorem delivered_runTask {world : World} {agenda : Agenda} (hAgenda : world.agenda = agenda)
    (hAttached : agenda.Attached) (task : Task) :
    agenda.Delivered task (world.runTask task).agenda := by
  subst hAgenda
  cases task with
  | pendingFrame =>
      rcases agenda_frameCommitted world with ⟨hSame, hPhase⟩ | ⟨hPhase, hCommitted⟩
      · rw [runTask, hSame]
        exact .stray (fun h => absurd h hPhase) (fun _ => nofun)
      · rw [runTask, hCommitted]
        exact .committed hPhase _
  | blankingTransition =>
      by_cases hPhase : world.agenda.blanking = .awaitingReveal
      · exact .revealed hPhase (updated_reveal rfl hAttached hPhase)
      · rw [runTask, reveal_of_ne hPhase]
        exact .stray (fun _ => nofun) (fun h => absurd h hPhase)
  | scheduleWallpaperTimeout => exact .stray (fun _ => nofun) (fun _ => nofun)
  | cancelWallpaperTimeout => exact .stray (fun _ => nofun) (fun _ => nofun)

theorem agenda_hideWallpaper {world : World} {agenda : Agenda} (hAgenda : world.agenda = agenda)
    (h : agenda.listening = agenda.updatePending) :
    world.hideWallpaper.agenda =
      if world.controller.state.isLowPower then agenda.hold.schedule else agenda := by
  subst hAgenda
  unfold hideWallpaper
  split
  · exact agenda_scheduleUpdate rfl h
  · rfl

/-! ## Animation frames -/

theorem agenda_foldl_draw (frames : List Frame) (world : World) :
    (frames.foldl (fun w frame => w.draw frame.layer frame.look) world).agenda = world.agenda := by
  induction frames generalizing world with
  | nil => rfl
  | cons frame rest ih => rw [List.foldl_cons, ih, agenda_draw]

theorem agenda_showAnimations (world : World) :
    world.showAnimations.agenda = { world.agenda with
      running := (world.controller.animations.advance world.now).carried } := by
  unfold showAnimations
  exact agenda_foldl_draw ..

theorem agenda_settleOne_of_still {world : World} (registration : Option Registration)
    (hIdle : world.agenda.blanking.isPending = false) (hStill : world.agenda.moving = false) :
    ((world.settle registration).dispatchVisibility).agenda =
      world.agenda.release.forgetAny [registration] := by
  rw [agenda_dispatchVisibility, agenda_settle_of_still _ hIdle hStill,
    Agenda.forget_eq_forgetAny]

theorem agenda_settleOne_of_moving {world : World} (registration : Option Registration)
    (hMoving : world.agenda.moving = true) :
    ((world.settle registration).dispatchVisibility).agenda = world.agenda := by
  rw [agenda_dispatchVisibility, agenda_settle_of_moving _ hMoving]

/-- Every completion settles: at rest the first lets go of the wake lock, and one of the active
registration has it forgotten. -/
theorem agenda_settleAll_of_still {world : World} (completions : List Completion)
    (hIdle : world.agenda.blanking.isPending = false) (hStill : world.agenda.moving = false) :
    (world.settleAll completions).agenda =
      if completions = [] then world.agenda
      else world.agenda.release.forgetAny (completions.map (·.registration)) := by
  induction completions generalizing world with
  | nil => rfl
  | cons completion rest ih =>
      have hFirst := agenda_settleOne_of_still completion.registration hIdle hStill
      rw [settleAll, List.foldl_cons, ← settleAll,
        ih (by rw [hFirst]; exact hIdle) (by rw [hFirst]; exact hStill), hFirst]
      split
      · next hRest => simp [hRest]
      · simp [Agenda.release_forgetAny, Agenda.forgetAny_forgetAny]

theorem agenda_settleAll_of_moving {world : World} (completions : List Completion)
    (hMoving : world.agenda.moving = true) :
    (world.settleAll completions).agenda = world.agenda := by
  induction completions generalizing world with
  | nil => rfl
  | cons completion rest ih =>
      have hFirst := agenda_settleOne_of_moving completion.registration hMoving
      rw [settleAll, List.foldl_cons, ← settleAll, ih (by rw [hFirst]; exact hMoving), hFirst]

end World

inductive Agenda.Framed (agenda : Agenda) : Agenda → Prop where
  /-- Nothing ran. -/
  | still (still : agenda.moving = false) : Framed agenda agenda
  /-- Something runs on, and gets another frame. -/
  | moving {running : PerLayer (Option (Option Registration))}
      (kept : ∀ layer, running.get layer = agenda.running.get layer ∨ running.get layer = none)
      (moves : { agenda with running := running }.moving = true) :
      Framed agenda { agenda with
        running := running, scheduler := agenda.scheduler.requestFrame }
  /-- The last animations ended, and all is settled. -/
  | settled {registrations : List (Option Registration)} (ended : registrations ≠ [])
      (carried : ∀ registration ∈ registrations,
        ∃ layer, agenda.running.get layer = some registration) :
      Framed agenda
        (({ agenda with running := .splat none }).release.forgetAny registrations)

theorem Agenda.Framed.keeps {agenda after : Agenda} (framed : agenda.Framed after) :
    after.updatePending = agenda.updatePending ∧ after.blanking = agenda.blanking := by
  cases framed with
  | still still => exact ⟨rfl, rfl⟩
  | moving kept moves => exact ⟨rfl, rfl⟩
  | settled ended carried => exact ⟨rfl, rfl⟩

namespace World

/-- A frame asks for the next one if something moves on. -/
theorem agenda_animationFrame (world : World) :
    world.animationFrame.agenda =
      let settled := (world.showAnimations.settleAll
        (world.controller.animations.completions world.now)).agenda
      if settled.moving then { settled with scheduler := settled.scheduler.requestFrame }
      else settled := by
  unfold animationFrame
  dsimp only
  rw [anyAnimating_eq_moving]
  split
  · rfl
  · rfl

theorem moving_of_mem_completions {world : World} {completion : Completion}
    (h : completion ∈ world.controller.animations.completions world.now) :
    world.agenda.moving = true :=
  Agenda.moving_of_running (Animations.carried_of_mem_completions h)

theorem agenda_settleAll_of_ended {world : World} {completions : List Completion}
    (hEnded : completions ≠ []) (hIdle : world.agenda.blanking.isPending = false)
    (hStill : world.showAnimations.agenda.moving = false) :
    (world.showAnimations.settleAll completions).agenda =
      ({ world.agenda with running := .splat none }).release.forgetAny
        (completions.map Completion.registration) := by
  have hShown := agenda_showAnimations world
  have hNone : world.showAnimations.agenda = { world.agenda with running := .splat none } := by
    have hCarried := Agenda.moving_eq_false_iff.mp hStill
    rw [hShown] at hCarried ⊢
    exact congrArg (fun running => { world.agenda with running := running }) hCarried
  rw [agenda_settleAll_of_still completions (by rw [hShown]; exact hIdle) hStill,
    if_neg hEnded, hNone]

theorem framed_animationFrame {world : World} {agenda : Agenda} (hAgenda : world.agenda = agenda)
    (hCovered : agenda.blanking.isPending = true → agenda.moving = false) :
    agenda.Framed world.animationFrame.agenda := by
  subst hAgenda
  have hShown := agenda_showAnimations world
  rw [agenda_animationFrame]
  dsimp only
  cases hMoving : world.showAnimations.agenda.moving with
  | true =>
      rw [agenda_settleAll_of_moving _ hMoving, if_pos hMoving]
      rw [hShown] at hMoving ⊢
      exact .moving (fun layer => Animations.get_carried_advance _ layer world.now) hMoving
  | false =>
      cases hCompletions : world.controller.animations.completions world.now with
      | nil =>
          have hSame : world.showAnimations.agenda = world.agenda := by
            rw [hShown, Animations.carried_advance_of_completions_nil hCompletions]
            rfl
          rw [settleAll, List.foldl_nil, if_neg (ne_true_of_eq_false hMoving), hSame]
          exact .still (hSame ▸ hMoving)
      | cons completion rest =>
          have hMem : ∀ c ∈ completion :: rest,
              c ∈ world.controller.animations.completions world.now := by
            rw [hCompletions]
            exact fun _ h => h
          -- something ran, so no black frame is held
          have hRan := moving_of_mem_completions (hMem completion List.mem_cons_self)
          have hIdle : world.agenda.blanking.isPending = false :=
            Bool.of_not_eq_true fun h => absurd ((hCovered h).symm.trans hRan) Bool.false_ne_true
          rw [agenda_settleAll_of_ended (List.cons_ne_nil _ _) hIdle hMoving]
          have hStill : (Agenda.forgetAny (Agenda.release { world.agenda with
              running := .splat none })
              ((completion :: rest).map Completion.registration)).moving = false :=
            Agenda.moving_eq_false_iff.mpr rfl
          rw [if_neg (ne_true_of_eq_false hStill)]
          refine .settled (by simp) fun registration hRegistration => ?_
          obtain ⟨c, hCompleted, rfl⟩ := List.mem_map.mp hRegistration
          exact ⟨c.layer, Animations.carried_of_mem_completions (hMem c hCompleted)⟩

/-! ## Gestures -/

theorem agenda_followTarget (world : World) (layer : Layer) :
    (world.followTarget layer).agenda = world.agenda := by
  have hCarried := world.controller.animations.carried_retarget layer (world.target layer) world.now
  unfold followTarget
  split
  · split
    · exact agenda_draw ..
    · next animations look hRetarget =>
      rw [agenda_draw]
      rw [hRetarget] at hCarried
      exact congrArg (fun running => { world.agenda with running := running }) hCarried
  · rfl

/-- Drawing a gesture may start the time of the wallpaper over. -/
theorem agenda_followGesture (world : World) :
    world.followGesture.agenda = world.agenda ∨
      world.followGesture.agenda = world.agenda.post .scheduleWallpaperTimeout := by
  unfold followGesture
  simp only [List.foldl_cons, List.foldl_nil]
  generalize hMoved : (((world.followTarget .behind).followTarget .notifications).followTarget
    .front).followTarget .auxiliary = moved
  have hAgenda : moved.agenda = world.agenda := by
    rw [← hMoved]
    simp only [agenda_followTarget]
  unfold restoreWallpaper
  split
  · refine Or.inr ?_
    rw [← hAgenda]
    rfl
  · exact Or.inl hAgenda

end World

end Scrim
