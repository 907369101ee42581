import Scrim.Proofs.Guard

/-!
# The wake lock over a low-power sequence

Entering a low-power state takes the wake lock, and so does hiding the wallpaper in one. The
lock is meant to be held until the display is at rest again: no update pending, nothing running,
no black frame. It is not always. Whatever comes to rest lets go of the lock, also while the
update of the transition is still pending (`Moment.Premature`).

`World.held_throughout_iff` says that there is no other way to lose it.
-/

namespace Scrim

/-! ## Losing the lock -/

namespace Agenda

variable {agenda after : Agenda}

def still (agenda : Agenda) : Bool :=
  !(agenda.moving || agenda.blanking.isPending)

theorem still_iff : agenda.still = true ↔
    agenda.moving = false ∧ agenda.blanking.isPending = false := by
  simp [still]

/-- An update that comes to rest lets go of the lock. -/
theorem Updated.drops_lock (update : agenda.Updated after) (hStill : after.still = true) :
    after.wakeGuard.held = false := by
  obtain ⟨hMoving, hIdle⟩ := still_iff.mp hStill
  cases update with
  | held pending => exact absurd (hIdle.symm.trans pending) Bool.false_ne_true
  | blanked idle blank => exact absurd hIdle nofun
  | moving idle clear holders attached moves =>
      exact absurd (hMoving.symm.trans moves) Bool.false_ne_true
  | settled idle clear => exact held_release agenda

/-- An update that does not come to rest leaves the lock. -/
theorem Updated.keeps_lock (update : agenda.Updated after) (hHeld : agenda.wakeGuard.held = true)
    (hBusy : after.still = false) : after.wakeGuard.held = true := by
  cases update with
  | held pending => exact hHeld
  | blanked idle blank => exact hHeld
  | moving idle clear holders attached moves => exact hHeld
  | settled idle clear =>
      refine absurd (hBusy.symm.trans ?_) Bool.false_ne_true
      exact still_iff.mpr ⟨moving_eq_false_iff.mpr rfl, idle⟩

theorem Updated.updatePending_eq (update : agenda.Updated after) :
    after.updatePending = agenda.updatePending := by
  cases update with
  | held pending => rfl
  | blanked idle blank => rfl
  | moving idle clear holders attached moves => rfl
  | settled idle clear => rfl

theorem held_hold (h : agenda.wakeGuard.lock.isSome = true) :
    agenda.hold.wakeGuard.held = true := by
  obtain ⟨lock, hLock⟩ := Option.isSome_iff_exists.mp h
  unfold hold WakeGuard.hold
  cases hHeld : agenda.wakeGuard.held with
  | true => exact hHeld
  | false => simp [hLock]

theorem held_hold_of_held (h : agenda.wakeGuard.held = true) :
    agenda.hold.wakeGuard.held = true := by
  simp [hold, WakeGuard.hold, h]

theorem held_enter (h : agenda.wakeGuard.held = true) (lowPower : Bool)
    (callback : Option Registration) (blank : Bool) (task : Task) :
    (agenda.enter lowPower callback blank task).wakeGuard.held = true := by
  unfold enter
  split
  · exact held_hold_of_held h
  · exact h

/-- A transition that starts with the lock keeps it until nothing is left to be done. -/
theorem Entered.holds_lock {lowPower : Bool} (entered : agenda.Entered lowPower after)
    (hEnter : ∀ callback blank task,
      (agenda.enter lowPower callback blank task).wakeGuard.held = true)
    (hBusy : after.updatePending = false → after.still = false) :
    after.wakeGuard.held = true := by
  cases entered with
  | deferred callback blank task => exact hEnter callback blank task
  | applied callback blank task update =>
      exact update.keeps_lock (hEnter callback blank task) (hBusy update.updatePending_eq)

/-- A frame touches the lock only if something ran and has come to rest. -/
theorem Framed.ran_or_keeps_lock (framed : agenda.Framed after)
    (hCovered : agenda.blanking.isPending = true → agenda.moving = false) :
    (agenda.moving = true ∧ after.still = true) ∨ after.wakeGuard = agenda.wakeGuard := by
  cases framed with
  | still still => exact Or.inr rfl
  | moving kept moves => exact Or.inr rfl
  | @settled registrations ended carried =>
      obtain ⟨registration, hMem⟩ := List.exists_mem_of_ne_nil _ ended
      obtain ⟨layer, hLayer⟩ := carried registration hMem
      have hRan := moving_of_running hLayer
      have hIdle : agenda.blanking.isPending = false :=
        Bool.of_not_eq_true fun hPending =>
          absurd ((hCovered hPending).symm.trans hRan) Bool.false_ne_true
      exact Or.inl ⟨hRan, still_iff.mpr ⟨moving_eq_false_iff.mpr rfl, hIdle⟩⟩

end Agenda

namespace World

open Agenda

/-- No update is pending, no animation runs, and no black frame is held. -/
def AtRest (world : World) : Prop :=
  world.controller.updatePending = false ∧ world.isBusy = false

instance (world : World) : Decidable world.AtRest := inferInstanceAs (Decidable (_ ∧ _))

theorem isBusy_eq (world : World) : world.isBusy = !world.agenda.still := by
  rw [isBusy, anyAnimating_eq_moving, still, Bool.not_not]
  rfl

theorem isBusy_of_still {world : World} (h : world.agenda.still = true) : world.isBusy = false := by
  rw [isBusy_eq, h]
  rfl

/-- Short of rest, something moves as soon as no update is pending. -/
theorem still_of_unrest {world : World} (h : ¬world.AtRest) :
    world.agenda.updatePending = false → world.agenda.still = false := by
  intro hDone
  by_contra hMoves
  exact h ⟨hDone, isBusy_of_still (Bool.of_not_eq_false hMoves)⟩

/-- An event after which the scrims have come to rest: an animation that ran has ended, an
awaited reveal moves nothing, or an update that a request runs at once moves nothing. -/
def Settles (before : World) (event : Event) (after : World) : Prop :=
  after.isBusy = false ∧
    match event with
    | .host .animationFrame => before.controller.animations.anyAnimating = true
    | .host (.task .blankingTransition) => before.controller.blanking = .awaitingReveal
    | .request operation => operation.updates before = true
    | _ => False

/-- The moment comes to rest while an update is still pending. -/
def Moment.Premature (moment : Moment) : Prop :=
  moment.after.controller.updatePending = true ∧
    Settles moment.before moment.event moment.after

/-- The moment takes the wake lock: a low-power state is entered, or the wallpaper is hidden in
one. -/
def Moment.TakesLock (moment : Moment) : Prop :=
  (∃ state callback, moment.event = .request (.transition state callback) ∧
    state ≠ moment.before.controller.state ∧ state.isLowPower = true) ∨
  ((moment.event = .alarm ∨ moment.event = .request .wallpaperTimeout) ∧
    moment.before.controller.state.isLowPower = true)

/-- Coming to rest lets go of the lock. -/
theorem Step.drops_lock {before after : World} {event : Event} (step : Step before event after)
    (h : before.agenda.Driven) (settles : Settles before event after) :
    after.controller.wakeGuard.held = false := by
  obtain ⟨hRest, hEvent⟩ := settles
  have hStill : after.agenda.still = true := by
    rw [isBusy_eq] at hRest
    simpa using hRest
  have hStepped := step.stepped_of_driven h
  show after.agenda.wakeGuard.held = false
  generalize after.agenda = agenda at hStepped hStill
  cases hStepped with
  | @requested operation _ other request =>
      have hUpdates : operation.updates before = true := hEvent
      rw [hUpdates] at request
      cases request with
      | updated update => exact update.drops_lock hStill
      | revealed phase update => exact update.drops_lock hStill
  | confirmed active => cases hEvent
  | entered other entered => cases hEvent
  | clock time => cases hEvent
  | alarm => cases hEvent
  | @task task scheduler _ due delivered =>
      cases delivered with
      | stray commit reveal =>
          cases task with
          | blankingTransition => exact absurd rfl (reveal hEvent)
          | pendingFrame => cases hEvent
          | scheduleWallpaperTimeout => cases hEvent
          | cancelWallpaperTimeout => cases hEvent
      | committed phase delay => cases hEvent
      | revealed phase update => exact update.drops_lock hStill
  | animationFrame framed =>
      have hRan : before.agenda.moving = true := by
        rw [← anyAnimating_eq_moving]
        exact hEvent
      cases framed with
      | still still => exact absurd (still.symm.trans hRan) Bool.false_ne_true
      | moving kept moves =>
          exact absurd ((still_iff.mp hStill).1.symm.trans moves) Bool.false_ne_true
      | settled ended carried => exact held_release _
  | preDraw update => cases hEvent

/-- Nothing else lets go of the lock before the display is at rest. -/
theorem Step.keeps_lock {before after : World} {event : Event} (step : Step before event after)
    (h : before.agenda.Driven) (hHeld : before.controller.wakeGuard.held = true)
    (hUnrest : ¬after.AtRest) (hPrompt : ¬Moment.Premature ⟨before, event, after⟩) :
    after.controller.wakeGuard.held = true := by
  have hHeld : before.agenda.wakeGuard.held = true := hHeld
  have hStepped := step.stepped_of_driven h
  have hBusy := still_of_unrest hUnrest
  have hRest : after.agenda.still = true → after.isBusy = false := isBusy_of_still
  -- an event that settles leaves the pending update only, so it is premature
  have hNever : ¬Settles before event after := by
    intro settles
    cases hPending : after.controller.updatePending with
    | true => exact hPrompt ⟨hPending, settles⟩
    | false => exact hUnrest ⟨hPending, settles.1⟩
  show after.agenda.wakeGuard.held = true
  generalize after.agenda = agenda at hStepped hBusy hRest ⊢
  cases hStepped with
  | @requested operation _ other request =>
      generalize hUpdates : operation.updates before = updates at request
      have hMoves : updates = true → agenda.still = false := by
        intro hUpdate
        by_contra hMoves
        exact hNever ⟨hRest (Bool.of_not_eq_false hMoves), hUpdates.trans hUpdate⟩
      cases request with
      | same => exact hHeld
      | wired => exact hHeld
      | scheduled => exact hHeld
      | awake => exact held_hold_of_held hHeld
      | posted => exact hHeld
      | updated update => exact update.keeps_lock hHeld (hMoves rfl)
      | revealed phase update => exact update.keeps_lock hHeld (hMoves rfl)
  | confirmed active => exact hHeld
  | entered other entered => exact entered.holds_lock (held_enter hHeld _) hBusy
  | clock time => exact hHeld
  | alarm =>
      split
      · exact held_hold_of_held hHeld
      · exact hHeld
  | task due delivered =>
      cases delivered with
      | stray commit reveal => exact hHeld
      | committed phase delay => exact hHeld
      | revealed phase update =>
          refine update.keeps_lock hHeld ?_
          by_contra hMoves
          exact hNever ⟨hRest (Bool.of_not_eq_false hMoves), phase⟩
  | animationFrame framed =>
      rcases framed.ran_or_keeps_lock h.covered with ⟨hRan, hStill⟩ | hKept
      · exact absurd ⟨hRest hStill, (anyAnimating_eq_moving before).trans hRan⟩ hNever
      · rw [hKept]
        exact hHeld
  | preDraw update => exact update.keeps_lock hHeld (hBusy update.updatePending_eq)

/-- The lock is taken, unless the transition was over at once. -/
theorem Step.takes_lock {before after : World} {event : Event} (step : Step before event after)
    (h : before.agenda.Driven) (hLock : before.controller.wakeGuard.lock.isSome = true)
    (hTakes : Moment.TakesLock ⟨before, event, after⟩) (hUnrest : ¬after.AtRest) :
    after.controller.wakeGuard.held = true := by
  have hLock : before.agenda.wakeGuard.lock.isSome = true := hLock
  have hStepped := step.stepped_of_driven h
  have hBusy := still_of_unrest hUnrest
  show after.agenda.wakeGuard.held = true
  rcases hTakes with ⟨state, callback, rfl, hOther, hLow⟩ | ⟨rfl | rfl, hLow⟩
  · generalize after.agenda = agenda at hStepped hBusy ⊢
    cases hStepped with
    | requested other request => exact absurd rfl (other _ _)
    | confirmed active => exact absurd active hOther
    | entered other entered =>
        rw [hLow] at entered
        exact entered.holds_lock (fun _ _ _ => held_hold hLock) hBusy
  · generalize after.agenda = agenda at hStepped ⊢
    cases hStepped with
    | alarm =>
        rw [if_pos hLow]
        exact held_hold hLock
  · cases step with
    | request accepted =>
        show before.hideWallpaper.agenda.wakeGuard.held = true
        rw [agenda_hideWallpaper rfl h.listens, if_pos hLow]
        exact held_hold hLock

/-! ## The whole sequence -/

/-- A held lock is kept while nothing comes to rest early. -/
theorem Run.keeps_lock {start last : World} {moments : List Moment}
    (run : Run start moments last) (h : start.agenda.Driven)
    (hHeld : start.controller.wakeGuard.held = true)
    (unrest : ∀ moment ∈ moments, ¬moment.after.AtRest)
    (prompt : ∀ moment ∈ moments, ¬moment.Premature) :
    ∀ moment ∈ moments, moment.after.controller.wakeGuard.held = true := by
  have hKept := run.invariant_while
    (fun world => world.agenda.Driven ∧ world.controller.wakeGuard.held = true)
    (fun moment => ¬moment.after.AtRest ∧ ¬moment.Premature)
    (fun _ _ _ hInv step hGood =>
      ⟨step.driven hInv.1, step.keeps_lock hInv.1 hInv.2 hGood.1 hGood.2⟩)
    ⟨h, hHeld⟩ fun moment hMem => ⟨unrest moment hMem, prompt moment hMem⟩
  exact fun moment hMem => (hKept.2 moment hMem).2

/-- What comes to rest early has lost the lock. -/
theorem Run.not_premature {start last : World} {moments : List Moment}
    (run : Run start moments last) (h : start.agenda.Driven)
    (held : ∀ moment ∈ moments, moment.after.controller.wakeGuard.held = true) :
    ∀ moment ∈ moments, ¬moment.Premature := by
  intro moment hMem hPremature
  have hDriven := run.invariant_before (fun world => world.agenda.Driven)
    (fun _ _ _ h step => step.driven h) h moment hMem
  have hDropped := (run.step moment hMem).drops_lock hDriven hPremature.2
  exact absurd (hDropped.symm.trans (held moment hMem)) Bool.false_ne_true

/-- From the moment that takes the wake lock until the display is at rest, the lock is held at
every boundary exactly if nothing comes to rest while an update is pending. -/
theorem held_throughout_iff {settings : Settings} {options : SimulationOptions}
    (wired : options.wakeLock = true) {before middle last : World} {event : Event}
    {moments : List Moment} (reachable : Reachable settings options before)
    (step : Step before event middle) (takes : Moment.TakesLock ⟨before, event, middle⟩)
    (run : Run middle moments last)
    (unrest : ∀ world ∈ middle :: moments.map (·.after), ¬world.AtRest) :
    (∀ world ∈ middle :: moments.map (·.after), world.controller.wakeGuard.held = true) ↔
      ∀ moment ∈ moments, ¬moment.Premature := by
  have hDriven := reachable.driven
  have hHeld := step.takes_lock hDriven (reachable.wired wired) takes
    (unrest middle List.mem_cons_self)
  have hUnrest : ∀ moment ∈ moments, ¬moment.after.AtRest := fun moment hMem =>
    unrest _ (List.mem_cons_of_mem _ (List.mem_map_of_mem hMem))
  constructor
  · intro hAll
    exact run.not_premature (step.driven hDriven) fun moment hMem =>
      hAll _ (List.mem_cons_of_mem _ (List.mem_map_of_mem hMem))
  · intro hPrompt world hMem
    rcases List.mem_cons.mp hMem with rfl | hMem
    · exact hHeld
    · obtain ⟨moment, hMoment, rfl⟩ := List.mem_map.mp hMem
      exact run.keeps_lock (step.driven hDriven) hHeld hUnrest hPrompt moment hMoment

def blankingDoze : Settings where
  doze := { displayNeedsBlanking := true }

set_option maxRecDepth 100000 in
/-- Into the always-on display, up to the black frame: the lock is held. -/
theorem held_throughout_blank_frame : ∃ before middle last, Reachable blankingDoze {} before ∧
    Step before (.request (.transition .aod none)) middle ∧
    Run middle [⟨middle, .host .preDraw, last⟩] last ∧ last.controller.blanking = .awaitingFrame ∧
    ∀ world ∈ [middle, last], world.controller.wakeGuard.held = true := by
  have hPlayed : (Simulation.play blankingDoze {} []).any (fun simulation =>
      simulation.world.controller.state ≠ .aod &&
        (simulation.world.undergo (.request (.transition .aod none))).any fun middle =>
        (middle.undergo (.host .preDraw)).any fun last =>
          middle.controller.updatePending && last.controller.blanking = .awaitingFrame) =
        true := by
    decide +kernel
  obtain ⟨simulation, hPlay, hEnters⟩ := (Option.any_eq_true _ _).mp hPlayed
  obtain ⟨hOther, hEnters⟩ := Bool.and_eq_true_iff.mp hEnters
  obtain ⟨middle, hEnter, hDraws⟩ := (Option.any_eq_true _ _).mp hEnters
  obtain ⟨last, hDraw, hFacts⟩ := (Option.any_eq_true _ _).mp hDraws
  simp only [Bool.and_eq_true, decide_eq_true_eq] at hOther hFacts
  obtain ⟨hPending, hBlank⟩ := hFacts
  have hReachable := (Simulation.reached_play hPlay).reachable
  have hStep := step_iff_undergo.mpr hEnter
  have hRun := Run.nil.snoc (step_iff_undergo.mpr hDraw)
  refine ⟨simulation.world, middle, last, hReachable, hStep, hRun, hBlank, ?_⟩
  refine (held_throughout_iff rfl hReachable hStep (Or.inl ⟨_, _, rfl, Ne.symm hOther, rfl⟩) hRun
    fun world hMem hRest => ?_).mpr fun moment hMem hPremature => ?_
  · rcases List.mem_cons.mp hMem with rfl | hMem
    · exact absurd (hRest.1.symm.trans hPending) Bool.false_ne_true
    · obtain rfl := List.mem_singleton.mp hMem
      have hIdle := (Bool.or_eq_false_iff.mp hRest.2).2
      rw [hBlank] at hIdle
      cases hIdle
  · obtain rfl := List.mem_singleton.mp hMem
    exact hPremature.2.2

def fadelessWallpaper : Settings where
  doze := { alwaysOn := true, controlsScreenOff := false, wallpaperFadeOutDuration := 0 }

set_option maxRecDepth 100000 in
/-- A pulse begins while the wallpaper fades. The last frame of the fade lets go of the lock before
the update of the pulse is made, so the pulse shows the wallpaper again without the lock. -/
theorem lock_dropped_before_pulse : ∃ before middle last moments,
    Reachable fadelessWallpaper { auxiliary := false } before ∧
    Step before (.request (.transition .pulsing none)) middle ∧
    Moment.TakesLock ⟨before, .request (.transition .pulsing none), middle⟩ ∧
    Run middle moments last ∧ (∀ world ∈ middle :: moments.map (·.after), ¬world.AtRest) ∧
    (∃ moment ∈ moments, moment.after.controller.updatePending = true ∧
      moment.after.controller.wakeGuard.held = false) ∧
    last.controller.animations.isAnimating .behind = true ∧
    last.controller.wakeGuard.held = false := by
  have hPlayed : (Simulation.play fadelessWallpaper { auxiliary := false }
      [.perform (.expansionAffectsAlpha false), .perform (.ambientWallpaper true),
        .perform (.transition .aod none), .perform .wallpaperTimeout, .advance 0]).any
      (fun simulation => simulation.world.controller.state ≠ .pulsing &&
        (simulation.world.undergo (.request (.transition .pulsing none))).any fun middle =>
        (middle.follow [.host (.task .cancelWallpaperTimeout), .clock (Time.ofMillis 16),
            .host .animationFrame, .host .preDraw]).any
          fun followed : List Moment × World => decide
            ((∀ world ∈ middle :: followed.1.map Moment.after, ¬world.AtRest) ∧
              (∃ moment ∈ followed.1, moment.after.controller.updatePending = true ∧
                moment.after.controller.wakeGuard.held = false) ∧
              followed.2.controller.animations.isAnimating .behind = true ∧
              followed.2.controller.wakeGuard.held = false)) = true := by
    decide +kernel
  obtain ⟨simulation, hPlay, hEnters⟩ := (Option.any_eq_true _ _).mp hPlayed
  obtain ⟨hOther, hEnters⟩ := Bool.and_eq_true_iff.mp hEnters
  obtain ⟨middle, hStep, hFollows⟩ := (Option.any_eq_true _ _).mp hEnters
  obtain ⟨⟨moments, last⟩, hRun, hFacts⟩ := (Option.any_eq_true _ _).mp hFollows
  exact ⟨simulation.world, middle, last, moments, (Simulation.reached_play hPlay).reachable,
    step_iff_undergo.mpr hStep, Or.inl ⟨_, _, rfl, Ne.symm (of_decide_eq_true hOther), rfl⟩,
    run_follow hRun, of_decide_eq_true hFacts⟩

end World

end Scrim
