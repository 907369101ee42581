import Scrim.Proofs.Opacity

/-!
# What spoils an opacity

A moment writes an opacity out of range in one of four ways, listed by `Moment.Spoils`: with the
frame of an animation, with the last frame of an unlock, with a gesture that is followed, or with an
update that is not animated. A transition into another state is none of them, even if its update
runs at once, since its targets are checked first; and a refused request draws nothing.

`World.opacities_in_range_iff` says that there are no other ways.
-/

namespace Scrim

/-- Whether an event is a gesture that is followed at once. -/
def Event.follows (event : Event) (before : World) : Bool :=
  match event with
  | .request operation => (operation.run before).error.isNone && operation.drawsGesture before
  | _ => false

/-- Whether an event other than a transition has an update run at once. -/
def Event.updates (event : Event) (before : World) : Bool :=
  match event with
  | .request operation => (operation.run before).error.isNone && operation.updates before
  | .host .preDraw => true
  | .host (.task .blankingTransition) => before.controller.blanking = .awaitingReveal
  | _ => false

namespace World

/-- A moment that draws a layer with something else than a number. -/
inductive Moment.Spoils : Moment → Prop where
  /-- The frame of an animation shows it. -/
  | frame {before after : World} (nan : ¬∀ layer, before.ShowsNumber layer) :
      Spoils ⟨before, .host .animationFrame, after⟩
  /-- With the last frame of an unlock the targets are drawn. -/
  | unlock {before after : World} (rests : before.comesToRest = true)
      (unlocked : before.controller.state = .unlocked) (nan : ¬before.AimsAtNumbers) :
      Spoils ⟨before, .host .animationFrame, after⟩
  | gesture {before after : World} {event : Event} (follows : event.follows before = true)
      (nan : after.Misfollowed) : Spoils ⟨before, event, after⟩
  | update {before after : World} {event : Event} (updates : event.updates before = true)
      (nan : after.Misdrawn) : Spoils ⟨before, event, after⟩

variable {world : World}

theorem Spares.wellDrawn {after : World} (spares : world.Spares after) :
    after.WellDrawn ↔ world.WellDrawn := by
  refine wellDrawn_congr fun layer hLayer => ?_
  unfold written
  rw [spares.surface layer hLayer]

theorem not_misdrawn_of_sound (h : world.controller.targets.Sound) : ¬world.Misdrawn :=
  fun hMisdrawn => hMisdrawn.nan (aimsAtNumbers_of_sound h)

/-! ## What a request draws -/

/-- A request that draws exactly if `draws`, and spoils an opacity exactly if it then leaves the
world `Bad`. -/
def DrawsWhen (world : World) (draws : Bool) (Bad : World → Prop) (after : World) : Prop :=
  after.WellDrawn ↔ world.WellDrawn ∧ (draws = true → ¬Bad after)

namespace DrawsWhen

variable {Bad : World → Prop} {after : World}

theorem of_same (h : after.WellDrawn ↔ world.WellDrawn) : world.DrawsWhen false Bad after :=
  h.trans (and_iff_left (absurd · Bool.false_ne_true)).symm

theorem of_drawn (h : after.WellDrawn ↔ world.WellDrawn ∧ ¬Bad after) :
    world.DrawsWhen true Bad after :=
  h.trans (and_congr_right fun _ => ⟨fun h _ => h, fun h => h rfl⟩)

theorem of_changed {changed : World} {draws : Bool} (h : changed.DrawsWhen draws Bad after)
    (same : changed.WellDrawn ↔ world.WellDrawn) : world.DrawsWhen draws Bad after :=
  h.trans (and_congr same Iff.rfl)

theorem of_update {changed : World} (hAttached : changed.agenda.Attached)
    (h : changed.WellDrawn ↔ world.WellDrawn) :
    world.DrawsWhen true Misdrawn changed.update :=
  (of_drawn (wellDrawn_update hAttached)).of_changed h

end DrawsWhen

/-! ## Gestures -/

theorem drawsWhen_applyGesture (accepted : world.applyGesture.error = none) :
    world.DrawsWhen (!world.controller.updatePending) Misfollowed world.applyGesture.world := by
  unfold applyGesture overlayGesture at accepted ⊢
  dsimp only at accepted ⊢
  split
  · next hOverlay => simp [hOverlay] at accepted
  · next hOverlay =>
    obtain ⟨rfl, -⟩ := Outcome.mk.inj hOverlay
    dsimp only
    cases world.controller.updatePending with
    | true => exact .of_same Iff.rfl
    | false => exact .of_drawn (wellDrawn_followGesture _)

theorem drawsWhen_ite {counts : Bool}
    (accepted : (if counts then world.applyGesture else { world := world }).error = none) :
    world.DrawsWhen (!world.controller.updatePending && counts) Misfollowed
      (if counts then world.applyGesture else { world := world }).world := by
  cases counts with
  | true =>
      rw [Bool.and_true]
      exact drawsWhen_applyGesture accepted
  | false =>
      rw [Bool.and_false]
      exact .of_same Iff.rfl

theorem drawsWhen_setPanelExpansion {fraction : Float32}
    (accepted : (world.setPanelExpansion fraction).error = none) :
    world.DrawsWhen (Operation.drawsGesture (.panelExpansion fraction) world) Misfollowed
      (world.setPanelExpansion fraction).world := by
  unfold setPanelExpansion at accepted ⊢
  unfold Operation.drawsGesture
  dsimp only
  generalize world.controller.expansion.setPanel fraction = moved at accepted ⊢
  rcases moved with error | ⟨expansion, _ | _⟩
  · cases accepted
  · rw [Bool.and_false]
    exact .of_same Iff.rfl
  · exact drawsWhen_ite accepted

theorem drawsWhen_setQuickSettings {fraction : Float32} {panelBottom : Int}
    (accepted : (world.setQuickSettings fraction panelBottom).error = none) :
    world.DrawsWhen (Operation.drawsGesture (.quickSettings fraction panelBottom) world)
      Misfollowed (world.setQuickSettings fraction panelBottom).world := by
  have hDrawn := (spares_followNotifications world fraction panelBottom).wellDrawn
  obtain ⟨targets, surfaces, -, hFollowed⟩ := followNotifications_eq world fraction panelBottom
  unfold setQuickSettings at accepted ⊢
  rw [hFollowed] at accepted hDrawn ⊢
  unfold Operation.drawsGesture
  dsimp only at accepted ⊢
  cases hNaN : fraction.isNaN with
  | true =>
      simp only [Expansion.setQuickSettings, hNaN, Bool.true_or, if_true, Bool.and_false]
      exact .of_same Iff.rfl
  | false =>
      simp only [hNaN, Bool.false_eq_true, if_false] at accepted ⊢
      generalize world.controller.expansion.setQuickSettings fraction = moved at accepted ⊢
      rcases moved with ⟨expansion, _ | _⟩
      · rw [Bool.and_false]
        exact .of_same hDrawn
      · exact (drawsWhen_ite accepted).of_changed hDrawn

/-! ## Requests -/

theorem drawsWhen_refreshBehind (hAttached : world.agenda.Attached)
    (accepted : world.refreshBehind.error = none) :
    world.DrawsWhen world.movesBehind Misdrawn world.refreshBehind.world := by
  unfold refreshBehind at accepted ⊢
  unfold movesBehind
  dsimp only at accepted ⊢
  split
  · next hSame =>
    rw [hSame]
    exact .of_same Iff.rfl
  · next hMoves =>
    rw [if_neg hMoves] at accepted
    rw [Bool.of_not_eq_true hMoves]
    split
    · next hError => simp [hError] at accepted
    · dsimp only
      exact .of_update hAttached Iff.rfl

theorem drawsWhen_setAodFrontAlpha {alpha : Float32} (hAttached : world.agenda.Attached)
    (accepted : (world.setAodFrontAlpha alpha).error = none) :
    world.DrawsWhen (Operation.updates (.aodFrontAlpha alpha) world) Misdrawn
      (world.setAodFrontAlpha alpha).world := by
  unfold setAodFrontAlpha at accepted ⊢
  dsimp only [Operation.updates] at accepted ⊢
  split
  · next hNaN =>
    rw [if_pos hNaN] at accepted
    cases accepted
  · split
    · next hApplies =>
      rw [hApplies]
      dsimp only
      exact .of_update hAttached Iff.rfl
    · next hHidden =>
      rw [Bool.of_not_eq_true hHidden]
      exact .of_same Iff.rfl

theorem drawsWhen_setScreenSensor {active : Bool} (hAttached : world.agenda.Attached)
    (accepted : (world.setScreenSensor active).error = none) :
    world.DrawsWhen (Operation.updates (.screenSensor active) world) Misdrawn
      (world.setScreenSensor active).world := by
  unfold setScreenSensor at accepted ⊢
  dsimp only [Operation.updates] at accepted ⊢
  split
  · next hPulses =>
    rw [if_pos hPulses] at accepted
    rw [decide_eq_true (show world.controller.state = .pulsing from hPulses), Bool.true_and]
    exact drawsWhen_refreshBehind hAttached accepted
  · next hElse =>
    rw [decide_eq_false (show ¬world.controller.state = .pulsing from hElse), Bool.false_and]
    exact .of_same Iff.rfl

theorem drawsWhen_setBackdrop {visible : Bool} (hAttached : world.agenda.Attached)
    (accepted : (world.setBackdrop visible).error = none) :
    world.DrawsWhen (Operation.updates (.backdrop visible) world) Misdrawn
      (world.setBackdrop visible).world := by
  unfold setBackdrop at accepted ⊢
  dsimp only [Operation.updates] at accepted ⊢
  split
  · next hDozes =>
    rw [if_pos hDozes] at accepted
    rw [show world.controller.state.isLowPower = true from hDozes, Bool.true_and]
    exact drawsWhen_refreshBehind hAttached accepted
  · next hElse =>
    rw [show world.controller.state.isLowPower = false from Bool.of_not_eq_true hElse,
      Bool.false_and]
    exact .of_same Iff.rfl

theorem drawsWhen_screenTurnedOn (hAttached : world.agenda.Attached) :
    world.DrawsWhen (Operation.updates .screenOn world) Misdrawn world.screenTurnedOn := by
  unfold screenTurnedOn Blanking.expediteReveal
  dsimp only [Operation.updates]
  by_cases h : (world.controller.blanking = .awaitingReveal &&
      world.host.scheduler.hasPending .blankingTransition) = true
  · have hPhase : world.controller.blanking = .awaitingReveal :=
      of_decide_eq_true (Bool.and_eq_true_iff.mp h).1
    simp only [h, if_true]
    refine (wellDrawn_reveal ?_).trans (and_congr_right fun _ => ?_)
    · exact hAttached
    · exact ⟨fun h _ => h hPhase, fun h _ => h rfl⟩
  · rw [if_neg h, Bool.of_not_eq_true h]
    exact .of_same Iff.rfl

/-! ## Transitions -/

/-- The targets of an accepted transition are checked, so they may be drawn at once. -/
theorem wellDrawn_completeTransition (hAttached : world.agenda.Attached)
    (h : world.controller.targets.Sound) (previous : State) :
    (world.completeTransition previous).WellDrawn ↔ world.WellDrawn := by
  have applied : ∀ w : World, w.agenda.Attached → w.controller.targets.Sound →
      ((w.applyTransition previous).WellDrawn ↔ w.WellDrawn) := by
    intro w hAttached h
    unfold applyTransition
    split
    · exact wellDrawn_scheduleUpdate _
    · split
      · rw [wellDrawn_preDraw hAttached]
        exact and_iff_left (not_misdrawn_of_sound (sound_preDraw h))
      · exact wellDrawn_scheduleUpdate _
  unfold completeTransition
  extract_lets abandoned state controller marked awake complete
  have hAwake : awake.restartWallpaper.agenda.Attached ∧
      awake.restartWallpaper.controller.targets.Sound ∧
      (awake.restartWallpaper.WellDrawn ↔ world.WellDrawn) := by
    dsimp only [awake]
    split
    · exact ⟨hAttached, h, Iff.rfl⟩
    · exact ⟨hAttached, h, Iff.rfl⟩
  rw [wellDrawn_of_silent (silent_dispatchState ..), applied _ hAwake.1 hAwake.2.1]
  exact hAwake.2.2

theorem wellDrawn_transition {state : State} {callback : Option Callback}
    (hAttached : world.agenda.Attached)
    (accepted : (world.transition state callback).error = none) :
    (world.transition state callback).world.WellDrawn ↔ world.WellDrawn := by
  by_cases hActive : state = world.controller.state
  · rw [transition_of_active hActive accepted]
    exact wellDrawn_of_silent (silent_confirm world callback)
  · obtain ⟨targets, hSound, hTransition⟩ := transition_of_sound hActive accepted
    obtain ⟨registration, blank, hEnter⟩ := agenda_enter world state callback
    have hEntered := (spares_enter world state callback).wellDrawn
    rw [hTransition]
    generalize world.enter state callback = entered at hEnter hEntered ⊢
    have hOverlaid : World.agenda { entered with controller.targets := targets } =
        { world.agenda with callback := registration, blankScreen := blank } := hEnter
    refine (wellDrawn_completeTransition ?_ hSound _).trans hEntered
    rw [hOverlaid]
    exact hAttached

/-! ## Accepted requests -/

theorem drawsWhen_gesture {operation : Operation} (hGesture : operation.isGesture = true)
    (accepted : (operation.run world).error = none) :
    world.DrawsWhen (operation.drawsGesture world) Misfollowed (operation.run world).world := by
  cases operation with
  | panelExpansion fraction => exact drawsWhen_setPanelExpansion accepted
  | quickSettings fraction panelBottom => exact drawsWhen_setQuickSettings accepted
  | expansionAffectsAlpha affects => exact drawsWhen_ite accepted
  | _ => cases hGesture

theorem drawsWhen_run {operation : Operation} (hOther : operation.isGesture = false)
    (hAttached : world.agenda.Attached) (accepted : (operation.run world).error = none) :
    world.DrawsWhen (operation.updates world) Misdrawn (operation.run world).world := by
  cases operation with
  | panelExpansion _ => cases hOther
  | quickSettings _ _ => cases hOther
  | expansionAffectsAlpha _ => cases hOther
  | transition state callback => exact .of_same (wellDrawn_transition hAttached accepted)
  | aodFrontAlpha alpha => exact drawsWhen_setAodFrontAlpha hAttached accepted
  | screenSensor active => exact drawsWhen_setScreenSensor hAttached accepted
  | backdrop visible => exact drawsWhen_setBackdrop hAttached accepted
  | keyguardOccluded occluded =>
      rw [Operation.run, setKeyguardOccluded]
      exact .of_update hAttached Iff.rfl
  | keyguardAlpha alpha =>
      simp only [Operation.run, setKeyguardAlpha]
      split
      · exact .of_same Iff.rfl
      · exact .of_same (wellDrawn_scheduleUpdate _)
  | theme palette => exact .of_same (wellDrawn_scheduleUpdate _)
  | themeChanged => exact .of_same (wellDrawn_scheduleUpdate _)
  | keyguardVisibility showing => exact .of_same (wellDrawn_scheduleUpdate _)
  | screenOn => exact drawsWhen_screenTurnedOn hAttached
  | wallpaperTimeout => exact .of_same (wellDrawn_hideWallpaper world)
  | _ => exact .of_same Iff.rfl

/-- No request is followed as a gesture and has an update run. -/
theorem wellDrawn_run {operation : Operation} (hAttached : world.agenda.Attached)
    (accepted : (operation.run world).error = none) :
    (operation.run world).world.WellDrawn ↔ world.WellDrawn ∧
      (operation.drawsGesture world = true → ¬(operation.run world).world.Misfollowed) ∧
      (operation.updates world = true → ¬(operation.run world).world.Misdrawn) := by
  cases hGesture : operation.isGesture with
  | true =>
      have hUpdates : operation.updates world = false := by
        cases operation with
        | panelExpansion _ => rfl
        | quickSettings _ _ => rfl
        | expansionAffectsAlpha _ => rfl
        | _ => cases hGesture
      refine (drawsWhen_gesture hGesture accepted).trans (and_congr_right fun _ => ?_)
      exact (and_iff_left (absurd · (ne_true_of_eq_false hUpdates))).symm
  | false =>
      have hDraws : operation.drawsGesture world = false := by
        cases operation with
        | panelExpansion _ => cases hGesture
        | quickSettings _ _ => cases hGesture
        | expansionAffectsAlpha _ => cases hGesture
        | _ => exact Bool.and_false _
      refine (drawsWhen_run hGesture hAttached accepted).trans (and_congr_right fun _ => ?_)
      exact (and_iff_right (absurd · (ne_true_of_eq_false hDraws))).symm

/-! ## Attempts -/

theorem wellDrawn_frameCommitted (world : World) :
    world.frameCommitted.WellDrawn ↔ world.WellDrawn := by
  have told (w : World) : (w.notifyActive .displayBlanked).WellDrawn ↔ w.WellDrawn :=
    wellDrawn_of_silent (silent_notifyActive ..)
  unfold frameCommitted
  dsimp only
  split
  · exact Iff.rfl
  · split
    · exact told _
    · exact Iff.rfl

/-- Apart from the frame of an animation, a moment spoils what a gesture or an update draws. -/
theorem Moment.not_spoils_iff {before after : World} (event : Event)
    (hFrame : event ≠ .host .animationFrame) : ¬Spoils ⟨before, event, after⟩ ↔
      (event.follows before = true → ¬after.Misfollowed) ∧
        (event.updates before = true → ¬after.Misdrawn) := by
  constructor
  · intro hSpares
    exact ⟨fun hFollows hNaN => hSpares (.gesture hFollows hNaN),
      fun hUpdates hNaN => hSpares (.update hUpdates hNaN)⟩
  · rintro ⟨hFollowed, hUpdated⟩ hSpoils
    cases hSpoils with
    | frame nan => exact hFrame rfl
    | unlock rests unlocked nan => exact hFrame rfl
    | gesture follows nan => exact hFollowed follows nan
    | update updates nan => exact hUpdated updates nan

theorem Moment.not_spoils_animationFrame_iff {before after : World} :
    ¬Spoils ⟨before, .host .animationFrame, after⟩ ↔ (∀ layer, before.ShowsNumber layer) ∧
      (before.comesToRest = true → before.controller.state = .unlocked →
        before.AimsAtNumbers) := by
  constructor
  · intro hSpares
    refine ⟨?_, fun hRests hUnlocked => ?_⟩
    · by_contra hNaN
      exact hSpares (.frame hNaN)
    · by_contra hNaN
      exact hSpares (.unlock hRests hUnlocked hNaN)
  · rintro ⟨hShown, hUnlocked⟩ hSpoils
    cases hSpoils with
    | frame nan => exact nan hShown
    | unlock rests unlocked nan => exact nan (hUnlocked rests unlocked)
    | gesture follows nan => cases follows
    | update updates nan => cases updates

theorem Step.wellDrawn_iff {before after : World} {event : Event} (step : Step before event after)
    (h : before.agenda.Steady) :
    after.WellDrawn ↔ before.WellDrawn ∧ ¬Moment.Spoils ⟨before, event, after⟩ := by
  -- what neither follows a gesture nor has an update run
  have still (hDrawn : after.WellDrawn ↔ before.WellDrawn) (hFrame : event ≠ .host .animationFrame)
      (hFollows : event.follows before = false) (hUpdates : event.updates before = false) :
      after.WellDrawn ↔ before.WellDrawn ∧ ¬Moment.Spoils ⟨before, event, after⟩ := by
    rw [Moment.not_spoils_iff event hFrame, hFollows, hUpdates, hDrawn]
    exact (and_iff_left ⟨nofun, nofun⟩).symm
  cases step with
  | @request operation accepted =>
      have hEvent : Option.isNone (operation.run before).error = true := by rw [accepted]; rfl
      rw [Moment.not_spoils_iff (.request operation) nofun, wellDrawn_run h.attached accepted]
      simp only [Event.follows, Event.updates, hEvent, Bool.true_and]
  | clock time => exact still Iff.rfl nofun rfl rfl
  | alarm due => exact still (wellDrawn_hideWallpaper _) nofun rfl rfl
  | @task task scheduler due =>
      cases task with
      | pendingFrame => exact still (wellDrawn_frameCommitted _) nofun rfl rfl
      | blankingTransition =>
          have hDrawn := @wellDrawn_reveal { before with host.scheduler := scheduler } h.attached
          rw [Moment.not_spoils_iff (.host (.task .blankingTransition)) nofun]
          refine hDrawn.trans (and_congr Iff.rfl ⟨fun hUpdated => ⟨nofun, ?_⟩, ?_⟩)
          · exact fun hPhase => hUpdated (of_decide_eq_true hPhase)
          · exact fun hUpdated hPhase => hUpdated.2 (decide_eq_true hPhase)
      | scheduleWallpaperTimeout => exact still Iff.rfl nofun rfl rfl
      | cancelWallpaperTimeout => exact still Iff.rfl nofun rfl rfl
  | animationFrame requested =>
      have hDrawn := @wellDrawn_animationFrame { before with
        host.scheduler := before.host.scheduler.takeFrameRequest.2 } h.covered
      rw [Moment.not_spoils_animationFrame_iff, ← and_assoc]
      exact hDrawn
  | preDraw listening =>
      rw [Moment.not_spoils_iff (.host .preDraw) nofun, wellDrawn_preDraw h.attached]
      exact and_congr_right fun _ => ⟨fun h => ⟨nofun, fun _ => h⟩, fun h => h.2 rfl⟩

/-- An attempt keeps what is drawn in range exactly if it spoils nothing. -/
theorem Attempt.wellDrawn_iff {before after : World} {event : Event}
    (attempt : Attempt before event after) (h : before.agenda.Steady) :
    after.WellDrawn ↔ before.WellDrawn ∧ ¬Moment.Spoils ⟨before, event, after⟩ := by
  cases attempt with
  | step step => exact step.wellDrawn_iff h
  | @refused operation error refused =>
      have hFollows : Event.follows (.request operation) before = false := by
        simp [Event.follows, refused]
      have hUpdates : Event.updates (.request operation) before = false := by
        simp [Event.updates, refused]
      rw [Moment.not_spoils_iff (.request operation) nofun, hFollows, hUpdates,
        (refused_run refused).spares.wellDrawn]
      exact (and_iff_left ⟨nofun, nofun⟩).symm

/-! ## Trials -/

/-- Nothing is drawn on a fresh display but numbers. -/
theorem wellDrawn_create {settings : Settings} {options : SimulationOptions}
    {simulation : Simulation} (h : Simulation.create settings options = .ok simulation) :
    simulation.world.WellDrawn := by
  have hBlank (layer : Layer) : (fresh settings options).written layer = [] := by
    rcases options with ⟨_, _ | _, _, _⟩
    · cases layer <;> rfl
    · cases layer <;> rfl
  have hFresh : (fresh settings options).WellDrawn := by
    intro layer _ opacity hMem
    rw [hBlank] at hMem
    cases hMem
  have hUpdated := (@wellDrawn_update (fresh settings options) fun _ => rfl).mpr
    ⟨hFresh, not_misdrawn_of_sound (sound_update (sound_fresh settings options))⟩
  obtain ⟨message, screenOn, hWorld⟩ := create_eq h
  rw [hWorld]
  generalize (fresh settings options).update = updated at hUpdated ⊢
  exact hUpdated

/-- A trial keeps what is drawn in range exactly if none of its moments spoils it. -/
theorem opacities_in_range_iff {settings : Settings} {options : SimulationOptions}
    {simulation : Simulation} (created : Simulation.create settings options = .ok simulation)
    {moments : List Moment} {last : World} (trial : Trial simulation.world moments last) :
    last.WellDrawn ↔ ∀ moment ∈ moments, ¬moment.Spoils := by
  have hSteady := (driven_create created).steady
  -- on the moments of the trial: refusals keep the agenda steady, and a step asks for no more
  induction trial with
  | nil => exact iff_of_true (wellDrawn_create created) (by simp)
  | snoc trial attempt ih =>
      have hBefore := trial.invariant (fun world => world.agenda.Steady)
        (fun _ _ _ h attempt => attempt.steady h) hSteady
      rw [attempt.wellDrawn_iff hBefore, forall_mem_snoc]
      exact and_congr ih Iff.rfl

def pullAndLock : List Simulation.Call :=
  [.perform (.panelExpansion (0 / 0)), .perform (.panelExpansion 0), .perform toKeyguard,
    .advance 0]

set_option maxRecDepth 100000 in
/-- After the refusal of the pull, the transition spoils nothing. -/
theorem opacities_in_range_after_refusal : ∃ first last moments,
    Simulation.create {} {} = .ok first ∧
    (Operation.run (.panelExpansion (0 / 0)) first.world).error =
      some (.invalidArgument .nanFraction) ∧
    Simulation.tryAll pullAndLock first = some last ∧ Trial first.world moments last.world ∧
    ∀ moment ∈ moments, ¬moment.Spoils := by
  have hTried : (Simulation.create {} {}).toOption.any (fun first =>
      (Simulation.tryAll pullAndLock first).any (decide ·.world.WellDrawn)) = true := by
    decide +kernel
  obtain ⟨first, last, hCreate, hMade, hDrawn⟩ := Simulation.exists_tryAll hTried
  obtain ⟨origin, moments, hOrigin, trial⟩ :=
    ((Simulation.Tried.created hCreate).tryAll hMade).trial
  obtain rfl : origin = first := Except.ok.inj (hOrigin.symm.trans hCreate)
  exact ⟨origin, last, moments, hCreate, error_panelExpansion_nan _, hMade, trial,
    (opacities_in_range_iff hCreate trial).mp (of_decide_eq_true hDrawn)⟩

/-- The front layer fades to an infinite opacity, and while it does the shade is pulled. -/
def pullOfInfinitePulse : List Simulation.Call :=
  [.perform (.panelExpansion 0), .perform (.aodFrontAlpha (1 / 0)),
    .perform (.transition .pulsing none), .advance 0, .perform (.panelExpansion 0.125)]

set_option maxRecDepth 100000 in
/-- The pull moves both ends of the animation, by infinity less infinity. -/
theorem pull_draws_nan : ∃ simulation,
    Simulation.play { darkenWhileDragging := false } {} pullOfInfinitePulse = some simulation ∧
    (∃ opacity ∈ simulation.world.written .front, opacity.isNaN = true) ∧
    ¬simulation.world.WellDrawn := by
  have hPlayed : (Simulation.play { darkenWhileDragging := false } {} pullOfInfinitePulse).any
      (fun simulation => (simulation.world.written .front).any (·.isNaN) &&
        !decide simulation.world.WellDrawn) = true := by
    decide +kernel
  obtain ⟨simulation, hPlay, hFacts⟩ := (Option.any_eq_true _ _).mp hPlayed
  obtain ⟨hNaN, hSpoiled⟩ := Bool.and_eq_true_iff.mp hFacts
  exact ⟨simulation, hPlay, List.any_eq_true.mp hNaN,
    of_decide_eq_false ((Bool.not_eq_true' _).mp hSpoiled)⟩

end World

end Scrim
