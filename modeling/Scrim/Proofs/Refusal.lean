import Scrim.Proofs.BlankFrame
import Scrim.Proofs.Number
import Scrim.Proofs.Standing

/-!
# Refused requests

A refused request is to leave no trace (`World.Footprint`). A bad argument is found before anything
is written, and then nothing has changed. An opacity that is not a number is found afterwards: by
then a transition has entered its state and registered its callback, a gesture has moved, a fact of
the moment has been taken over, and the targets hold that opacity (`World.Refused`).

`World.refused_without_trace_iff` says which refused requests leave no trace, and
`World.refused_transition_enters` is a transition that leaves one. What is drawn from the targets,
the queue and the alarm are spared in every case (`World.Refused.spares`).
-/

namespace Scrim

namespace World

/-! ## What a refused request leaves -/

def nanOpacity (world : World) : Error :=
  .nanOpacity world.controller.state world.controller.targets.alpha.front
    world.controller.targets.alpha.behind

/-- What a request has written when the gesture is about to be laid over the targets. -/
inductive Begun (world : World) : Operation → World → Prop where
  | transition {state : State} {callback : Option Callback}
      (other : state ≠ world.controller.state) :
      Begun world (.transition state callback) (world.enter state callback)
  | panel {fraction : Float32} (number : fraction.isNaN = false)
      (moves : (world.controller.expansion.panel == fraction) = false) :
      Begun world (.panelExpansion fraction) { world with controller.expansion.panel := fraction }
  | quickSettings {fraction : Float32} {panelBottom : Int} (number : fraction.isNaN = false)
      (moves : (world.controller.expansion.quickSettings == fraction) = false) :
      Begun world (.quickSettings fraction panelBottom)
        { world.followNotifications fraction panelBottom with
          controller.expansion.quickSettings := fraction }
  | affects : Begun world (.expansionAffectsAlpha true)
      { world with controller.expansion.affectsAlpha := true }

/-- Takes over a change of the facts of the moment, and the behind opacity that comes of it. -/
def retarget (world : World) (change : Overrides → Overrides) : World :=
  let changed := world.override change
  let behind := changed.controller.catalog.behindAlpha changed.controller.state
  { changed with
    controller.targets.alpha := { changed.controller.targets.alpha with behind := behind } }

/-- What a refused request leaves, and why it was refused. -/
inductive Refused (world : World) : Operation → Error → World → Prop where
  /-- Nothing was written yet. -/
  | argument {operation : Operation} (argument : BadArgument) :
      Refused world operation (.invalidArgument argument) world
  /-- The state asks for an opacity that is not a number. -/
  | entered {state : State} {callback : Option Callback} (other : state ≠ world.controller.state) :
      Refused world (.transition state callback) (world.enter state callback).nanOpacity
        (world.enter state callback)
  /-- The gesture makes one. -/
  | overlaid {operation : Operation} {moved : World} (begun : world.Begun operation moved) :
      Refused world operation moved.overlayGesture.world.nanOpacity moved.overlayGesture.world
  /-- The targets of a dozing display already had one when a fact of the moment changed. -/
  | sensed {active : Bool} (pulses : world.controller.state = .pulsing)
      (moves : (world.override fun facts => { facts with screenSensorActive := active }).movesBehind
        = true) :
      Refused world (.screenSensor active)
        (world.retarget fun facts => { facts with screenSensorActive := active }).nanOpacity
        (world.retarget fun facts => { facts with screenSensorActive := active })
  | backed {visible : Bool} (dozes : world.controller.state.isLowPower = true)
      (moves : (world.override fun facts => { facts with hasBackdrop := visible }).movesBehind
        = true) :
      Refused world (.backdrop visible)
        (world.retarget fun facts => { facts with hasBackdrop := visible }).nanOpacity
        (world.retarget fun facts => { facts with hasBackdrop := visible })

/-! ## Every refusal is one of these -/

theorem eq_nanOpacity {targets : Targets} {state : State} {error : Error}
    (h : targets.nanError? state = some error) :
    error = .nanOpacity state targets.alpha.front targets.alpha.behind := by
  unfold Targets.nanError? at h
  split at h
  · exact (Option.some.inj h).symm
  · cases h

theorem error_overlayGesture {world : World} {error : Error}
    (refused : world.overlayGesture.error = some error) :
    error = world.overlayGesture.world.nanOpacity := by
  unfold overlayGesture Expansion.apply at refused ⊢
  dsimp only at refused ⊢
  split at refused
  · next hAffects =>
    rw [if_pos hAffects]
    exact eq_nanOpacity refused
  · cases refused

/-- A gesture is refused where it is laid over the targets, and nothing is drawn. -/
theorem refused_applyGesture {world : World} {error : Error}
    (refused : world.applyGesture.error = some error) :
    error = world.overlayGesture.world.nanOpacity ∧
      world.applyGesture.world = world.overlayGesture.world := by
  unfold applyGesture at refused ⊢
  split at refused
  · next overlaid found hOverlay =>
    obtain rfl := Option.some.inj refused
    have hError := error_overlayGesture (congrArg Outcome.error hOverlay)
    exact ⟨hError, by simp only [hOverlay]⟩
  · split at refused
    · cases refused
    · cases refused

theorem Begun.refused {world moved : World} {operation : Operation} {error : Error}
    (begun : world.Begun operation moved) (refused : moved.applyGesture.error = some error) :
    world.Refused operation error moved.applyGesture.world := by
  obtain ⟨rfl, hWorld⟩ := refused_applyGesture refused
  rw [hWorld]
  exact .overlaid begun

theorem refused_transition {world : World} {state : State} {callback : Option Callback}
    {error : Error} (refused : (world.transition state callback).error = some error) :
    world.Refused (.transition state callback) error (world.transition state callback).world := by
  unfold transition at refused ⊢
  by_cases hTarget : state = .uninitialized
  · simp only [hTarget, if_true, Option.some.injEq] at refused ⊢
    subst refused
    exact .argument .uninitializedTarget
  · rw [if_neg hTarget] at refused ⊢
    by_cases hActive : state = world.controller.state
    · rw [if_pos hActive] at refused
      cases refused
    · rw [if_neg hActive] at refused ⊢
      dsimp only at refused ⊢
      split at refused
      · next found hNaN =>
        obtain rfl := Option.some.inj refused
        obtain rfl : found = (world.enter state callback).nanOpacity := by
          rw [eq_nanOpacity hNaN, nanOpacity, state_enter]
        exact .entered hActive
      · split at refused
        · next overlaid found hOverlay =>
          obtain rfl := Option.some.inj refused
          obtain rfl := error_overlayGesture (congrArg Outcome.error hOverlay)
          obtain rfl : _ = overlaid := congrArg Outcome.world hOverlay
          exact .overlaid (.transition hActive)
        · cases refused

theorem refused_setPanelExpansion {world : World} {fraction : Float32} {error : Error}
    (refused : (world.setPanelExpansion fraction).error = some error) :
    world.Refused (.panelExpansion fraction) error (world.setPanelExpansion fraction).world := by
  unfold setPanelExpansion Expansion.setPanel at refused ⊢
  cases hNumber : fraction.isNaN with
  | true =>
      simp only [hNumber, if_true, Option.some.injEq] at refused ⊢
      subst refused
      exact .argument .nanFraction
  | false =>
      cases hMoves : world.controller.expansion.panel == fraction with
      | true =>
          simp only [hNumber, hMoves, Bool.false_eq_true, if_false, if_true] at refused
          cases refused
      | false =>
          simp only [hNumber, hMoves, Bool.false_eq_true, if_false] at refused ⊢
          split at refused
          · next hCounts =>
            rw [if_pos hCounts]
            exact Begun.refused (.panel hNumber hMoves) refused
          · cases refused

theorem refused_setQuickSettings {world : World} {fraction : Float32} {panelBottom : Int}
    {error : Error} (refused : (world.setQuickSettings fraction panelBottom).error = some error) :
    world.Refused (.quickSettings fraction panelBottom) error
      (world.setQuickSettings fraction panelBottom).world := by
  have hExpansion : (world.followNotifications fraction panelBottom).controller.expansion =
      world.controller.expansion := by
    obtain ⟨targets, surfaces, -, hFollowed⟩ := followNotifications_eq world fraction panelBottom
    rw [hFollowed]
  -- the notifications have followed before the fraction is looked at
  have hBegun : ∀ (_ : fraction.isNaN = false)
      (_ : (world.controller.expansion.quickSettings == fraction) = false),
      world.Begun (.quickSettings fraction panelBottom) _ := .quickSettings
  unfold setQuickSettings Expansion.setQuickSettings at refused ⊢
  generalize world.followNotifications fraction panelBottom = followed
    at hExpansion hBegun refused ⊢
  rw [← hExpansion] at hBegun
  cases hNumber : fraction.isNaN with
  | true =>
      rw [if_pos hNumber] at refused
      cases refused
  | false =>
      cases hMoves : followed.controller.expansion.quickSettings == fraction with
      | true =>
          simp only [hNumber, hMoves, Bool.or_true, Bool.false_eq_true, if_false, if_true]
            at refused
          cases refused
      | false =>
          simp only [hNumber, hMoves, Bool.or_false, Bool.false_eq_true, if_false] at refused ⊢
          split at refused
          · next hCounts =>
            rw [if_pos hCounts]
            exact Begun.refused (hBegun hNumber hMoves) refused
          · cases refused

theorem refused_refreshBehind {world : World} {change : Overrides → Overrides} {error : Error}
    (refused : (world.override change).refreshBehind.error = some error) :
    (world.override change).movesBehind = true ∧ error = (world.retarget change).nanOpacity ∧
      (world.override change).refreshBehind.world = world.retarget change := by
  unfold refreshBehind at refused ⊢
  unfold movesBehind
  dsimp only at refused ⊢
  split at refused
  · cases refused
  · next hMoves =>
    rw [if_neg hMoves, Bool.of_not_eq_true hMoves]
    split at refused
    · next found hNaN =>
      obtain rfl := Option.some.inj refused
      exact ⟨rfl, eq_nanOpacity hNaN, rfl⟩
    · cases refused

theorem refused_setScreenSensor {world : World} {active : Bool} {error : Error}
    (refused : (world.setScreenSensor active).error = some error) :
    world.Refused (.screenSensor active) error (world.setScreenSensor active).world := by
  unfold setScreenSensor at refused ⊢
  dsimp only at refused ⊢
  split at refused
  · next hPulses =>
    rw [if_pos hPulses]
    obtain ⟨hMoves, rfl, hWorld⟩ := refused_refreshBehind refused
    rw [hWorld]
    exact .sensed hPulses hMoves
  · cases refused

theorem refused_setBackdrop {world : World} {visible : Bool} {error : Error}
    (refused : (world.setBackdrop visible).error = some error) :
    world.Refused (.backdrop visible) error (world.setBackdrop visible).world := by
  unfold setBackdrop at refused ⊢
  dsimp only at refused ⊢
  split at refused
  · next hDozes =>
    rw [if_pos hDozes]
    obtain ⟨hMoves, rfl, hWorld⟩ := refused_refreshBehind refused
    rw [hWorld]
    exact .backed hDozes hMoves
  · cases refused

/-- Whatever is refused, `World.Refused` says why and what is left of it. -/
theorem refused_run {world : World} {operation : Operation} {error : Error}
    (refused : (operation.run world).error = some error) :
    world.Refused operation error (operation.run world).world := by
  cases operation with
  | transition state callback => exact refused_transition refused
  | panelExpansion fraction => exact refused_setPanelExpansion refused
  | quickSettings fraction panelBottom => exact refused_setQuickSettings refused
  | expansionAffectsAlpha affects =>
      cases affects with
      | true => exact Begun.refused .affects refused
      | false => cases refused
  | aodFrontAlpha alpha =>
      simp only [Operation.run, setAodFrontAlpha] at refused ⊢
      split at refused
      · next hNaN =>
        obtain rfl := Option.some.inj refused
        rw [if_pos hNaN]
        exact .argument .nanAodFrontAlpha
      · split at refused
        · cases refused
        · cases refused
  | screenSensor active => exact refused_setScreenSensor refused
  | backdrop visible => exact refused_setBackdrop refused
  | keyguardAlpha alpha =>
      simp only [Operation.run, setKeyguardAlpha] at refused ⊢
      split at refused
      · next hNaN =>
        obtain rfl := Option.some.inj refused
        rw [if_pos hNaN]
        exact .argument .nanKeyguardAlpha
      · cases refused
  | _ => cases refused

/-! ## What is spared -/

/-- What no refusal touches: the clock and its queue, the alarm, what the front, behind and
auxiliary surfaces show and were given, what runs, the blanking, and whether an update is
pending. -/
structure Spares (world after : World) : Prop where
  scheduler : after.host.scheduler = world.host.scheduler
  alarm : after.host.alarm = world.host.alarm
  surface : ∀ layer, layer ≠ .notifications → after.surface? layer = world.surface? layer
  animations : after.controller.animations = world.controller.animations
  blanking : after.controller.blanking = world.controller.blanking
  updatePending : after.controller.updatePending = world.controller.updatePending

theorem Spares.refl (world : World) : world.Spares world :=
  ⟨rfl, rfl, fun _ _ => rfl, rfl, rfl, rfl⟩

theorem spares_enter (world : World) (state : State) (callback : Option Callback) :
    world.Spares (world.enter state callback) := by
  have hSilent := silent_replaceCallback
    { world.debug s!"State changed to: {state.name}" with controller.state := state } callback
  have hHost := congrArg (·.host) hSilent
  have hController := congrArg (·.controller) hSilent
  exact
    { scheduler := congrArg (·.scheduler) hHost
      alarm := congrArg (·.alarm) hHost
      surface := fun layer _ => congrArg (·.surfaces.get? layer) hHost
      animations := congrArg (·.animations) hController
      blanking := congrArg (·.blanking) hController
      updatePending := congrArg (·.updatePending) hController }

theorem spares_followNotifications (world : World) (fraction : Float32) (panelBottom : Int) :
    world.Spares (world.followNotifications fraction panelBottom) := by
  unfold followNotifications
  dsimp only
  split
  · refine ⟨rfl, rfl, fun layer hLayer => ?_, rfl, rfl, rfl⟩
    exact Surfaces.get?_modify_of_ne _ _ hLayer
  · exact .refl world

theorem Begun.spares {world moved : World} {operation : Operation}
    (begun : world.Begun operation moved) : world.Spares moved := by
  cases begun with
  | transition other => exact spares_enter ..
  | panel number moves => exact { Spares.refl world with }
  | @quickSettings fraction panelBottom number moves =>
      exact { spares_followNotifications world fraction panelBottom with }
  | affects => exact { Spares.refl world with }

/-- Whatever is refused, nothing has been drawn from the targets, queued or armed. -/
theorem Refused.spares {world after : World} {operation : Operation} {error : Error}
    (refused : world.Refused operation error after) : world.Spares after := by
  cases refused with
  | argument => exact .refl world
  | entered other => exact spares_enter ..
  | overlaid begun => exact { begun.spares with }
  | sensed pulses moves => exact { Spares.refl world with }
  | backed dozes moves => exact { Spares.refl world with }

/-! ## What is left behind -/

/-- What a refused request should leave alone. -/
structure Footprint where
  state : State
  targets : Targets
  callback : Option Registration
  /-- Every notification that a callback got. -/
  callbackEvents : List CallbackEvent
  blanking : Blanking
  blankScreen : Bool
  animations : Animations
  animateChange : Bool
  updatePending : Bool
  paletteStale : Bool
  panel : Float32
  quickSettings : Float32
  overrides : Overrides
  surfaces : Surfaces
  queue : List Posted
  alarm : Alarm

def footprint (world : World) : Footprint where
  state := world.controller.state
  targets := world.controller.targets
  callback := world.controller.callback
  callbackEvents := world.journal.callbackEvents
  blanking := world.controller.blanking
  blankScreen := world.controller.blankScreen
  animations := world.controller.animations
  animateChange := world.controller.animateChange
  updatePending := world.controller.updatePending
  paletteStale := world.controller.paletteStale
  panel := world.controller.expansion.panel
  quickSettings := world.controller.expansion.quickSettings
  overrides := world.controller.catalog.overrides
  surfaces := world.host.surfaces
  queue := world.host.scheduler.queue
  alarm := world.host.alarm

/-- Gestures are to count, and laying the present one over the targets changes none of them. -/
def Relays (world : World) (operation : Operation) : Prop :=
  operation = .expansionAffectsAlpha true ∧
    (overlayGesture
      { world with controller.expansion.affectsAlpha := true }).world.controller.targets
      = world.controller.targets

/-- What the catalog asks of the layer behind a dozing display is a number. -/
theorem number_behindAlpha {catalog : Catalog} {state : State} (h : state.isLowPower = true) :
    (catalog.behindAlpha state).isNaN = false := by
  have hCover : (catalog.aodBehindAlpha).isNaN = false := by
    unfold Catalog.aodBehindAlpha
    split
    · decide
    · decide
  cases state
  case aod => exact hCover
  case pulsing =>
    show (if catalog.overrides.screenSensorActive then Catalog.sensorAlpha
      else catalog.aodBehindAlpha).isNaN = false
    split
    · decide
    · exact hCover
  all_goals cases h

theorem targets_retarget_ne {world : World} {change : Overrides → Overrides}
    (dozes : world.controller.state.isLowPower = true)
    (moves : (world.override change).movesBehind = true) :
    (world.retarget change).controller.targets ≠ world.controller.targets := by
  intro hTargets
  have hBehind : (world.override change).controller.catalog.behindAlpha world.controller.state =
      world.controller.targets.alpha.behind := congrArg (·.alpha.behind) hTargets
  have hNumber : (world.controller.targets.alpha.behind).isNaN = false := by
    rw [← hBehind]
    exact number_behindAlpha dozes
  -- a number equals itself, so the layer would not have been told to move
  have hSame : (world.override change).movesBehind = false := by
    unfold movesBehind
    rw [Bool.not_eq_false']
    exact (congrArg (· == world.controller.targets.alpha.behind) hBehind).trans
      (beq_self_of_number hNumber)
  exact absurd (hSame.symm.trans moves) Bool.false_ne_true

/-- A request that has begun leaves a trace, unless all that it did was to lay the gesture over
targets that show it already. -/
theorem Begun.footprint_eq_iff {world moved : World} {operation : Operation}
    (begun : world.Begun operation moved) :
    moved.overlayGesture.world.footprint = world.footprint ↔ world.Relays operation := by
  cases begun with
  | @transition state callback other =>
      refine ⟨fun hSame => absurd ?_ other, nofun⟩
      exact (state_enter world state callback).symm.trans (congrArg Footprint.state hSame)
  | panel number moves =>
      refine ⟨fun hSame => absurd ?_ (ne_of_beq_false number moves), nofun⟩
      exact (congrArg Footprint.panel hSame).symm
  | quickSettings number moves =>
      refine ⟨fun hSame => absurd ?_ (ne_of_beq_false number moves), nofun⟩
      exact (congrArg Footprint.quickSettings hSame).symm
  | affects =>
      constructor
      · intro hSame
        exact ⟨rfl, congrArg Footprint.targets hSame⟩
      · rintro ⟨-, hTargets⟩
        exact congrArg (fun targets => { world.footprint with targets := targets }) hTargets

/-- A refused request leaves no trace exactly if an argument was bad, or if all that it asked for
is that gestures count and the targets show the present gesture already. -/
theorem refused_without_trace_iff {world : World} {operation : Operation} {error : Error}
    (refused : (operation.run world).error = some error) :
    (operation.run world).world.footprint = world.footprint ↔
      (∃ argument, error = .invalidArgument argument) ∨ world.Relays operation := by
  have hRefused := refused_run refused
  generalize (operation.run world).world = after at hRefused ⊢
  cases hRefused with
  | argument argument => exact ⟨fun _ => Or.inl ⟨argument, rfl⟩, fun _ => rfl⟩
  | @entered state callback other =>
      constructor
      · intro hSame
        have hState := (state_enter world state callback).symm.trans
          (congrArg Footprint.state hSame)
        exact absurd hState other
      · rintro (⟨_, hError⟩ | ⟨hOther, -⟩)
        · cases hError
        · cases hOther
  | overlaid begun =>
      rw [begun.footprint_eq_iff]
      refine ⟨Or.inr, ?_⟩
      rintro (⟨_, hError⟩ | hRelays)
      · cases hError
      · exact hRelays
  | sensed pulses moves =>
      have hDozes : world.controller.state.isLowPower = true := by rw [pulses]; rfl
      constructor
      · intro hSame
        exact absurd (congrArg Footprint.targets hSame) (targets_retarget_ne hDozes moves)
      · rintro (⟨_, hError⟩ | ⟨hOther, -⟩)
        · cases hError
        · cases hOther
  | backed dozes moves =>
      constructor
      · intro hSame
        exact absurd (congrArg Footprint.targets hSame) (targets_retarget_ne dozes moves)
      · rintro (⟨_, hError⟩ | ⟨hOther, -⟩)
        · cases hError
        · cases hOther

def toKeyguard : Operation := .transition .keyguard (some ⟨0, "lock"⟩)

theorem error_panelExpansion_nan (world : World) :
    (Operation.run (.panelExpansion (0 / 0)) world).error =
      some (.invalidArgument .nanFraction) := by
  have hNaN : (0 / 0 : Float32).isNaN = true := by decide +kernel
  simp only [Operation.run, setPanelExpansion, Expansion.setPanel, hNaN, if_true]

set_option maxRecDepth 100000 in
/-- In the middle of a transition to the lock screen, such a pull leaves no trace. -/
theorem refused_pull_without_trace : ∃ simulation,
    Simulation.play {} {} [.perform (.panelExpansion 0), .perform toKeyguard, .advance 0] =
      some simulation ∧
    (simulation.world.controller.animations.get? .behind).isSome = true ∧
    (Operation.run (.panelExpansion (0 / 0)) simulation.world).error =
      some (.invalidArgument .nanFraction) ∧
    (Operation.run (.panelExpansion (0 / 0)) simulation.world).world.footprint =
      simulation.world.footprint := by
  have hPlayed : (Simulation.play {} {} [.perform (.panelExpansion 0), .perform toKeyguard,
      .advance 0]).any (fun simulation =>
        (simulation.world.controller.animations.get? .behind).isSome) = true := by
    decide +kernel
  obtain ⟨simulation, hPlay, hRuns⟩ := (Option.any_eq_true _ _).mp hPlayed
  have hRefused := error_panelExpansion_nan simulation.world
  exact ⟨simulation, hPlay, hRuns, hRefused,
    (refused_without_trace_iff hRefused).mpr (Or.inl ⟨_, rfl⟩)⟩

def infiniteKeyguard : List Simulation.Call :=
  [.perform (.panelExpansion 0), .perform (.keyguardAlpha (1 / 0))]

set_option maxRecDepth 100000 in
/-- A transition to such a lock screen is refused once it has entered: the state has changed and
the callback is registered. -/
theorem refused_transition_enters : ∃ simulation error,
    Simulation.play {} {} infiniteKeyguard = some simulation ∧
    (toKeyguard.run simulation.world).error = some error ∧
    simulation.world.controller.state = .uninitialized ∧
    simulation.world.controller.callback = none ∧
    (toKeyguard.run simulation.world).world.controller.state = .keyguard ∧
    (toKeyguard.run simulation.world).world.controller.callback = some ⟨0, ⟨0, "lock"⟩⟩ ∧
    (toKeyguard.run simulation.world).world.footprint ≠ simulation.world.footprint := by
  have hPlayed : (Simulation.play {} {} infiniteKeyguard).any (fun simulation =>
      let outcome := toKeyguard.run simulation.world
      outcome.error.isSome && (simulation.world.controller.state = .uninitialized) &&
        (simulation.world.controller.callback = none) &&
        (outcome.world.controller.state = .keyguard) &&
        (outcome.world.controller.callback = some ⟨0, ⟨0, "lock"⟩⟩)) = true := by
    decide +kernel
  obtain ⟨simulation, hPlay, hFacts⟩ := (Option.any_eq_true _ _).mp hPlayed
  simp only [Bool.and_eq_true, decide_eq_true_eq] at hFacts
  obtain ⟨⟨⟨⟨hError, hBefore⟩, hFree⟩, hAfter⟩, hRegistered⟩ := hFacts
  obtain ⟨error, hError⟩ := Option.isSome_iff_exists.mp hError
  refine ⟨simulation, error, hPlay, hError, hBefore, hFree, hAfter, hRegistered, fun hSame => ?_⟩
  have hState := hAfter.symm.trans ((congrArg Footprint.state hSame).trans hBefore)
  cases hState

end World

end Scrim
