import Scrim.Proofs.Occlusion

/-!
# News from the surroundings

During a pulse two things change the opacity behind the layers: a gesture, which lays its own over
the targets, and news of a backdrop or of the screen sensor, which take the opacity of the state
from the catalog again (`World.refreshBehind`). After the latter the target is what the state asks
for (`World.OpenPulse.refreshBehind`), whatever the gesture is, so a shade that is half pulled is
forgotten until it moves again.

`World.news_follow_gesture_throughout_iff` says that news leave the target where the gesture has it
exactly if the gesture reveals what the state asks for, and `World.backdrop_forgets_gesture` is a
pulse with the shade let go in which it does not.
-/

namespace Scrim.World

variable {world : World}

/-- A pulse during which gestures count and nothing is hidden. -/
structure OpenPulse (world : World) : Prop where
  pulses : world.controller.state = .pulsing
  counts : world.controller.expansion.affectsAlpha = true
  visible : world.controller.keyguardOccluded = false
  timely : world.controller.wallpaperTimedOut = false

instance (world : World) : Decidable world.OpenPulse :=
  decidable_of_iff (world.controller.state = .pulsing ∧
      world.controller.expansion.affectsAlpha = true ∧
      world.controller.keyguardOccluded = false ∧ world.controller.wallpaperTimedOut = false)
    ⟨fun ⟨pulses, counts, visible, timely⟩ => ⟨pulses, counts, visible, timely⟩,
      fun h => ⟨h.pulses, h.counts, h.visible, h.timely⟩⟩

/-- The target behind the layers is the one that the gesture lays there. -/
def FollowsGesture (world : World) : Prop :=
  (world.controller.targets.alpha.behind ==
    world.overlayGesture.world.controller.targets.alpha.behind) = true

def FollowsState (world : World) : Prop :=
  (world.controller.targets.alpha.behind ==
    world.controller.catalog.behindAlpha world.controller.state) = true

def RevealsAll (world : World) : Prop :=
  (world.controller.catalog.behindAlpha .pulsing ==
    world.controller.expansion.revealedAlpha .pulsing world.controller.catalog) = true

instance (world : World) : Decidable world.RevealsAll :=
  inferInstanceAs (Decidable (_ = true))

/-! ## Updates -/

/-- What an update leaves as it is. -/
theorem controller_update (world : World) :
    world.update.controller.state = world.controller.state ∧
    world.update.controller.catalog = world.controller.catalog ∧
    world.update.controller.expansion = world.controller.expansion ∧
    world.update.controller.keyguardOccluded = world.controller.keyguardOccluded ∧
    world.update.controller.wallpaperTimedOut = world.controller.wallpaperTimedOut := by
  obtain ⟨stale, alpha, surfaces, hPrepare⟩ := prepare_eq world.standing
  have hStanding := (standing_update world).trans hPrepare
  generalize world.update = updated at hStanding ⊢
  exact ⟨congrArg (·.controller.state) hStanding, congrArg (·.controller.catalog) hStanding,
    congrArg (·.controller.expansion) hStanding, congrArg (·.controller.keyguardOccluded) hStanding,
    congrArg (·.controller.wallpaperTimedOut) hStanding⟩

namespace OpenPulse

theorem dozes (h : world.OpenPulse) : world.controller.state.isLowPower = true := by
  rw [h.pulses]
  rfl

theorem update (h : world.OpenPulse) : world.update.OpenPulse := by
  obtain ⟨hState, -, hExpansion, hOccluded, hTimedOut⟩ := controller_update world
  constructor
  · exact hState.trans h.pulses
  · rw [hExpansion]
    exact h.counts
  · exact hOccluded.trans h.visible
  · exact hTimedOut.trans h.timely

/-- An update of a pulse that hides nothing keeps the target behind the layers. -/
theorem behind_update (h : world.OpenPulse) :
    world.update.controller.targets.alpha.behind = world.controller.targets.alpha.behind := by
  rw [World.behind_update, h.timely, h.visible, Bool.or_self, Bool.and_false,
    if_neg Bool.false_ne_true]

theorem followsState_update (h : world.OpenPulse) (follows : world.FollowsState) :
    world.update.FollowsState := by
  obtain ⟨hState, hCatalog, -⟩ := controller_update world
  unfold FollowsState
  rw [h.behind_update, hState, hCatalog]
  exact follows

/-- The catalog's opacity is taken over, unless the target equals it already. -/
theorem refreshBehind (h : world.OpenPulse) :
    world.refreshBehind.world.OpenPulse ∧ world.refreshBehind.world.FollowsState := by
  have hNumber : (world.controller.catalog.behindAlpha world.controller.state).isNaN = false :=
    number_behindAlpha h.dozes
  unfold World.refreshBehind
  extract_lets controller behind targets alpha changed
  have hOpen : changed.OpenPulse := { h with }
  have hFollows : changed.FollowsState := beq_self_of_number hNumber
  clear_value changed
  split
  · next hSame => exact ⟨h, beq_symm hSame⟩
  · split
    · exact ⟨hOpen, hFollows⟩
    · dsimp only
      exact ⟨hOpen.update, hOpen.followsState_update hFollows⟩

/-- During an open pulse the gesture lays its own opacity behind the layers. -/
theorem behind_overlayGesture (h : world.OpenPulse) :
    world.overlayGesture.world.controller.targets.alpha.behind =
      world.controller.expansion.revealedAlpha .pulsing world.controller.catalog := by
  show ((world.controller.expansion.apply world.controller.state _ _).1).alpha.behind = _
  unfold Expansion.apply
  rw [if_pos h.counts, h.pulses]
  rfl

theorem followsGesture_iff (h : world.OpenPulse) (follows : world.FollowsState) :
    world.FollowsGesture ↔ world.RevealsAll := by
  unfold FollowsGesture RevealsAll
  unfold FollowsState at follows
  rw [h.pulses] at follows
  rw [h.behind_overlayGesture, beq_congr follows]

end OpenPulse

/-! ## Whole runs -/

def tellsNews : Operation → Bool
  | .backdrop _ | .screenSensor _ => true
  | _ => false

/-- News come during an open pulse. -/
def Moment.BringsNews (moment : Moment) : Prop :=
  moment.before.OpenPulse ∧
    ∃ operation, moment.event = .request operation ∧ tellsNews operation = true

/-- After news the target behind the layers is what the state asks for. -/
theorem OpenPulse.news (h : world.OpenPulse) {operation : Operation}
    (news : tellsNews operation = true) :
    (operation.run world).world.OpenPulse ∧ (operation.run world).world.FollowsState := by
  cases operation with
  | backdrop visible =>
      simp only [Operation.run, setBackdrop]
      split
      · exact refreshBehind { h with }
      · next hWakes => exact absurd h.dozes hWakes
  | screenSensor active =>
      simp only [Operation.run, setScreenSensor]
      split
      · exact refreshBehind { h with }
      · next hOther => exact absurd h.pulses hOther
  | _ => cases news

theorem Step.followsGesture_iff {before after : World} {event : Event}
    (step : Step before event after) (news : Moment.BringsNews ⟨before, event, after⟩) :
    after.FollowsGesture ↔ after.RevealsAll := by
  obtain ⟨hOpen, operation, hEvent, hNews⟩ := news
  obtain rfl : event = .request operation := hEvent
  cases step with
  | request accepted =>
      obtain ⟨hAfter, hFollows⟩ := OpenPulse.news hOpen hNews
      exact hAfter.followsGesture_iff hFollows

/-- In every run, all news during open pulses leave the target behind the layers where the gesture
has it, exactly if the gesture reveals what the state asks for after each of them. -/
theorem news_follow_gesture_throughout_iff {start last : World} {moments : List Moment}
    (run : Run start moments last) :
    (∀ moment ∈ moments, moment.BringsNews → moment.after.FollowsGesture) ↔
      ∀ moment ∈ moments, moment.BringsNews → moment.after.RevealsAll := by
  constructor
  · intro hFollows moment hMem news
    exact ((run.step moment hMem).followsGesture_iff news).mp (hFollows moment hMem news)
  · intro hReveals moment hMem news
    exact ((run.step moment hMem).followsGesture_iff news).mpr (hReveals moment hMem news)

def closedPulse : List Simulation.Call :=
  [.perform (.panelExpansion 0), .perform (.transition .pulsing none), .advance 0]

set_option maxRecDepth 100000 in
/-- Behind solid layers a backdrop changes nothing, and neither does a gesture. -/
theorem news_follow_gesture_when_solid : ∃ simulation last,
    Simulation.play { defaultAlpha := 1 } {} closedPulse = some simulation ∧
    Run simulation.world [⟨simulation.world, .request (.backdrop true), last⟩] last ∧
    Moment.BringsNews ⟨simulation.world, .request (.backdrop true), last⟩ ∧
    last.RevealsAll ∧ last.FollowsGesture := by
  have hPlayed : (Simulation.play { defaultAlpha := 1 } {} closedPulse).any (fun pulse =>
      let news := (Operation.backdrop true).run pulse.world
      pulse.world.OpenPulse && news.error.isNone && news.world.RevealsAll) = true := by
    decide +kernel
  obtain ⟨pulse, hPulse, hFacts⟩ := (Option.any_eq_true _ _).mp hPlayed
  simp only [Bool.and_eq_true, decide_eq_true_eq, Option.isNone_iff_eq_none] at hFacts
  obtain ⟨⟨hOpen, hAccepted⟩, hReveals⟩ := hFacts
  have hRun : Run pulse.world
      [⟨pulse.world, .request (.backdrop true), _⟩] _ := Run.nil.snoc (.request hAccepted)
  have hNews (after : World) :
      Moment.BringsNews ⟨pulse.world, .request (.backdrop true), after⟩ :=
    ⟨hOpen, _, rfl, rfl⟩
  have hFollow := (news_follow_gesture_throughout_iff hRun).mpr fun moment hMem _ => by
    rw [List.mem_singleton.mp hMem]
    exact hReveals
  have hFollows := hFollow _ List.mem_cons_self (hNews _)
  exact ⟨pulse, _, hPulse, hRun, hNews _, hReveals, hFollows⟩

set_option maxRecDepth 100000 in
/-- A backdrop makes the layer behind solid, though the shade let go keeps it translucent. -/
theorem backdrop_forgets_gesture : ∃ simulation last,
    Simulation.play {} {} closedPulse = some simulation ∧
    Simulation.play {} {} (closedPulse ++ [.perform (.backdrop true)]) = some last ∧
    simulation.world.OpenPulse ∧
    simulation.world.controller.targets.alpha.behind = 0.6 ∧
    last.world.controller.targets.alpha.behind = 1 ∧
    last.world.overlayGesture.world.controller.targets.alpha.behind = 0.6 ∧
    ¬last.world.FollowsGesture := by
  have hPlayed : (Simulation.play {} {} closedPulse).any (fun pulse =>
      let news := (Operation.backdrop true).run pulse.world
      pulse.world.OpenPulse && news.error.isNone &&
        (pulse.world.controller.targets.alpha.behind = 0.6) &&
        (news.world.controller.targets.alpha.behind = 1) &&
        (news.world.overlayGesture.world.controller.targets.alpha.behind = 0.6)) = true := by
    decide +kernel
  obtain ⟨pulse, hPulse, hFacts⟩ := (Option.any_eq_true _ _).mp hPlayed
  simp only [Bool.and_eq_true, decide_eq_true_eq, Option.isNone_iff_eq_none] at hFacts
  obtain ⟨⟨⟨⟨hOpen, hAccepted⟩, hBefore⟩, hTarget⟩, hLaid⟩ := hFacts
  obtain ⟨last, hPlay, hLast⟩ := Simulation.exists_play_perform hPulse hAccepted
  refine ⟨pulse, last, hPulse, hPlay, hOpen, hBefore, ?_⟩
  rw [hLast]
  refine ⟨hTarget, hLaid, fun hFollows => ?_⟩
  have hSame : ((1 : Float32) == 0.6) = true := by
    unfold FollowsGesture at hFollows
    rwa [hTarget, hLaid] at hFollows
  exact absurd hSame (by decide)

end Scrim.World
