import Scrim.Proofs.Painting

/-!
# The notifications layer follows quick settings

No state aims at the notifications layer: its target is the opacity that quick settings asked for
last, and its surface is written as they ask. Updates and gestures come over the layer as over every
other, but what shows an opacity in range is left where it is (`Scene.InPlace.attended`). An opacity
out of range is written as it is asked for; whoever draws the layer next brings it into range, so
that it is off its target and a later update animates it. So the layer follows quick settings, and
is never animated, as long as all that they ask for is in range
(`World.notifications_follow_iff`).
-/

namespace Scrim

/-! ## One layer -/

/-- The layer shows its target, which is in range, and runs nothing. -/
structure Scene.InPlace (scene : Scene) : Prop where
  still : scene.running = none
  shown : scene.shown = some scene.target
  inRange : InRange scene.target.alpha

theorem Scene.InPlace.attended {scene after : Scene} (h : scene.InPlace)
    (attended : scene.Attended after) : after = scene := by
  have hNumber := h.inRange.number
  have hStill : { scene with running := none } = scene := by rw [← h.still]
  have hDrawn : scene.draw scene.target = scene := by
    unfold Scene.draw
    rw [h.shown, Option.map_some, Curve.constrain_of_inRange h.inRange, ← h.shown]
  cases attended with
  | kept => rfl
  | stopped => exact hStill
  | sent animation off => exact absurd (hNumber.symm.trans (off h.shown)) Bool.false_ne_true
  | drawn off => exact absurd (hNumber.symm.trans (off h.shown)) Bool.false_ne_true
  | followed now =>
      unfold Scene.follow
      rw [h.still]
      exact hDrawn
  | stepped now => exact Scene.step_of_still h.still now

def Scene.write (scene : Scene) (alpha : Float32) : Scene where
  shown := scene.shown.map fun look => { look with alpha }
  running := scene.running
  target := { scene.target with alpha }

theorem Scene.InPlace.write {scene : Scene} (h : scene.InPlace) {alpha : Float32}
    (hRange : InRange alpha) : (scene.write alpha).InPlace where
  still := h.still
  shown := by
    show scene.shown.map _ = _
    rw [h.shown]
    rfl
  inRange := hRange

/-! ## Quick settings -/

/-- The opacity that quick settings ask the notifications layer for, if that is what happens. -/
def Event.notificationsAlpha? (event : Event) (world : World) : Option Float32 :=
  match event with
  | .request (.quickSettings fraction panelBottom) =>
    if fraction.isNaN then none
    else
      let controller := world.controller
      some (controller.expansion.notificationsAlpha controller.state fraction panelBottom)
  | _ => none

namespace World

variable {before after : World} {event : Event} {alpha : Float32}

/-- The layer is written as it is asked to be, unless it aims there already. -/
theorem scene_heed (event : Event) (world : World) :
    match event.notificationsAlpha? world with
    | none => event.heed world = world
    | some alpha =>
      (alpha == (world.scene .notifications).target.alpha) = true ∧ event.heed world = world ∨
        (event.heed world).scene .notifications = (world.scene .notifications).write alpha := by
  unfold Event.notificationsAlpha? Event.heed Operation.heed
  cases event with
  | request operation =>
      cases operation with
      | quickSettings fraction panelBottom =>
          dsimp only
          cases fraction.isNaN with
          | true => rfl
          | false =>
              simp only [Bool.false_eq_true, if_false]
              unfold followNotifications
              dsimp only
              split
              · exact Or.inr rfl
              · next hKept =>
                refine Or.inl ⟨?_, rfl⟩
                show (_ == world.controller.targets.alpha.notifications) = true
                simpa [bne] using hKept
      | _ => rfl
  | _ => rfl

theorem inPlace_heed (h : (before.scene .notifications).InPlace)
    (hRange : ∀ alpha, event.notificationsAlpha? before = some alpha → InRange alpha) :
    ((event.heed before).scene .notifications).InPlace := by
  have hHeed := scene_heed event before
  cases hAsked : event.notificationsAlpha? before with
  | none =>
      rw [hAsked] at hHeed
      rw [show event.heed before = before from hHeed]
      exact h
  | some alpha =>
      rw [hAsked] at hHeed
      rcases hHeed with ⟨-, hKept⟩ | hWritten
      · rw [hKept]
        exact h
      · rw [hWritten]
        exact h.write (hRange alpha hAsked)

/-! ## Steps -/

/-- Whatever happens, the layer aims at what quick settings ask for, or where it aimed before. -/
theorem Step.target_notifications (step : Step before event after) (steady : before.agenda.Steady) :
    match event.notificationsAlpha? before with
    | none => after.target .notifications = before.target .notifications
    | some alpha => (after.target .notifications).alpha = alpha ∨
      (alpha == (after.target .notifications).alpha) = true := by
  have hTarget : after.target .notifications = (event.heed before).target .notifications :=
    (step.attended steady).target
  have hHeed := scene_heed event before
  rw [hTarget]
  cases hAsked : event.notificationsAlpha? before with
  | none =>
      rw [hAsked] at hHeed
      exact congrArg (·.target .notifications) hHeed
  | some alpha =>
      rw [hAsked] at hHeed
      rcases hHeed with ⟨hSame, hKept⟩ | hWritten
      · rw [hKept]
        exact Or.inr hSame
      · exact Or.inl (congrArg (·.target.alpha) hWritten)

/-- As long as quick settings ask for opacities in range, the layer stays in place. -/
theorem Step.inPlace (step : Step before event after) (steady : before.agenda.Steady)
    (h : (before.scene .notifications).InPlace)
    (hRange : ∀ alpha, event.notificationsAlpha? before = some alpha → InRange alpha) :
    (after.scene .notifications).InPlace := by
  have hHeed := inPlace_heed h hRange
  rw [hHeed.attended (step.attended steady)]
  exact hHeed

theorem inPlace_create {settings : Settings} {options : SimulationOptions}
    {simulation : Simulation} (h : Simulation.create settings options = .ok simulation) :
    (simulation.world.scene .notifications).InPlace := by
  have hFresh : ((fresh settings options).scene .notifications).InPlace := by
    refine ⟨rfl, rfl, ?_⟩
    show InRange 0
    decide
  have hUpdated := hFresh.attended (attended_update (fresh settings options))
  obtain ⟨message, screenOn, hWorld⟩ := create_eq h
  have hScene : simulation.world.scene .notifications =
      (fresh settings options).update.scene .notifications := by
    rw [hWorld]
    generalize (fresh settings options).update = updated
    rfl
  rw [hScene, hUpdated]
  exact hFresh

/-! ## Whole runs -/

/-- The notifications layer runs nothing and shows its target, which is in range. -/
structure FollowsQuickSettings (world : World) : Prop where
  still : world.controller.animations.get? .notifications = none
  shown : world.host.surfaces.notifications.alpha = (world.target .notifications).alpha
  inRange : InRange world.host.surfaces.notifications.alpha

theorem follows_of_inPlace {world : World} (h : (world.scene .notifications).InPlace) :
    world.FollowsQuickSettings := by
  have hShown : world.host.surfaces.notifications.alpha = (world.target .notifications).alpha :=
    congrArg Look.alpha (Option.some.inj h.shown)
  refine ⟨h.still, hShown, ?_⟩
  rw [hShown]
  exact h.inRange

/-- In every run the notifications layer aims at the opacity that quick settings asked for last. It
is never animated and always shows that opacity, in range, exactly if all that they ask for is in
range. -/
theorem notifications_follow_iff {settings : Settings} {options : SimulationOptions}
    {simulation : Simulation} (created : Simulation.create settings options = .ok simulation)
    {last : World} {moments : List Moment} (run : Run simulation.world moments last) :
    simulation.world.FollowsQuickSettings ∧
    (∀ moment ∈ moments, match moment.event.notificationsAlpha? moment.before with
      | none => moment.after.target .notifications = moment.before.target .notifications
      | some alpha => (moment.after.target .notifications).alpha = alpha ∨
        (alpha == (moment.after.target .notifications).alpha) = true) ∧
    ((∀ moment ∈ moments, moment.after.FollowsQuickSettings) ↔
      ∀ moment ∈ moments, ∀ alpha, moment.event.notificationsAlpha? moment.before = some alpha →
        InRange alpha) := by
  have hSteady := run.invariant_before (fun world => world.agenda.Steady)
    (fun _ _ _ h step => step.steady h) (driven_create created).steady
  have hTarget (moment : Moment) (hMem : moment ∈ moments) :=
    (run.step moment hMem).target_notifications (hSteady moment hMem)
  refine ⟨follows_of_inPlace (inPlace_create created), hTarget, ?_, ?_⟩
  · intro hFollows moment hMem alpha hAsked
    have hAfter := hFollows moment hMem
    have hAims := hTarget moment hMem
    have hRange : InRange (moment.after.target .notifications).alpha := by
      rw [← hAfter.shown]
      exact hAfter.inRange
    rw [hAsked] at hAims
    rcases hAims with hSame | hSame
    · rw [← hSame]
      exact hRange
    · exact hRange.of_beq (beq_symm hSame)
  · intro hRange
    have hPlaces := run.invariant_while
      (fun world => world.agenda.Steady ∧ (world.scene .notifications).InPlace)
      (fun moment => ∀ alpha, moment.event.notificationsAlpha? moment.before = some alpha →
        InRange alpha)
      (fun _ _ _ h step good => ⟨step.steady h.1, step.inPlace h.1 h.2 good⟩)
      ⟨(driven_create created).steady, inPlace_create created⟩ hRange
    exact fun moment hMem => follows_of_inPlace (hPlaces.2 moment hMem).2

set_option maxRecDepth 100000 in
/-- Quick settings are pulled halfway, and an update comes over the layer. -/
theorem notifications_follow_halfway : ∃ first moments last,
    Simulation.create {} {} = .ok first ∧ Run first.world moments last ∧
    (∃ moment ∈ moments, moment.event.notificationsAlpha? moment.before = some 0.5) ∧
    (last.target .notifications).alpha = 0.5 ∧ last.FollowsQuickSettings := by
  have hCreated : (Simulation.create {} {}).toOption.any (fun first =>
      (first.world.undergo (.request (.quickSettings 0.5 600))).any fun pulled =>
        (pulled.undergo (.request .themeChanged)).any fun themed =>
        (themed.undergo (.host .preDraw)).any fun last =>
          (Event.request (.quickSettings 0.5 600)).notificationsAlpha? first.world = some 0.5 &&
            (last.target .notifications).alpha = 0.5) = true := by
    decide +kernel
  obtain ⟨first, hCreate, hPulled⟩ := Simulation.exists_of_any_create hCreated
  obtain ⟨pulled, hPull, hThemed⟩ := (Option.any_eq_true _ _).mp hPulled
  obtain ⟨themed, hTheme, hDrawn⟩ := (Option.any_eq_true _ _).mp hThemed
  obtain ⟨last, hDraw, hFacts⟩ := (Option.any_eq_true _ _).mp hDrawn
  simp only [Bool.and_eq_true, decide_eq_true_eq] at hFacts
  obtain ⟨hAsked, hAims⟩ := hFacts
  have hRun := ((Run.nil.snoc (step_iff_undergo.mpr hPull)).snoc
    (step_iff_undergo.mpr hTheme)).snoc (step_iff_undergo.mpr hDraw)
  have hFollows := (notifications_follow_iff hCreate hRun).2.2.mpr (by
    rw [forall_mem_snoc, forall_mem_snoc, forall_mem_snoc]
    refine ⟨⟨⟨by simp, ?_⟩, ?_⟩, ?_⟩
    · intro alpha h
      obtain rfl := Option.some.inj (hAsked.symm.trans h)
      decide
    · intro alpha h
      cases h
    · intro alpha h
      cases h)
  exact ⟨first, _, last, hCreate, hRun, ⟨⟨first.world, _, pulled⟩, by simp, hAsked⟩, hAims,
    hFollows ⟨themed, .host .preDraw, last⟩ (by simp)⟩

def overscroll : List Simulation.Call :=
  [.perform (.quickSettings 1.5 600), .perform (.expansionAffectsAlpha true),
    .perform (.transition .bouncer none), .advance 0]

set_option maxRecDepth 100000 in
/-- The layer is brought into range and animated towards a target out of range. -/
theorem notifications_animated_by_overscroll : ∃ simulation,
    Simulation.play {} {} overscroll = some simulation ∧
    simulation.world.controller.animations.isAnimating .notifications = true ∧
    simulation.world.host.surfaces.notifications.alpha = 1 ∧
    (simulation.world.target .notifications).alpha = 1.5 := by
  have hPlayed : (Simulation.play {} {} overscroll).any (fun simulation =>
      simulation.world.controller.animations.isAnimating .notifications &&
        simulation.world.host.surfaces.notifications.alpha = 1 &&
        (simulation.world.target .notifications).alpha = 1.5) = true := by
    decide +kernel
  obtain ⟨simulation, hPlay, hLast⟩ := (Option.any_eq_true _ _).mp hPlayed
  simp only [Bool.and_eq_true, decide_eq_true_eq] at hLast
  exact ⟨simulation, hPlay, hLast.1.1, hLast.1.2, hLast.2⟩

end World

end Scrim
