import Scrim.Proofs.Scene

/-!
# Palettes and their surfaces

The *livery* of a world is the palette in force, the palettes that the surfaces wear, and the two
flags between them: the palette may be stale, and an update may be pending. An update hands a
stale palette to the main layers, and the present one to the auxiliary layer every time.

A stale palette is forgotten in one way only: a transition into the brightness mirror clears the
flag whatever it stood for (`World.Moment.Overtakes`). `World.all_wear_palette_iff` says that the
surfaces wear the palette at every boundary without a pending update exactly if that was not the
last word on it.
-/

namespace Scrim

structure Livery where
  palette : Palette
  stale : Bool
  pending : Bool
  /-- What every attached surface wears. -/
  worn : PerLayer (Option Palette)

namespace Livery

def handOn (livery : Livery) : Livery :=
  let palette := some livery.palette
  let auxiliary := livery.worn.auxiliary.map fun _ => livery.palette
  { livery with
    stale := false
    worn :=
      if livery.stale then ⟨palette, palette, palette, auxiliary⟩
      else { livery.worn with auxiliary } }

def schedule (livery : Livery) : Livery :=
  { livery with pending := true }

def Fresh (livery : Livery) : Prop :=
  ∀ layer, layer ≠ .auxiliary → livery.worn.get layer = some livery.palette

/-- Some main layer does not wear the palette, and no update will see to it. -/
def Forgotten (livery : Livery) : Prop :=
  livery.stale = false ∧ ¬livery.Fresh

/-- Once no update is pending nothing is stale, and the auxiliary layer wears the palette. -/
structure Attended (livery : Livery) : Prop where
  stale : livery.pending = false → livery.stale = false
  auxiliary : livery.pending = false → ∀ worn, livery.worn.auxiliary = some worn →
    worn = livery.palette

/-- What can happen to a livery, by what an event makes of the flag of staleness, if it sets it. -/
inductive Changed (livery : Livery) : Option Bool → Livery → Prop where
  | kept : Changed livery none livery
  | scheduled : Changed livery none livery.schedule
  /-- An update has run, and may have been the pending one. -/
  | updated (pending : Bool) : Changed livery none ({ livery with pending }).handOn
  /-- Another palette may be in force. -/
  | renewed (palette : Palette) :
      Changed livery (some true) ({ livery with palette, stale := true }).schedule
  /-- Another state has been entered, and its update waits. -/
  | deferred (stale : Bool) : Changed livery (some stale) ({ livery with stale }).schedule
  /-- Another state has been entered, and its update has run. -/
  | applied (stale : Bool) :
      Changed livery (some stale) ({ livery with stale, pending := false }).handOn

variable {livery after : Livery} {mark : Option Bool}

theorem fresh_handOn : livery.handOn.Fresh ↔ livery.stale = true ∨ livery.Fresh := by
  cases hStale : livery.stale with
  | true =>
      have hFresh : livery.handOn.Fresh := by
        intro layer hMain
        simp only [handOn, hStale, if_true]
        cases layer with
        | auxiliary => exact absurd rfl hMain
        | _ => rfl
      simp [hFresh]
  | false =>
      have hSame : ∀ layer, layer ≠ .auxiliary →
          livery.handOn.worn.get layer = livery.worn.get layer := by
        intro layer hMain
        simp only [handOn, hStale, Bool.false_eq_true, if_false]
        cases layer with
        | auxiliary => exact absurd rfl hMain
        | _ => rfl
      simp only [Bool.false_eq_true, false_or]
      constructor
      · intro h layer hMain
        exact (hSame layer hMain).symm.trans (h layer hMain)
      · intro h layer hMain
        exact (hSame layer hMain).trans (h layer hMain)

/-- An update does not change what is forgotten. -/
theorem forgotten_handOn : livery.handOn.Forgotten ↔ livery.Forgotten := by
  have hStale : livery.handOn.stale = false := rfl
  unfold Forgotten
  rw [fresh_handOn, hStale, not_or, Bool.not_eq_true]
  simp

theorem attended_handOn : livery.handOn.Attended where
  stale _ := rfl
  auxiliary _ worn hWorn := by
    have hAuxiliary : livery.handOn.worn.auxiliary =
        livery.worn.auxiliary.map fun _ => livery.palette := by
      unfold handOn
      dsimp only
      split
      · rfl
      · rfl
    rw [hAuxiliary] at hWorn
    obtain ⟨_, -, rfl⟩ := Option.map_eq_some_iff.mp hWorn
    rfl

theorem attended_schedule : livery.schedule.Attended :=
  ⟨nofun, nofun⟩

/-- What is forgotten after an event: what it has the update forget, and what was forgotten before
unless it reminds the update. -/
theorem Changed.forgotten_iff (h : livery.Changed mark after) :
    after.Forgotten ↔
      mark = some false ∧ ¬livery.Fresh ∨ livery.Forgotten ∧ mark ≠ some true := by
  have marked (stale : Bool) : ({ livery with stale } : Livery).Forgotten ↔
      some stale = some false ∧ ¬livery.Fresh ∨ livery.Forgotten ∧ some stale ≠ some true := by
    show stale = false ∧ ¬livery.Fresh ↔ _
    cases stale with
    | true => simp
    | false =>
        have hWeaker : livery.Forgotten → ¬livery.Fresh := And.right
        simpa using hWeaker
  cases h with
  | kept => simp
  | scheduled =>
      show livery.Forgotten ↔ _
      simp
  | updated pending =>
      rw [forgotten_handOn]
      show livery.Forgotten ↔ _
      simp
  | renewed palette => simp [Forgotten, schedule]
  | deferred stale => exact marked stale
  | applied stale =>
      rw [forgotten_handOn]
      exact marked stale

theorem Changed.attended (h : livery.Changed mark after) (hBefore : livery.Attended) :
    after.Attended := by
  cases h with
  | kept => exact hBefore
  | scheduled => exact attended_schedule
  | updated pending => exact attended_handOn
  | renewed palette => exact attended_schedule
  | deferred stale => exact attended_schedule
  | applied stale => exact attended_handOn

end Livery

/-- What an event makes of the flag of staleness in a state, if it sets it at all. -/
def Event.mark? (event : Event) (state : State) : Option Bool :=
  match event with
  | .request (.transition next _) =>
    if next = state then none else some (next ≠ .brightnessMirror)
  | .request (.theme _) | .request .themeChanged | .request (.keyguardVisibility _) => some true
  | _ => none

namespace World

def livery (world : World) : Livery where
  palette := world.controller.palette
  stale := world.controller.paletteStale
  pending := world.controller.updatePending
  worn :=
    let surfaces := world.host.surfaces
    ⟨some surfaces.front.palette, some surfaces.behind.palette,
      some surfaces.notifications.palette, surfaces.auxiliary.map (·.palette)⟩

theorem worn_livery (world : World) (layer : Layer) :
    world.livery.worn.get layer = (world.surface? layer).map (·.palette) := by
  cases layer <;> rfl

theorem isSome_surface? (world : World) {layer : Layer} (h : layer ≠ .auxiliary) :
    (world.surface? layer).isSome = true := by
  cases layer with
  | auxiliary => exact absurd rfl h
  | _ => rfl

theorem livery_standing (world : World) : world.standing.livery = world.livery := by
  simp [livery, standing, silent, Surfaces.bare, Function.comp_def]

/-- The palettes are among what drawing leaves standing. -/
theorem livery_of_standing {world after : World} (h : after.standing = world.standing) :
    after.livery = world.livery := by
  rw [← livery_standing, h, livery_standing]

theorem livery_hideBehind (world : World) : world.hideBehind.livery = world.livery := by
  unfold hideBehind
  dsimp only
  split
  · rfl
  · rfl

theorem livery_prepare (world : World) : world.prepare.livery = world.livery.handOn := by
  have hClothed (w : World) : (w.clothe .auxiliary).livery =
      { w.livery with worn := { w.livery.worn with
        auxiliary := w.livery.worn.auxiliary.map fun _ => w.livery.palette } } := by
    simp [livery, clothe, Surfaces.modify, Function.comp_def]
  have hStale : world.livery.stale = world.controller.paletteStale := rfl
  rw [prepare, hClothed, livery_hideBehind]
  unfold refresh Livery.handOn
  rw [hStale]
  split
  · rfl
  · next hFresh => rw [← Bool.of_not_eq_true hFresh]; rfl

theorem livery_update (world : World) : world.update.livery = world.livery.handOn := by
  rw [← livery_standing, standing_update, livery_prepare, livery_standing]

theorem livery_preDraw (world : World) :
    world.preDraw.livery = ({ world.livery with pending := false }).handOn := by
  rw [← livery_standing, standing_preDraw, livery_prepare, ← livery_standing world]
  rfl

theorem livery_scheduleUpdate (world : World) :
    world.scheduleUpdate.livery = world.livery.schedule := by
  rw [← livery_standing, standing_scheduleUpdate, ← livery_standing world]
  rfl

theorem livery_reveal (world : World) : world.reveal.livery = world.livery ∨
    world.reveal.livery = world.livery.handOn := by
  rw [← livery_standing world.reveal, standing_reveal]
  split
  · rw [livery_prepare, livery_standing]
    exact Or.inr rfl
  · rw [livery_standing]
    exact Or.inl rfl

/-! ## Gestures -/

theorem livery_followGesture (world : World) : world.followGesture.livery = world.livery := by
  have restored (w : World) : w.restoreWallpaper.livery = w.livery := by
    unfold restoreWallpaper
    split
    · rfl
    · rfl
  unfold followGesture
  simp only [List.foldl_cons, List.foldl_nil]
  rw [restored]
  apply livery_of_standing
  rw [standing_of_silent (silent_dispatchState ..)]
  simp only [standing_followTarget]

theorem livery_applyGesture (world : World) : world.applyGesture.world.livery = world.livery := by
  unfold applyGesture overlayGesture
  dsimp only
  split
  · next hOverlay =>
    obtain ⟨rfl, -⟩ := Outcome.mk.inj hOverlay
    rfl
  · next hOverlay =>
    obtain ⟨rfl, -⟩ := Outcome.mk.inj hOverlay
    split
    · rfl
    · exact livery_followGesture _

theorem livery_setPanelExpansion (world : World) (fraction : Float32) :
    (world.setPanelExpansion fraction).world.livery = world.livery := by
  unfold setPanelExpansion
  split
  · rfl
  · rfl
  · dsimp only
    split
    · exact livery_applyGesture _
    · rfl

theorem livery_setQuickSettings (world : World) (fraction : Float32) (panelBottom : Int) :
    (world.setQuickSettings fraction panelBottom).world.livery = world.livery := by
  have hFollowed : (world.followNotifications fraction panelBottom).livery = world.livery := by
    unfold followNotifications
    dsimp only
    split
    · rfl
    · rfl
  unfold setQuickSettings
  generalize world.followNotifications fraction panelBottom = followed at hFollowed ⊢
  split
  · rfl
  · dsimp only
    split
    · exact hFollowed
    · split
      · exact (livery_applyGesture _).trans hFollowed
      · exact hFollowed

/-! ## Requests -/

theorem changed_of_eq {world : World} {after : Livery} (h : after = world.livery) :
    world.livery.Changed none after :=
  h ▸ .kept

theorem changed_update {world ready : World} (h : ready.livery = world.livery) :
    world.livery.Changed none ready.update.livery := by
  rw [livery_update, h]
  exact .updated world.livery.pending

theorem changed_refreshBehind {world ready : World} (h : ready.livery = world.livery) :
    world.livery.Changed none ready.refreshBehind.world.livery := by
  unfold refreshBehind
  dsimp only
  split
  · exact changed_of_eq h
  · split
    · exact changed_of_eq h
    · dsimp only
      exact changed_update h

theorem changed_reveal {world ready : World} (h : ready.livery = world.livery) :
    world.livery.Changed none ready.reveal.livery := by
  rcases livery_reveal ready with hSame | hHanded
  · rw [hSame, h]
    exact .kept
  · rw [hHanded, h]
    exact .updated world.livery.pending

theorem changed_scheduleUpdate {world ready : World} (h : ready.livery = world.livery) :
    world.livery.Changed none ready.scheduleUpdate.livery := by
  rw [livery_scheduleUpdate, h]
  exact .scheduled

theorem changed_hideWallpaper {world ready : World} (h : ready.livery = world.livery) :
    world.livery.Changed none ready.hideWallpaper.livery := by
  unfold hideWallpaper
  split
  · exact changed_scheduleUpdate h
  · exact changed_of_eq h

theorem livery_enter (world : World) (state : State) (callback : Option Callback) :
    (world.enter state callback).livery = world.livery := by
  have hReplaced := silent_replaceCallback
    { world.debug s!"State changed to: {state.name}" with controller.state := state } callback
  have hSilent (w : World) : w.silent.livery = w.livery := rfl
  show World.livery (replaceCallback _ callback) = _
  rw [← hSilent, hReplaced]
  rfl

/-- A transition into another state sets the flag, and either puts its update off or runs it. -/
theorem changed_completeTransition {world ready : World} {state : State}
    (h : ready.livery = world.livery) (hState : ready.controller.state = state)
    (previous : State) : world.livery.Changed (some (state ≠ .brightnessMirror))
      (ready.completeTransition previous).livery := by
  subst hState
  have applied (w : World) (stale : Bool) (hMarked : w.livery = { world.livery with stale }) :
      world.livery.Changed (some stale) (w.applyTransition previous).livery := by
    unfold applyTransition
    split
    · rw [livery_scheduleUpdate]
      rw [show World.livery { w with controller.animationDelay := Time.ofMillis 100 } =
        { world.livery with stale } from hMarked]
      exact .deferred stale
    · split
      · rw [livery_preDraw, hMarked]
        exact .applied stale
      · rw [livery_scheduleUpdate, hMarked]
        exact .deferred stale
  unfold completeTransition
  extract_lets abandoned state controller marked awake complete
  have hAwake : awake.restartWallpaper.livery =
      { world.livery with stale := decide (ready.controller.state ≠ .brightnessMirror) } := by
    rw [← h]
    dsimp only [awake]
    split
    · rfl
    · rfl
  exact applied awake.restartWallpaper _ hAwake

theorem changed_transition {world : World} {state : State} {callback : Option Callback}
    (accepted : (world.transition state callback).error = none) :
    world.livery.Changed
      (Event.mark? (.request (.transition state callback)) world.controller.state)
      (world.transition state callback).world.livery := by
  show world.livery.Changed
    (if state = world.controller.state then none else some (decide (state ≠ .brightnessMirror))) _
  by_cases hActive : state = world.controller.state
  · rw [transition_of_active hActive accepted, if_pos hActive]
    exact changed_of_eq (livery_of_standing (standing_of_silent (silent_confirm world callback)))
  · obtain ⟨-, targets, hTransition⟩ := transition_of_accepted hActive accepted
    have hEnter := livery_enter world state callback
    have hState := state_enter world state callback
    rw [hTransition, if_neg hActive]
    generalize world.enter state callback = entered at hEnter hState ⊢
    refine changed_completeTransition ?_ ?_ _
    · exact hEnter
    · exact hState

theorem changed_run {world : World} {operation : Operation}
    (accepted : (operation.run world).error = none) :
    world.livery.Changed (Event.mark? (.request operation) world.controller.state)
      (operation.run world).world.livery := by
  cases operation with
  | transition state callback => exact changed_transition accepted
  | panelExpansion fraction => exact changed_of_eq (livery_setPanelExpansion world fraction)
  | quickSettings fraction panelBottom =>
      exact changed_of_eq (livery_setQuickSettings world fraction panelBottom)
  | expansionAffectsAlpha affects =>
      cases affects with
      | true => exact changed_of_eq (livery_applyGesture _)
      | false => exact .kept
  | aodFrontAlpha alpha =>
      simp only [Operation.run, setAodFrontAlpha]
      split
      · exact .kept
      · split
        · exact changed_update rfl
        · exact .kept
  | screenSensor active =>
      simp only [Operation.run, setScreenSensor]
      split
      · exact changed_refreshBehind rfl
      · exact .kept
  | backdrop visible =>
      simp only [Operation.run, setBackdrop]
      split
      · exact changed_refreshBehind rfl
      · exact .kept
  | keyguardOccluded occluded =>
      simp only [Operation.run, setKeyguardOccluded]
      exact changed_update rfl
  | keyguardAlpha alpha =>
      simp only [Operation.run, setKeyguardAlpha]
      split
      · exact .kept
      · exact changed_scheduleUpdate rfl
  | theme palette =>
      simp only [Operation.run, themeChanged]
      rw [livery_scheduleUpdate]
      exact .renewed palette
  | themeChanged =>
      simp only [Operation.run, themeChanged]
      rw [livery_scheduleUpdate]
      exact .renewed world.host.theme
  | keyguardVisibility showing =>
      simp only [Operation.run, keyguardVisibilityChanged]
      rw [livery_scheduleUpdate]
      exact .renewed world.controller.palette
  | screenOn =>
      simp only [Operation.run, screenTurnedOn]
      split
      · exact .kept
      · exact changed_reveal rfl
  | wallpaperTimeout => exact changed_hideWallpaper rfl
  | _ => exact .kept

/-! ## Steps -/

theorem Step.changed {before after : World} {event : Event} (step : Step before event after) :
    before.livery.Changed (event.mark? before.controller.state) after.livery := by
  cases step with
  | request accepted => exact changed_run accepted
  | clock time => exact .kept
  | alarm due => exact changed_hideWallpaper rfl
  | @task task scheduler due =>
      cases task with
      | pendingFrame => exact changed_of_eq (livery_of_standing (standing_frameCommitted _))
      | blankingTransition => exact changed_reveal rfl
      | scheduleWallpaperTimeout => exact .kept
      | cancelWallpaperTimeout => exact .kept
  | animationFrame requested =>
      exact changed_of_eq (livery_of_standing (standing_animationFrame _))
  | preDraw listening =>
      rw [livery_preDraw]
      exact .updated false

/-- The event clears the flag of a palette that some main layer does not wear yet. -/
def Moment.Overtakes (moment : Moment) : Prop :=
  moment.event.mark? moment.before.controller.state = some false ∧ ¬moment.before.livery.Fresh

def Moment.Renews (moment : Moment) : Prop :=
  moment.event.mark? moment.before.controller.state = some true

/-- A palette is overtaken, and nothing after that raises its flag again. -/
def Overtaken (moments : List Moment) : Prop :=
  ∃ early moment late, moments = early ++ moment :: late ∧ moment.Overtakes ∧
    ∀ later ∈ late, ¬later.Renews

theorem overtaken_snoc {moments : List Moment} {moment : Moment} :
    Overtaken (moments ++ [moment]) ↔
      moment.Overtakes ∨ Overtaken moments ∧ ¬moment.Renews := by
  constructor
  · rintro ⟨early, overtaking, late, hSplit, hOvertakes, hLate⟩
    rcases List.eq_nil_or_concat' late with rfl | ⟨rest, last, rfl⟩
    · obtain ⟨-, hLast⟩ := List.append_inj' hSplit rfl
      obtain rfl := (List.cons.inj hLast).1
      exact Or.inl hOvertakes
    · rw [← List.cons_append, ← List.append_assoc] at hSplit
      obtain ⟨hEarly, hLast⟩ := List.append_inj' hSplit rfl
      obtain rfl := (List.cons.inj hLast).1
      obtain ⟨hRest, hKeeps⟩ := forall_mem_snoc.mp hLate
      exact Or.inr ⟨⟨early, overtaking, rest, hEarly, hOvertakes, hRest⟩, hKeeps⟩
  · rintro (hOvertakes | ⟨⟨early, overtaking, late, rfl, hOvertakes, hLate⟩, hKeeps⟩)
    · exact ⟨moments, moment, [], rfl, hOvertakes, fun _ hMem => absurd hMem List.not_mem_nil⟩
    · exact ⟨early, overtaking, late ++ [moment], by simp, hOvertakes,
        forall_mem_snoc.mpr ⟨hLate, hKeeps⟩⟩

theorem Step.forgotten_iff {before after : World} {event : Event}
    (step : Step before event after) : after.livery.Forgotten ↔
      Moment.Overtakes ⟨before, event, after⟩ ∨
        before.livery.Forgotten ∧ ¬Moment.Renews ⟨before, event, after⟩ :=
  step.changed.forgotten_iff

/-! ## Whole runs -/

theorem Run.forgotten_iff {start last : World} {moments : List Moment}
    (run : Run start moments last) (h : ¬start.livery.Forgotten) :
    last.livery.Forgotten ↔ Overtaken moments := by
  induction run with
  | nil =>
      constructor
      · exact fun hForgotten => absurd hForgotten h
      · rintro ⟨early, moment, late, hSplit, -⟩
        exact absurd hSplit.symm (List.append_ne_nil_of_right_ne_nil _ (List.cons_ne_nil _ _))
  | snoc run step ih => rw [overtaken_snoc, ← ih, step.forgotten_iff]

theorem livery_create {settings : Settings} {options : SimulationOptions}
    {simulation : Simulation} (h : Simulation.create settings options = .ok simulation) :
    simulation.world.livery = (fresh settings options).livery.handOn := by
  have hUpdated := livery_update (fresh settings options)
  obtain ⟨message, screenOn, hWorld⟩ := create_eq h
  rw [hWorld]
  generalize (fresh settings options).update = updated at hUpdated ⊢
  exact hUpdated

/-- In every run from a fresh simulation, all attached surfaces wear the palette in force at a
boundary without a pending update exactly if the palette was not overtaken. -/
theorem all_wear_palette_iff {settings : Settings} {options : SimulationOptions}
    {simulation : Simulation} (created : Simulation.create settings options = .ok simulation)
    {last : World} {moments : List Moment} (run : Run simulation.world moments last)
    (updated : last.controller.updatePending = false) :
    (∀ layer surface, last.surface? layer = some surface →
        surface.palette = last.controller.palette) ↔ ¬Overtaken moments := by
  obtain ⟨hFresh, hAttended⟩ : ¬simulation.world.livery.Forgotten ∧
      simulation.world.livery.Attended := by
    rw [livery_create created, Livery.forgotten_handOn]
    refine ⟨?_, Livery.attended_handOn⟩
    rintro ⟨hStale, -⟩
    cases hStale
  have hLast : last.livery.Attended := run.invariant (fun world => world.livery.Attended)
    (fun _ _ _ h step => step.changed.attended h) hAttended
  rw [← run.forgotten_iff hFresh]
  constructor
  · rintro hWorn ⟨-, hOther⟩
    refine hOther fun layer hMain => ?_
    obtain ⟨surface, hSurface⟩ := Option.isSome_iff_exists.mp (isSome_surface? last hMain)
    rw [worn_livery, hSurface, Option.map_some, hWorn layer surface hSurface]
    rfl
  · intro hKnown layer surface hSurface
    have hWorn : last.livery.worn.get layer = some surface.palette := by
      rw [worn_livery, hSurface, Option.map_some]
    by_cases hMain : layer = .auxiliary
    · subst hMain
      exact hLast.auxiliary updated _ hWorn
    · have hMainFresh : last.livery.Fresh := by
        by_contra hOther
        exact hKnown ⟨hLast.stale updated, hOther⟩
      exact Option.some.inj (hWorn.symm.trans (hMainFresh layer hMain))

def mintTheme : Palette := ⟨⟨0xff98ff98⟩, ⟨0xff202124⟩, false⟩

set_option maxRecDepth 100000 in
/-- The notice of the next frame has all surfaces wear a new theme. -/
theorem all_wear_new_theme : ∃ simulation middle last,
    Simulation.create {} {} = .ok simulation ∧
    Run simulation.world [⟨simulation.world, .request (.theme mintTheme), middle⟩,
      ⟨middle, .host .preDraw, last⟩] last ∧
    last.controller.palette = mintTheme ∧
    ∀ layer surface, last.surface? layer = some surface →
      surface.palette = last.controller.palette := by
  have hCreated : (Simulation.create {} {}).toOption.any (fun simulation =>
      (simulation.world.undergo (.request (.theme mintTheme))).any fun middle =>
        (middle.undergo (.host .preDraw)).any fun last =>
          !last.controller.updatePending && last.controller.palette = mintTheme) = true := by
    decide +kernel
  obtain ⟨simulation, hCreate, hThemed⟩ := Simulation.exists_of_any_create hCreated
  obtain ⟨middle, hTheme, hDrawn⟩ := (Option.any_eq_true _ _).mp hThemed
  obtain ⟨last, hDraw, hFacts⟩ := (Option.any_eq_true _ _).mp hDrawn
  simp only [Bool.and_eq_true, Bool.not_eq_true', decide_eq_true_eq] at hFacts
  obtain ⟨hUpdated, hPalette⟩ := hFacts
  have hRun : Run simulation.world [⟨simulation.world, .request (.theme mintTheme), middle⟩,
      ⟨middle, .host .preDraw, last⟩] last :=
    (Run.nil.snoc (step_iff_undergo.mpr hTheme)).snoc (step_iff_undergo.mpr hDraw)
  refine ⟨simulation, middle, last, hCreate, hRun, hPalette, ?_⟩
  refine (all_wear_palette_iff hCreate hRun hUpdated).mpr ?_
  rintro ⟨early, moment, late, hSplit, ⟨hMark, -⟩, -⟩
  have hMem : moment ∈ [(⟨simulation.world, .request (.theme mintTheme), middle⟩ : Moment),
      ⟨middle, .host .preDraw, last⟩] := by
    rw [hSplit]
    exact List.mem_append_right _ List.mem_cons_self
  rcases List.mem_cons.mp hMem with rfl | hMem
  · cases hMark
  · obtain rfl := List.mem_singleton.mp hMem
    cases hMark

set_option maxRecDepth 100000 in
/-- Entering the brightness mirror in the same frame as a new theme has the main layers keep the
old one. -/
theorem mirror_overtakes_theme : ∃ simulation,
    Simulation.play {} {} [.perform (.theme mintTheme),
      .perform (.transition .brightnessMirror none), .advance (Time.ofMillis 16)] =
        some simulation ∧
    simulation.world.controller.updatePending = false ∧
    simulation.world.controller.palette = mintTheme ∧
    simulation.world.host.surfaces.front.palette ≠ mintTheme ∧
    simulation.world.host.surfaces.auxiliary.map (·.palette) = some mintTheme := by
  have hPlayed : (Simulation.play {} {} [.perform (.theme mintTheme),
      .perform (.transition .brightnessMirror none), .advance (Time.ofMillis 16)]).any
        (fun simulation =>
          let world := simulation.world
          !world.controller.updatePending && (world.controller.palette = mintTheme) &&
            (world.host.surfaces.front.palette.mainColor = ⟨0xff202124⟩) &&
            (world.host.surfaces.auxiliary.map (·.palette) = some mintTheme)) = true := by
    decide +kernel
  obtain ⟨simulation, hPlay, hFacts⟩ := (Option.any_eq_true _ _).mp hPlayed
  simp only [Bool.and_eq_true, Bool.not_eq_true', decide_eq_true_eq] at hFacts
  obtain ⟨⟨⟨hUpdated, hPalette⟩, hFront⟩, hAuxiliary⟩ := hFacts
  refine ⟨simulation, hPlay, hUpdated, hPalette, ?_, hAuxiliary⟩
  intro hWorn
  rw [hWorn] at hFront
  exact absurd hFront (by decide)

end World

end Scrim
