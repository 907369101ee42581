import Mathlib.Data.List.Chain
import Scrim.Proofs.Answer
import Scrim.Proofs.Reliability

/-!
# Visibility reports

The *sight* of a world is what its front and behind layers show, the category that was reported
last, and every report so far. Whoever draws one of the two layers compares the category with the
report at once (`Sight.observe`). So each function of a controller, also one that is refused
halfway, leaves a sight that was redrawn any number of times (`Sight.Redrawn`), and none that is
stale.

A sight is *coherent* if the last report is the category of what shows and no report repeats the
one before. However a simulation is used, and at every boundary inside the event loop, its sight is
coherent (`Simulation.Used.visibility_coherent`).
-/

namespace Scrim

/-- What the front and behind layers show, and what was reported of it. -/
structure Sight where
  front : Float32
  behind : Float32
  /-- The category reported last. -/
  reported : Option Visibility
  /-- Every report, newest first. -/
  reports : List Visibility

namespace Sight

def observe (sight : Sight) : Sight :=
  match Visibility.change? sight.reported sight.front sight.behind with
  | none => sight
  | some seen => { sight with reported := some seen, reports := seen :: sight.reports }

/-- What drawing can make of a sight: the layers show something else and are observed, any number
of times. -/
inductive Redrawn (sight : Sight) : Sight → Prop where
  | kept : Redrawn sight sight
  | drawn {middle : Sight} (redrawn : Redrawn sight middle) (front behind : Float32) :
      Redrawn sight (observe { middle with front, behind })

/-- The category reported last is the newest report, and no report repeats the one before. -/
structure Tracked (sight : Sight) : Prop where
  newest : sight.reports.head? = sight.reported
  distinct : sight.reports.IsChain (· ≠ ·)

/-- The category reported last is that of what shows. -/
structure Coherent (sight : Sight) : Prop extends Tracked sight where
  current : sight.reported = some (Visibility.classify sight.front sight.behind)

variable {sight middle after : Sight}

theorem Redrawn.of_eq (h : after = sight) : sight.Redrawn after :=
  h ▸ .kept

theorem Redrawn.observed (redrawn : sight.Redrawn after) : sight.Redrawn after.observe :=
  redrawn.drawn after.front after.behind

theorem Redrawn.trans (first : sight.Redrawn middle) (second : middle.Redrawn after) :
    sight.Redrawn after := by
  induction second with
  | kept => exact first
  | drawn _ front behind ih => exact ih.drawn front behind

/-- What is drawn does not touch the reports. -/
theorem Tracked.shows (h : sight.Tracked) (front behind : Float32) :
    Tracked { sight with front, behind } :=
  ⟨h.newest, h.distinct⟩

/-- Observing makes a tracked sight coherent, whatever shows. -/
theorem Tracked.observe (h : sight.Tracked) : sight.observe.Coherent := by
  unfold Sight.observe
  cases hChange : Visibility.change? sight.reported sight.front sight.behind with
  | none => exact { h with current := Visibility.change?_eq_none_iff.mp hChange }
  | some seen =>
      obtain ⟨hNew, rfl⟩ : sight.reported ≠ some (Visibility.classify sight.front sight.behind) ∧
          Visibility.classify sight.front sight.behind = seen := by
        simpa [Visibility.change?] using hChange
      refine { newest := rfl, distinct := h.distinct.cons ?_, current := rfl }
      rintro newest hNewest rfl
      exact hNew (h.newest.symm.trans hNewest)

theorem Redrawn.tracked (redrawn : sight.Redrawn after) (h : sight.Tracked) : after.Tracked := by
  induction redrawn with
  | kept => exact h
  | drawn _ front behind ih => exact (ih.shows front behind).observe.toTracked

theorem Redrawn.coherent (redrawn : sight.Redrawn after) (h : sight.Coherent) : after.Coherent := by
  cases redrawn with
  | kept => exact h
  | drawn redrawn front behind => exact ((redrawn.tracked h.toTracked).shows front behind).observe

end Sight

namespace World

def sight (world : World) : Sight where
  front := world.host.surfaces.front.alpha
  behind := world.host.surfaces.behind.alpha
  reported := world.controller.visibility
  reports := world.journal.visibilityChanges

/-- The second world shows what the first shows, or was drawn since. -/
abbrev RedrawnBy (world after : World) : Prop :=
  world.sight.Redrawn after.sight

section Telling

variable (world : World)

theorem sight_dispatchVisibility : world.dispatchVisibility.sight = world.sight.observe := by
  unfold dispatchVisibility Sight.observe
  dsimp only [sight]
  cases Visibility.change? world.controller.visibility world.host.surfaces.front.alpha
    world.host.surfaces.behind.alpha with
  | none => rfl
  | some seen => rfl

theorem sight_modify (layer : Layer) {change : Surface → Surface}
    (h : ∀ surface, (change surface).alpha = surface.alpha) :
    sight { world with host.surfaces := world.host.surfaces.modify layer change } =
      world.sight := by
  cases layer
  case auxiliary => rfl
  all_goals simp [sight, Surfaces.modify, h]

theorem sight_notify (registration : Registration) (kind : Notification) :
    (world.notify registration kind).sight = world.sight := by
  unfold notify
  split
  · rfl
  · rfl

theorem sight_terminate (registration : Registration) (kind : Notification) :
    (world.terminate registration kind).sight = world.sight := by
  unfold terminate
  split
  · rfl
  · rfl

theorem sight_notifyActive (kind : Notification) :
    (world.notifyActive kind).sight = world.sight := by
  unfold notifyActive
  split
  · rfl
  · exact sight_notify ..

theorem sight_notifyBlankedOnce : world.notifyBlankedOnce.sight = world.sight := by
  unfold notifyBlankedOnce
  split
  · exact sight_notifyActive world .displayBlanked
  · rfl

theorem sight_finishRegistration (registration : Registration) :
    (world.finishRegistration registration).sight = world.sight := by
  have hTold := sight_terminate world registration .finished
  unfold finishRegistration
  dsimp only
  split
  · exact hTold
  · exact hTold

theorem sight_confirm (callback : Option Callback) :
    (world.confirm callback).sight = world.sight := by
  cases callback with
  | none => rfl
  | some callback =>
      unfold confirm
      dsimp -zeta only
      extract_lets registered
      split
      · rfl
      · rfl

theorem sight_replaceCallback (callback : Option Callback) :
    (world.replaceCallback callback).sight = world.sight := by
  unfold replaceCallback
  extract_lets cancelled
  have hCancelled : cancelled.sight = world.sight := by
    dsimp only [cancelled]
    split
    · rfl
    · exact sight_terminate ..
  split
  · exact hCancelled
  · exact hCancelled

theorem sight_scheduleUpdate : world.scheduleUpdate.sight = world.sight := by
  unfold scheduleUpdate
  split
  · rfl
  · exact sight_modify world .behind fun _ => rfl

end Telling

/-! ## Drawing -/

section Drawing

variable (world : World)

theorem redrawn_draw (layer : Layer) (look : Look) : world.RedrawnBy (world.draw layer look) := by
  unfold draw
  split
  · rw [RedrawnBy, sight_dispatchVisibility]
    cases layer with
    | front => exact Sight.Redrawn.kept.drawn _ world.sight.behind
    | behind => exact Sight.Redrawn.kept.drawn world.sight.front _
    | notifications => exact Sight.Redrawn.kept.observed
    | auxiliary => exact Sight.Redrawn.kept.observed
  · exact .kept

theorem redrawn_foldl {α : Type} {step : World → α → World} {world ready : World}
    (h : ready.sight = world.sight) (redraws : ∀ w item, RedrawnBy w (step w item))
    (items : List α) : world.RedrawnBy (items.foldl step ready) := by
  rw [RedrawnBy, ← h]
  clear h
  induction items generalizing ready with
  | nil => exact .kept
  | cons item rest ih => exact (redraws ready item).trans ih

theorem redrawn_moveToTarget (layer : Layer) (current : Look) :
    world.RedrawnBy (world.moveToTarget layer current) := by
  unfold moveToTarget
  dsimp only
  split
  · split
    · exact .kept
    · exact redrawn_draw ..
  · exact .kept

theorem redrawn_updateLayer (layer : Layer) : world.RedrawnBy (world.updateLayer layer) := by
  unfold updateLayer
  split
  · exact .kept
  · extract_lets stopped told announced
    split
    · exact .kept
    · split
      · exact redrawn_draw stopped .front ⟨1, Color.black⟩
      · have hTold : told.sight = world.sight := sight_notifyBlankedOnce stopped
        have hAnnounced : announced.sight = world.sight := by
          dsimp only [announced]
          split
          · exact hTold
          · exact hTold
        rw [RedrawnBy, ← hAnnounced]
        exact redrawn_moveToTarget announced layer _

theorem redrawn_dropUnlockTint : world.RedrawnBy world.dropUnlockTint := by
  unfold dropUnlockTint
  refine redrawn_foldl ?_ (fun w layer => redrawn_draw w layer (w.target layer)) _
  rfl

theorem redrawn_settle (registration : Option Registration) :
    world.RedrawnBy (world.settle registration) := by
  unfold settle
  split
  · exact .kept
  · split
    · split
      · exact .kept
      · split
        · exact .kept
        · exact .of_eq (sight_terminate ..)
    · extract_lets released finished
      have hFinished : finished.sight = world.sight := by
        dsimp only [finished]
        split
        · rfl
        · exact sight_finishRegistration released _
      split
      · rw [RedrawnBy, ← hFinished]
        exact redrawn_dropUnlockTint finished
      · exact .of_eq hFinished

theorem sight_applyPalette (layer : Layer) : (world.applyPalette layer).sight = world.sight :=
  sight_modify world layer fun _ => rfl

theorem sight_hideBehind : world.hideBehind.sight = world.sight := by
  unfold hideBehind
  dsimp only
  split
  · rfl
  · rfl

theorem sight_refreshPalette : world.refreshPalette.sight = world.sight := by
  unfold refreshPalette
  split
  · dsimp only
    refine (sight_applyPalette _ .notifications).trans ?_
    rw [sight_applyPalette, sight_applyPalette]
    rfl
  · rfl

theorem redrawn_updateLayers : world.RedrawnBy world.updateLayers := by
  unfold updateLayers
  extract_lets ready main
  have hReady : ready.sight = world.sight :=
    (sight_hideBehind _).trans (sight_refreshPalette world)
  have hMain : ready.RedrawnBy main :=
    ((redrawn_updateLayer ready .front).trans (redrawn_updateLayer _ .behind)).trans
      (redrawn_updateLayer _ .notifications)
  have hPalette := sight_applyPalette main .auxiliary
  rw [RedrawnBy, ← hReady]
  refine hMain.trans ?_
  rw [← hPalette]
  exact redrawn_updateLayer _ .auxiliary

/-- Whatever an update draws, the last thing it does is to observe. -/
theorem redrawn_update : ∃ drawn : Sight, world.sight.Redrawn drawn ∧
    world.update.sight = drawn.observe := by
  unfold update
  exact ⟨_, (redrawn_updateLayers world).trans (redrawn_settle _ _), sight_dispatchVisibility _⟩

end Drawing

variable {world ready : World}

theorem redrawn_of_update (h : ready.sight = world.sight) : world.RedrawnBy ready.update := by
  obtain ⟨drawn, hDrawn, hUpdate⟩ := redrawn_update ready
  rw [RedrawnBy, hUpdate, ← h]
  exact hDrawn.observed

/-! ## Frames and tasks -/

theorem redrawn_preDraw (h : ready.sight = world.sight) : world.RedrawnBy ready.preDraw := by
  refine redrawn_of_update ((sight_notifyActive _ .start).trans (Eq.trans ?_ h))
  exact sight_modify ready .behind fun _ => rfl

theorem redrawn_reveal (h : ready.sight = world.sight) : world.RedrawnBy ready.reveal := by
  unfold reveal
  split
  · exact .of_eq h
  · dsimp only
    exact redrawn_of_update h

theorem redrawn_animationFrame (world : World) : world.RedrawnBy world.animationFrame := by
  have hShown : world.RedrawnBy world.showAnimations := by
    unfold showAnimations
    refine redrawn_foldl ?_ (fun w (frame : Frame) => redrawn_draw w frame.layer frame.look) _
    rfl
  have hSettled (completions : List Completion) :
      world.showAnimations.RedrawnBy (world.showAnimations.settleAll completions) := by
    refine redrawn_foldl rfl (fun w completion => ?_) completions
    rw [RedrawnBy, sight_dispatchVisibility]
    exact (redrawn_settle w completion.registration).observed
  unfold animationFrame
  dsimp only
  split
  · exact hShown.trans (hSettled _)
  · exact hShown.trans (hSettled _)

theorem sight_frameCommitted (world : World) : world.frameCommitted.sight = world.sight := by
  unfold frameCommitted
  dsimp only
  split
  · rfl
  · split
    · exact sight_notifyActive _ .displayBlanked
    · rfl

theorem sight_hideWallpaper (world : World) : world.hideWallpaper.sight = world.sight := by
  unfold hideWallpaper
  split
  · exact sight_scheduleUpdate _
  · rfl

theorem redrawn_runTask (h : ready.sight = world.sight) (task : Task) :
    world.RedrawnBy (ready.runTask task) := by
  cases task with
  | pendingFrame => exact .of_eq ((sight_frameCommitted ready).trans h)
  | blankingTransition => exact redrawn_reveal h
  | scheduleWallpaperTimeout => exact .of_eq h
  | cancelWallpaperTimeout => exact .of_eq h

theorem redrawn_hostEvent (event : HostEvent) (world : World) :
    world.RedrawnBy (event.run world) := by
  cases event with
  | preDraw => exact redrawn_preDraw rfl
  | animationFrame => exact redrawn_animationFrame world
  | task task => exact redrawn_runTask rfl task

/-! ## Gestures -/

theorem redrawn_followTarget (world : World) (layer : Layer) :
    world.RedrawnBy (world.followTarget layer) := by
  unfold followTarget
  split
  · split
    · exact redrawn_draw ..
    · next animations look _ =>
      exact redrawn_draw { world with controller.animations := animations } layer look
  · exact .kept

theorem redrawn_followGesture (h : ready.sight = world.sight) :
    world.RedrawnBy ready.followGesture := by
  have restored (w : World) : w.restoreWallpaper.sight = w.sight := by
    unfold restoreWallpaper
    split
    · rfl
    · rfl
  unfold followGesture
  extract_lets moved
  rw [RedrawnBy, restored]
  exact redrawn_foldl h redrawn_followTarget _

theorem redrawn_applyGesture (h : ready.sight = world.sight) :
    world.RedrawnBy ready.applyGesture.world := by
  have hOverlaid : ready.overlayGesture.world.sight = world.sight := h
  unfold applyGesture
  split
  · next hOverlay =>
    rw [hOverlay] at hOverlaid
    exact .of_eq hOverlaid
  · next hOverlay =>
    rw [hOverlay] at hOverlaid
    split
    · exact .of_eq hOverlaid
    · exact redrawn_followGesture hOverlaid

theorem redrawn_setPanelExpansion (world : World) (fraction : Float32) :
    world.RedrawnBy (world.setPanelExpansion fraction).world := by
  unfold setPanelExpansion
  split
  · exact .kept
  · exact .kept
  · dsimp only
    split
    · exact redrawn_applyGesture rfl
    · exact .kept

theorem redrawn_setQuickSettings (world : World) (fraction : Float32) (panelBottom : Int) :
    world.RedrawnBy (world.setQuickSettings fraction panelBottom).world := by
  have hFollowed : (world.followNotifications fraction panelBottom).sight = world.sight := by
    unfold followNotifications
    dsimp only
    split
    · rfl
    · rfl
  unfold setQuickSettings
  generalize world.followNotifications fraction panelBottom = followed at hFollowed ⊢
  split
  · exact .kept
  · dsimp only
    split
    · exact .of_eq hFollowed
    · split
      · exact redrawn_applyGesture hFollowed
      · exact .of_eq hFollowed

/-! ## Requests -/

/-- Facts are not seen. -/
theorem sight_of_factless {changed : World} (facts : changed.factless = world.factless) :
    changed.sight = world.sight := by
  show changed.factless.sight = world.factless.sight
  rw [facts]

theorem Answered.redrawn {after : World} (answered : world.Answered after) :
    world.RedrawnBy after := by
  cases answered with
  | noted facts => exact .of_eq (sight_of_factless facts)
  | updated facts => exact redrawn_of_update (sight_of_factless facts)
  | scheduled facts => exact .of_eq ((sight_scheduleUpdate _).trans (sight_of_factless facts))
  | revealed facts =>
      have hSame := sight_of_factless facts
      exact redrawn_reveal hSame
  | hidden => exact .of_eq (sight_hideWallpaper world)

theorem sight_enter (world : World) (state : State) (callback : Option Callback) :
    (world.enter state callback).sight = world.sight :=
  sight_replaceCallback
    { world.debug s!"State changed to: {state.name}" with controller.state := state } callback

theorem redrawn_completeTransition (h : ready.sight = world.sight) (previous : State) :
    world.RedrawnBy (ready.completeTransition previous) := by
  have applied (w : World) : w.RedrawnBy (w.applyTransition previous) := by
    unfold applyTransition
    split
    · exact .of_eq (sight_scheduleUpdate _)
    · split
      · exact redrawn_preDraw rfl
      · exact .of_eq (sight_scheduleUpdate w)
  unfold completeTransition
  extract_lets abandoned state controller marked awake complete
  have hAwake : awake.restartWallpaper.sight = world.sight := by
    rw [← h]
    dsimp only [awake]
    split
    · rfl
    · rfl
  rw [RedrawnBy, ← hAwake]
  exact applied awake.restartWallpaper

theorem redrawn_transition (world : World) (state : State) (callback : Option Callback) :
    world.RedrawnBy (world.transition state callback).world := by
  unfold transition
  split
  · exact .kept
  · split
    · exact .of_eq (sight_confirm ..)
    · dsimp only
      have hEnter := sight_enter world state callback
      generalize world.enter state callback = entered at hEnter ⊢
      split
      · exact .of_eq hEnter
      · have hOverlaid : entered.overlayGesture.world.sight = world.sight := hEnter
        split
        · next hOverlay =>
          rw [hOverlay] at hOverlaid
          exact .of_eq hOverlaid
        · next hOverlay =>
          rw [hOverlay] at hOverlaid
          exact redrawn_completeTransition hOverlaid _

/-- No request, be it refused, leaves a layer drawn and unobserved. -/
theorem redrawn_run (operation : Operation) (world : World) :
    world.RedrawnBy (operation.run world).world := by
  cases operation with
  | transition state callback => exact redrawn_transition world state callback
  | panelExpansion fraction => exact redrawn_setPanelExpansion world fraction
  | quickSettings fraction panelBottom => exact redrawn_setQuickSettings world fraction panelBottom
  | expansionAffectsAlpha affects =>
      cases affects with
      | true => exact redrawn_applyGesture rfl
      | false => exact .kept
  | _ => exact (answered_run rfl world).redrawn

/-! ## Whole uses -/

theorem Attempt.redrawn {before after : World} {event : Event}
    (attempt : Attempt before event after) : before.RedrawnBy after := by
  cases attempt with
  | refused refused => exact redrawn_run _ before
  | step step =>
      cases step with
      | request accepted => exact redrawn_run _ before
      | clock time => exact .kept
      | alarm due => exact .of_eq (sight_hideWallpaper _)
      | @task task scheduler due =>
          have hTaken : sight { before with host.scheduler := scheduler } = before.sight := rfl
          exact redrawn_runTask hTaken task
      | animationFrame requested =>
          exact redrawn_animationFrame
            { before with host.scheduler := before.host.scheduler.takeFrameRequest.2 }
      | preDraw listening => exact redrawn_preDraw rfl

theorem Trial.coherent {start last : World} {moments : List Moment}
    (trial : Trial start moments last) (h : start.sight.Coherent) : last.sight.Coherent :=
  trial.invariant (fun world => world.sight.Coherent)
    (fun _ _ _ h attempt => attempt.redrawn.coherent h) h

/-- The update of a fresh controller makes the first report. -/
theorem coherent_create {settings : Settings} {options : SimulationOptions}
    {simulation : Simulation} (h : Simulation.create settings options = .ok simulation) :
    simulation.world.sight.Coherent := by
  obtain ⟨drawn, hDrawn, hUpdate⟩ := redrawn_update (fresh settings options)
  have hUnseen : (fresh settings options).sight.Tracked := ⟨rfl, List.isChain_nil⟩
  obtain ⟨message, screenOn, hWorld⟩ := create_eq h
  rw [hWorld]
  generalize (fresh settings options).update = updated at hUpdate ⊢
  show updated.sight.Coherent
  rw [hUpdate]
  exact (hDrawn.tracked hUnseen).observe

end World

namespace Simulation

open World

variable {settings : Settings} {options : SimulationOptions} {simulation : Simulation}

theorem Used.coherent (h : Used settings options simulation) :
    simulation.world.sight.Coherent := by
  induction h with
  | created h => exact coherent_create h
  | @called simulation _ _ _ _ made ih =>
      obtain ⟨more, trial⟩ := trial_call (.nil : Trial simulation.world [] _) made
      exact trial.coherent ih
  | @delivered simulation _ event ih =>
      exact (redrawn_hostEvent event simulation.world).coherent ih
  | arranged _ scheduler alarm ih => exact ih

/-- However a simulation has been used, and whatever is attempted on it or happens in its event
loop from then on: the category that listeners were told last is that of what the front and behind
layers are drawn with, and no report told them the category that they knew. -/
theorem Used.visibility_coherent (h : Used settings options simulation) {last : World}
    {moments : List Moment} (trial : Trial simulation.world moments last) :
    (∃ front behind, last.renderedAlpha .front = .ok front ∧
      last.renderedAlpha .behind = .ok behind ∧
      last.controller.visibility = some (Visibility.classify front behind)) ∧
    last.journal.visibilityChanges.reverse.getLast? = last.controller.visibility ∧
    last.journal.visibilityChanges.reverse.IsChain (· ≠ ·) := by
  obtain ⟨⟨hNewest, hDistinct⟩, hCurrent⟩ := trial.coherent h.coherent
  refine ⟨⟨last.sight.front, last.sight.behind, rfl, rfl, hCurrent⟩, ?_, ?_⟩
  · rw [List.getLast?_reverse]
    exact hNewest
  · exact List.isChain_reverse.mpr (hDistinct.imp fun _ _ => Ne.symm)

def abruptDoze : Settings := { doze := { alwaysOn := true, controlsScreenOff := false } }

def dimmedDoze : List Call :=
  spoiledKeyguard ++ [.perform (.ambientWallpaper true), .perform (.transition .aod none),
    .perform (.aodFrontAlpha 0.5)]

set_option maxRecDepth 100000 in
/-- A dimmed display turns dark, and the third category is reported. -/
theorem visibility_coherent_of_dimmed : ∃ first dimmed,
    create abruptDoze {} = .ok first ∧ tryAll dimmedDoze first = some dimmed ∧
    let dark := ((Operation.aodFrontAlpha 1).run dimmed.world).world
    ((Operation.aodFrontAlpha 1).run dimmed.world).error = none ∧
    dark.journal.visibilityChanges = [.solid, .semiTransparent, .transparent] ∧
    (∃ front behind, dark.renderedAlpha .front = .ok front ∧
      dark.renderedAlpha .behind = .ok behind ∧
      dark.controller.visibility = some (Visibility.classify front behind)) ∧
    dark.journal.visibilityChanges.reverse.getLast? = dark.controller.visibility ∧
    dark.journal.visibilityChanges.reverse.IsChain (· ≠ ·) := by
  have hCreated : (create abruptDoze {}).toOption.any (fun first =>
      (tryAll dimmedDoze first).any fun dimmed =>
        let dark := (Operation.aodFrontAlpha 1).run dimmed.world
        dark.error.isNone &&
          (dark.world.journal.visibilityChanges = [.solid, .semiTransparent, .transparent]))
          = true := by
    decide +kernel
  obtain ⟨first, dimmed, hCreate, hMade, hFacts⟩ := exists_tryAll hCreated
  simp only [Bool.and_eq_true, Option.isNone_iff_eq_none, decide_eq_true_eq] at hFacts
  obtain ⟨hAccepted, hReports⟩ := hFacts
  exact ⟨first, dimmed, hCreate, hMade, hAccepted, hReports,
    ((Used.created hCreate).tryAll hMade).visibility_coherent
      (.snoc .nil (.step (.request hAccepted)))⟩

end Simulation

end Scrim
