import Scrim.Proofs.Cover
import Scrim.Proofs.Standing

/-!
# Gestures and transitions

The *outlook* of a world is what it aims at and what that was resolved from. A pull of the shade or
of quick settings moves the gesture and, if the state follows it, lays it over the targets
(`Outlook.pull`). A transition resolves the targets of its state and lays the gesture over them, and
if it is applied at once, an activity over the lock screen is hidden (`Outlook.enter`).

Three facts make the order of the two irrelevant. A gesture that is laid over the targets covers the
one before (`Expansion.laid_laid`). A pull that the state does not follow would not have changed the
targets (`Pull.laid_place`). What a transition resolves does not depend on the gesture
(`Outlook.base`). So the targets of a state after any pulls are its base under the gesture they come
to (`Outlook.Follows`).

`Simulation.transition_pulls_comm`: a transition and any pulls lead to the same targets and the same
gesture in either order, except that pulls uncover a pulse over an activity.
-/

namespace Scrim

/-! ## Laying gestures over targets -/

/-- The targets of the layers that a transition aims at: all but the notifications layer, which
follows quick settings alone. -/
def Targets.main (targets : Targets) : Targets where
  alpha := { targets.alpha with notifications := 0 }
  tint := { targets.tint with notifications := Color.transparent }

def Targets.hidden (targets : Targets) : Targets :=
  { targets with alpha := { targets.alpha with behind := 1 } }

namespace Expansion

variable {gesture later : Expansion}

def laid (gesture : Expansion) (state : State) (catalog : Catalog) (targets : Targets) : Targets :=
  (gesture.apply state catalog targets).1

theorem laid_main (state : State) (catalog : Catalog) (targets : Targets) :
    (gesture.laid state catalog targets).main = gesture.laid state catalog targets.main := by
  unfold laid apply
  split
  · cases state <;> rfl
  · rfl

theorem laid_laid (h : later.affectsAlpha = gesture.affectsAlpha) (state : State)
    (catalog : Catalog) (targets : Targets) :
    later.laid state catalog (gesture.laid state catalog targets) =
      later.laid state catalog targets := by
  unfold laid apply
  rw [h]
  split
  · cases state <;> rfl
  · rfl

/-- A state that does not follow the shade is not changed by a gesture. -/
theorem laid_of_untracked {state : State} (h : state.tracksPanel = false) (catalog : Catalog)
    (targets : Targets) : gesture.laid state catalog targets = targets := by
  obtain ⟨hDarkens, hReveals⟩ := Bool.or_eq_false_iff.mp h
  unfold laid apply overlay
  rw [hDarkens, hReveals]
  split
  · rfl
  · rfl

end Expansion

/-! ## Pulls -/

/-- A pull of the shade or of quick settings. -/
inductive Pull where
  | shade (fraction : Float32)
  | quickSettings (fraction : Float32) (panelBottom : Int)

namespace Pull

def operation : Pull → Operation
  | shade fraction => .panelExpansion fraction
  | quickSettings fraction panelBottom => .quickSettings fraction panelBottom

def move (pull : Pull) (gesture : Expansion) : Expansion × Bool :=
  match pull with
  | shade fraction =>
    match gesture.setPanel fraction with
    | .ok moved => moved
    | .error _ => (gesture, false)
  | quickSettings fraction _ => gesture.setQuickSettings fraction

/-- The gesture as it is where the pull ends. -/
def place (pull : Pull) (gesture : Expansion) : Expansion :=
  match pull with
  | shade fraction => { gesture with panel := fraction }
  | quickSettings fraction _ => { gesture with quickSettings := fraction }

/-- Whether the targets of a state follow the pull. -/
def isTracked (pull : Pull) (state : State) : Bool :=
  match pull with
  | shade _ => state.tracksPanel
  | quickSettings _ _ => state.tracksQuickSettings

variable (pull : Pull) (gesture : Expansion)

theorem move_cases :
    pull.move gesture = (gesture, false) ∨ pull.move gesture = (pull.place gesture, true) := by
  cases pull with
  | shade fraction =>
      cases hNumber : fraction.isNaN with
      | true => exact Or.inl (by simp only [move, Expansion.setPanel, hNumber, if_true])
      | false =>
          cases hSame : gesture.panel == fraction with
          | true =>
              exact Or.inl (by simp only [move, Expansion.setPanel, hNumber, hSame, if_true,
                Bool.false_eq_true, if_false])
          | false =>
              exact Or.inr (by simp only [move, place, Expansion.setPanel, hNumber, hSame,
                Bool.false_eq_true, if_false])
  | quickSettings fraction panelBottom =>
      unfold move Expansion.setQuickSettings
      dsimp only
      split
      · exact Or.inl rfl
      · exact Or.inr rfl

theorem affectsAlpha_place : (pull.place gesture).affectsAlpha = gesture.affectsAlpha := by
  cases pull with
  | shade fraction => rfl
  | quickSettings fraction panelBottom => rfl

/-- A pull that a state does not follow would not change its targets. -/
theorem laid_place {state : State} (h : pull.isTracked state = false) (catalog : Catalog)
    (targets : Targets) :
    (pull.place gesture).laid state catalog targets = gesture.laid state catalog targets := by
  cases pull with
  | shade fraction =>
      rw [Expansion.laid_of_untracked h, Expansion.laid_of_untracked h]
  | quickSettings fraction panelBottom =>
      -- of the states that do not follow quick settings only the unlocked one follows the shade
      cases state with
      | unlocked =>
          have hDarkened : (place (.quickSettings fraction panelBottom) gesture).darkenedAlpha
              catalog = gesture.darkenedAlpha catalog := rfl
          simp only [Expansion.laid, Expansion.apply, Expansion.overlay, affectsAlpha_place,
            State.darkens, if_true, hDarkened]
      | keyguard => cases h
      | shadeLocked => cases h
      | pulsing => cases h
      | auxiliaryExpanded => cases h
      | _ => rw [Expansion.laid_of_untracked rfl, Expansion.laid_of_untracked rfl]

end Pull

/-! ## Outlooks -/

/-- What a world aims at, and what that was resolved from. -/
structure Outlook where
  state : State
  catalog : Catalog
  expansion : Expansion
  /-- An activity is shown over the lock screen. -/
  occluded : Bool
  targets : Targets

namespace Outlook

def overlay (outlook : Outlook) : Outlook :=
  { outlook with
    targets := outlook.expansion.laid outlook.state outlook.catalog outlook.targets }

def pull (outlook : Outlook) (pull : Pull) : Outlook :=
  match pull.move outlook.expansion with
  | (_, false) => outlook
  | (expansion, true) =>
    let moved := { outlook with expansion }
    if pull.isTracked outlook.state then moved.overlay else moved

def hide (outlook : Outlook) : Outlook :=
  let hides := outlook.state.isLowPower && outlook.occluded
  { outlook with targets := if hides then outlook.targets.hidden else outlook.targets }

def resolve (outlook : Outlook) (state : State) : Outlook :=
  let descriptor := outlook.catalog.descriptor state outlook.state
  { outlook with state, targets := Targets.main ⟨descriptor.alpha, descriptor.tint⟩ }

def appliesAtOnce (outlook : Outlook) (state : State) : Bool :=
  let doze := outlook.catalog.doze
  (outlook.state = .aod && (!doze.alwaysOn || state = .unlocked))
    || (state = .aod && !doze.displayNeedsBlanking)

def enter (outlook : Outlook) (state : State) : Outlook :=
  let entered := (outlook.resolve state).overlay
  if outlook.appliesAtOnce state then entered.hide else entered

/-- What the targets of a state would be without a gesture. -/
def base (outlook : Outlook) (state : State) : Targets :=
  let resolved := outlook.resolve state
  (if outlook.appliesAtOnce state then resolved.hide else resolved).targets

/-- The targets are these ones with the gesture laid over them. -/
def Follows (outlook : Outlook) (targets : Targets) : Prop :=
  outlook.targets = outlook.expansion.laid outlook.state outlook.catalog targets

variable {outlook other : Outlook} {targets : Targets}

theorem ext_of_follows (hState : outlook.state = other.state)
    (hCatalog : outlook.catalog = other.catalog) (hExpansion : outlook.expansion = other.expansion)
    (hOccluded : outlook.occluded = other.occluded) (h : outlook.Follows targets)
    (hOther : other.Follows targets) : outlook = other := by
  have hTargets : outlook.targets = other.targets := by
    rw [h, hOther, hState, hCatalog, hExpansion]
  cases outlook
  cases other
  simp_all

/-- Targets are followed through every pull. -/
theorem Follows.pull (h : outlook.Follows targets) (pull : Pull) :
    (outlook.pull pull).Follows targets := by
  unfold Outlook.pull
  rcases pull.move_cases outlook.expansion with hMove | hMove
  · rw [hMove]
    exact h
  · rw [hMove]
    dsimp only
    cases hTracked : pull.isTracked outlook.state with
    | true =>
        show Expansion.laid _ _ _ outlook.targets = _
        rw [h, Expansion.laid_laid (pull.affectsAlpha_place _)]
        rfl
    | false => exact Eq.trans h (pull.laid_place _ hTracked _ _).symm

theorem follows_overlay (outlook : Outlook) : outlook.overlay.Follows outlook.targets :=
  rfl

/-- Of the states that follow a gesture, only the pulse has activities to hide. -/
theorem overlay_hide (h : outlook.state = .pulsing → outlook.occluded = false) :
    outlook.overlay.hide = outlook.hide.overlay := by
  cases hHides : outlook.state.isLowPower && outlook.occluded with
  | false => simp only [hide, overlay, hHides, Bool.false_eq_true, if_false]
  | true =>
      obtain ⟨hDozes, hOccluded⟩ := Bool.and_eq_true_iff.mp hHides
      have hUntracked : outlook.state.tracksPanel = false := by
        cases hState : outlook.state with
        | aod => rfl
        | pulsing => exact absurd ((h hState).symm.trans hOccluded) Bool.false_ne_true
        | _ =>
            rw [hState] at hDozes
            cases hDozes
      simp only [hide, overlay, hHides, if_true, Expansion.laid_of_untracked hUntracked]

/-- What is entered follows its base, unless it hides an activity behind a pulse. -/
theorem enter_follows {state : State} (h : state = .pulsing → outlook.occluded = false) :
    (outlook.enter state).Follows (outlook.base state) := by
  have hOverlay : (outlook.resolve state).overlay.hide = (outlook.resolve state).hide.overlay :=
    overlay_hide h
  unfold enter base
  dsimp only
  split
  · rw [hOverlay]
    exact follows_overlay _
  · exact follows_overlay _

/-- What a state resolves to does not depend on the gesture or on the targets before. -/
theorem base_congr (outlook : Outlook) (expansion : Expansion) (targets : Targets)
    (state : State) : base { outlook with expansion, targets } state = outlook.base state := by
  have hAtOnce : appliesAtOnce { outlook with expansion, targets } state =
      outlook.appliesAtOnce state := rfl
  unfold base
  rw [hAtOnce]
  cases outlook.appliesAtOnce state with
  | false => rfl
  | true => rfl

/-! ## Pulls before and after -/

/-- A pull changes nothing but the gesture and the targets. -/
theorem pull_eq (outlook : Outlook) (pull : Pull) : ∃ targets, outlook.pull pull =
    { outlook with expansion := (pull.move outlook.expansion).1, targets } := by
  unfold Outlook.pull
  rcases pull.move_cases outlook.expansion with hMove | hMove
  · rw [hMove]
    exact ⟨outlook.targets, rfl⟩
  · rw [hMove]
    dsimp only
    split
    · exact ⟨_, rfl⟩
    · exact ⟨outlook.targets, rfl⟩

theorem enter_eq (outlook : Outlook) (state : State) : ∃ targets, outlook.enter state =
    { outlook with state, targets } := by
  unfold enter
  dsimp only
  split
  · exact ⟨_, rfl⟩
  · exact ⟨_, rfl⟩

theorem pull_enter {state : State} (h : state = .pulsing → outlook.occluded = false)
    (pull : Pull) : (outlook.pull pull).enter state = (outlook.enter state).pull pull := by
  obtain ⟨targets, hPull⟩ := outlook.pull_eq pull
  obtain ⟨entered, hEnter⟩ := outlook.enter_eq state
  obtain ⟨later, hLater⟩ := (outlook.pull pull).enter_eq state
  obtain ⟨last, hLast⟩ := (outlook.enter state).pull_eq pull
  have hBase : (outlook.pull pull).base state = outlook.base state := by
    rw [hPull, base_congr]
  have hFollows : ((outlook.pull pull).enter state).Follows (outlook.base state) := by
    rw [← hBase]
    refine enter_follows fun hPulses => ?_
    rw [hPull]
    exact h hPulses
  refine ext_of_follows ?_ ?_ ?_ ?_ hFollows ((enter_follows h).pull pull)
  · rw [hLater, hLast, hEnter]
  · rw [hLater, hLast, hEnter, hPull]
  · rw [hLater, hLast, hEnter, hPull]
  · rw [hLater, hLast, hEnter, hPull]

theorem state_foldl_pull (outlook : Outlook) (pulls : List Pull) :
    (pulls.foldl pull outlook).state = outlook.state := by
  induction pulls generalizing outlook with
  | nil => rfl
  | cons first rest ih =>
      obtain ⟨targets, hPull⟩ := outlook.pull_eq first
      rw [List.foldl_cons, ih, hPull]

theorem foldl_pull_enter {state : State} (h : state = .pulsing → outlook.occluded = false)
    (pulls : List Pull) :
    (pulls.foldl pull outlook).enter state = pulls.foldl pull (outlook.enter state) := by
  induction pulls generalizing outlook with
  | nil => rfl
  | cons first rest ih =>
      obtain ⟨targets, hPull⟩ := outlook.pull_eq first
      have hKept : state = .pulsing → (outlook.pull first).occluded = false := by
        rw [hPull]
        exact h
      rw [List.foldl_cons, List.foldl_cons, ih hKept, pull_enter h]

end Outlook

namespace World

def outlook (world : World) : Outlook where
  state := world.controller.state
  catalog := world.controller.catalog
  expansion := world.controller.expansion
  occluded := world.controller.keyguardOccluded
  targets := world.controller.targets.main

theorem outlook_of_silent {world after : World} (h : after.silent = world.silent) :
    after.outlook = world.outlook := by
  show after.silent.outlook = world.silent.outlook
  rw [h]

/-- The targets of all layers but that of notifications are part of the outlook. -/
theorem target_eq_outlook (world : World) {layer : Layer} (h : layer ≠ .notifications) :
    world.target layer =
      ⟨world.outlook.targets.alpha.get layer, world.outlook.targets.tint.get layer⟩ := by
  cases layer with
  | notifications => exact absurd rfl h
  | _ => rfl

/-! ## Drawing -/

section Drawing

variable (world : World)

@[simp] theorem outlook_draw (layer : Layer) (look : Look) :
    (world.draw layer look).outlook = world.outlook := by
  unfold draw
  split
  · dsimp only
    rw [outlook_of_silent (silent_dispatchVisibility _)]
    rfl
  · rfl

theorem outlook_moveToTarget (layer : Layer) (current : Look) :
    (world.moveToTarget layer current).outlook = world.outlook := by
  unfold moveToTarget
  dsimp only
  split
  · split
    · rfl
    · exact outlook_draw ..
  · rfl

@[simp] theorem outlook_updateLayer (layer : Layer) :
    (world.updateLayer layer).outlook = world.outlook := by
  unfold updateLayer
  split
  · rfl
  · extract_lets stopped told announced
    split
    · rfl
    · split
      · exact outlook_draw stopped .front ⟨1, Color.black⟩
      · have hTold : told.outlook = stopped.outlook :=
          outlook_of_silent (silent_notifyBlankedOnce stopped)
        rw [outlook_moveToTarget]
        dsimp only [announced]
        split
        · exact hTold
        · exact hTold

/-- Only the end of an unlock changes targets when it settles. -/
theorem outlook_settle_of_ne (registration : Option Registration)
    (h : world.controller.state ≠ .unlocked) :
    (world.settle registration).outlook = world.outlook := by
  unfold settle
  split
  · rfl
  · split
    · split
      · rfl
      · split
        · rfl
        · exact outlook_of_silent (silent_terminate ..)
    · extract_lets released finished
      have hFinished : finished.outlook = world.outlook := by
        apply outlook_of_silent
        dsimp only [finished]
        split
        · rfl
        · exact silent_finishRegistration ..
      have hState : finished.controller.state = world.controller.state :=
        congrArg Outlook.state hFinished
      rw [hState, if_neg h]
      exact hFinished

theorem outlook_refreshPalette : world.refreshPalette.outlook = world.outlook := by
  unfold refreshPalette
  split
  · rfl
  · rfl

theorem outlook_updateLayers :
    world.updateLayers.outlook = world.refreshPalette.hideBehind.outlook := by
  have applied (w : World) (layer : Layer) : (w.applyPalette layer).outlook = w.outlook := rfl
  simp only [updateLayers, outlook_updateLayer, applied]

@[simp] theorem outlook_followTarget (layer : Layer) :
    (world.followTarget layer).outlook = world.outlook := by
  unfold followTarget
  split
  · split
    · exact outlook_draw ..
    · exact outlook_draw ..
  · rfl

theorem outlook_followGesture : world.followGesture.outlook = world.outlook := by
  have restored (w : World) : w.restoreWallpaper.outlook = w.outlook := by
    unfold restoreWallpaper
    split
    · rfl
    · rfl
  unfold followGesture
  simp only [List.foldl_cons, List.foldl_nil]
  rw [restored, outlook_of_silent (silent_dispatchState ..)]
  simp only [outlook_followTarget]

end Drawing

/-! ## Updates -/

variable {world : World}

/-- What an update comes upon when it settles: an unlock has not ended if it is to be blanked. -/
structure Unsettled (world : World) : Prop where
  /-- The wallpaper has not had its time. -/
  timely : world.controller.wallpaperTimedOut = false
  /-- An unlock is behind a black frame that is not drawn yet. -/
  blanks : world.controller.state = .unlocked → world.controller.blankScreen = true
  idle : world.controller.blanking.isPending = false

theorem outlook_hideBehind (h : world.controller.wallpaperTimedOut = false) :
    world.hideBehind.outlook = world.outlook.hide := by
  have hHides : (world.controller.state.isLowPower &&
      (world.controller.wallpaperTimedOut || world.controller.keyguardOccluded)) =
      (world.outlook.state.isLowPower && world.outlook.occluded) := by
    rw [h]
    rfl
  unfold hideBehind Outlook.hide
  dsimp only
  rw [hHides]
  cases world.outlook.state.isLowPower && world.outlook.occluded with
  | false => rfl
  | true => rfl

theorem outlook_update (h : world.Unsettled) : world.update.outlook = world.outlook.hide := by
  have hTimely : world.refreshPalette.controller.wallpaperTimedOut = false := by
    unfold refreshPalette
    split
    · exact h.timely
    · exact h.timely
  have hLayers : world.updateLayers.outlook = world.outlook.hide := by
    rw [outlook_updateLayers, outlook_hideBehind hTimely, outlook_refreshPalette]
  have hState : world.updateLayers.controller.state = world.controller.state :=
    congrArg Outlook.state hLayers
  unfold update
  dsimp only
  rw [outlook_of_silent (silent_dispatchVisibility _)]
  by_cases hUnlocked : world.controller.state = .unlocked
  · have hPending := (holds_updateLayers_of_blank h.idle (h.blanks hUnlocked)).1
    rw [settle_of_pending _ hPending]
    exact hLayers
  · rw [← hState] at hUnlocked
    exact (outlook_settle_of_ne _ _ hUnlocked).trans hLayers

theorem Unsettled.notifyActive (h : world.Unsettled) (kind : Notification) :
    (world.notifyActive kind).Unsettled := by
  have hSilent := silent_notifyActive world kind
  constructor
  · exact (congrArg (·.controller.wallpaperTimedOut) hSilent).trans h.timely
  · intro hUnlocked
    have hState := congrArg (·.controller.state) hSilent
    have hBlank := congrArg (·.controller.blankScreen) hSilent
    exact hBlank.trans (h.blanks (hState.symm.trans hUnlocked))
  · exact (congrArg (·.controller.blanking.isPending) hSilent).trans h.idle

theorem outlook_preDraw (h : world.Unsettled) : world.preDraw.outlook = world.outlook.hide := by
  unfold preDraw
  dsimp only
  refine (outlook_update (Unsettled.notifyActive ?_ .start)).trans ?_
  · exact ⟨h.timely, h.blanks, h.idle⟩
  · rw [outlook_of_silent (silent_notifyActive ..)]
    rfl

theorem outlook_scheduleUpdate (world : World) : world.scheduleUpdate.outlook = world.outlook := by
  unfold scheduleUpdate
  split
  · rfl
  · rfl

/-! ## Gestures -/

theorem outlook_overlayGesture (world : World) :
    world.overlayGesture.world.outlook = world.outlook.overlay := by
  show { world.outlook with targets := Targets.main (world.controller.expansion.laid
    world.controller.state world.controller.catalog world.controller.targets) } = _
  rw [Expansion.laid_main]
  rfl

/-- Whether or not it is drawn or refused, a gesture is laid over the targets. -/
theorem outlook_applyGesture (world : World) :
    world.applyGesture.world.outlook = world.outlook.overlay := by
  have hOverlaid := outlook_overlayGesture world
  unfold applyGesture
  split
  · next hOverlay =>
    rw [hOverlay] at hOverlaid
    exact hOverlaid
  · next hOverlay =>
    rw [hOverlay] at hOverlaid
    split
    · exact hOverlaid
    · exact (outlook_followGesture _).trans hOverlaid

/-- A gesture that does not count leaves the targets alone. -/
theorem overlay_of_inert {outlook : Outlook} (h : outlook.expansion.affectsAlpha = false) :
    outlook.overlay = outlook := by
  simp [Outlook.overlay, Expansion.laid, Expansion.apply, h]

theorem outlook_ite_applyGesture (world : World) (tracked : Bool) :
    (if tracked && world.controller.expansion.affectsAlpha then world.applyGesture
      else { world := world }).world.outlook =
    if tracked then world.outlook.overlay else world.outlook := by
  cases tracked with
  | false => rfl
  | true =>
      cases hCounts : world.controller.expansion.affectsAlpha with
      | true => exact outlook_applyGesture world
      | false => exact (overlay_of_inert hCounts).symm

theorem outlook_followNotifications (world : World) (fraction : Float32) (panelBottom : Int) :
    (world.followNotifications fraction panelBottom).outlook = world.outlook := by
  unfold followNotifications
  dsimp only
  split
  · rfl
  · rfl

theorem outlook_pull (world : World) (pull : Pull) :
    (pull.operation.run world).world.outlook = world.outlook.pull pull := by
  cases pull with
  | shade fraction =>
      have hExpansion : world.outlook.expansion = world.controller.expansion := rfl
      simp only [Pull.operation, Operation.run, setPanelExpansion, Outlook.pull, Pull.move,
        hExpansion]
      rcases world.controller.expansion.setPanel fraction with error | ⟨expansion, _ | _⟩
      · rfl
      · rfl
      · exact outlook_ite_applyGesture { world with controller.expansion := expansion } _
  | quickSettings fraction panelBottom =>
      have hFollowed := outlook_followNotifications world fraction panelBottom
      simp only [Pull.operation, Operation.run, setQuickSettings, Outlook.pull, Pull.move,
        ← hFollowed]
      generalize world.followNotifications fraction panelBottom = followed at hFollowed ⊢
      have hExpansion : followed.outlook.expansion = followed.controller.expansion := rfl
      rw [hExpansion]
      cases hNumber : fraction.isNaN with
      | true =>
          have hStill : followed.controller.expansion.setQuickSettings fraction =
              (followed.controller.expansion, false) := by
            simp only [Expansion.setQuickSettings, hNumber, Bool.true_or, if_true]
          rw [hStill]
          exact hFollowed.symm
      | false =>
          rcases followed.controller.expansion.setQuickSettings fraction with ⟨expansion, _ | _⟩
          · rfl
          · exact outlook_ite_applyGesture { followed with controller.expansion := expansion } _

/-! ## Transitions -/

theorem outlook_enter (world : World) (state : State) (callback : Option Callback) :
    (world.enter state callback).outlook = world.outlook.resolve state := by
  have hReplaced := outlook_of_silent (silent_replaceCallback
    { world.debug s!"State changed to: {state.name}" with controller.state := state } callback)
  unfold enter
  dsimp only
  generalize replaceCallback _ callback = entered at hReplaced ⊢
  show Outlook.mk entered.outlook.state entered.outlook.catalog entered.outlook.expansion
    entered.outlook.occluded _ = _
  rw [hReplaced]
  rfl

/-- An unlock has nothing to hide. -/
theorem hide_of_unlocked {outlook : Outlook} (h : outlook.state = .unlocked) :
    outlook.hide = outlook := by
  have hShows : (outlook.state.isLowPower && outlook.occluded) = false := by
    rw [h]
    rfl
  unfold Outlook.hide
  rw [hShows]
  rfl

theorem outlook_applyTransition {previous : State}
    (timely : world.controller.wallpaperTimedOut = false)
    (blanks : world.controller.state = .unlocked → previous = .aod →
      world.controller.blankScreen = true)
    (idle : world.controller.blanking.isPending = false) :
    (world.applyTransition previous).outlook =
      if world.appliesAtOnce previous then world.outlook.hide else world.outlook := by
  have hSlow (h : world.controller.state = .unlocked) :
      (if world.appliesAtOnce previous then world.outlook.hide else world.outlook) =
        world.outlook := by
    rw [hide_of_unlocked h, ite_self]
  unfold applyTransition
  split
  · next hUnlocks =>
    rw [hSlow (of_decide_eq_true (Bool.and_eq_true_iff.mp hUnlocks).2)]
    exact outlook_scheduleUpdate _
  · split
    · next hAtOnce =>
      -- an unlock is applied at once only out of the always-on display
      have hFromAod (hUnlocked : world.controller.state = .unlocked) : previous = .aod := by
        simp only [appliesAtOnce, hUnlocked] at hAtOnce
        simpa using hAtOnce
      exact outlook_preDraw ⟨timely, fun hUnlocked => blanks hUnlocked (hFromAod hUnlocked), idle⟩
    · exact outlook_scheduleUpdate _

theorem outlook_completeTransition {previous : State}
    (blanks : world.controller.state = .unlocked → previous = .aod →
      world.controller.blankScreen = true) :
    (world.completeTransition previous).outlook =
      if world.appliesAtOnce previous then world.outlook.hide else world.outlook := by
  have applied (w : World) (hOutlook : w.outlook = world.outlook)
      (hTimely : w.controller.wallpaperTimedOut = false)
      (hIdle : w.controller.blanking.isPending = false)
      (hBlank : w.controller.blankScreen = world.controller.blankScreen) :
      (w.applyTransition previous).outlook =
        if world.appliesAtOnce previous then world.outlook.hide else world.outlook := by
    have hState : w.controller.state = world.controller.state := congrArg Outlook.state hOutlook
    have hCatalog : w.controller.catalog = world.controller.catalog :=
      congrArg Outlook.catalog hOutlook
    have hAtOnce : w.appliesAtOnce previous = world.appliesAtOnce previous := by
      unfold appliesAtOnce
      rw [hState, hCatalog]
    rw [← hOutlook, ← hAtOnce]
    refine outlook_applyTransition hTimely ?_ hIdle
    rw [hState, hBlank]
    exact blanks
  unfold completeTransition
  extract_lets abandoned state controller marked awake complete
  refine applied awake.restartWallpaper ?_ rfl ?_ ?_
  all_goals
    dsimp only [awake]
    split
    · rfl
    · rfl

/-- What an accepted transition into another state makes of the outlook. -/
theorem outlook_transition {state : State} {callback : Option Callback}
    (hOther : state ≠ world.controller.state)
    (accepted : (world.transition state callback).error = none) :
    (world.transition state callback).world.outlook = world.outlook.enter state := by
  obtain ⟨-, -, -, hTransition⟩ := transition_eq hOther accepted
  have hEnter := outlook_enter world state callback
  have hBlanks : state = .unlocked → world.controller.state = .aod →
      (world.enter state callback).controller.blankScreen = true := by
    intro hUnlocked hAod
    show world.controller.catalog.blanksScreen state world.controller.state = true
    rw [hUnlocked, hAod]
    rfl
  rw [hTransition]
  generalize world.enter state callback = entered at hEnter hBlanks ⊢
  have hOverlaid := outlook_overlayGesture entered
  rw [hEnter] at hOverlaid
  have hBlanked : entered.overlayGesture.world.controller.blankScreen =
      entered.controller.blankScreen := rfl
  generalize entered.overlayGesture.world = overlaid at hOverlaid hBlanked ⊢
  have hState : overlaid.controller.state = state := congrArg Outlook.state hOverlaid
  have hAtOnce : overlaid.appliesAtOnce world.controller.state =
      world.outlook.appliesAtOnce state := by
    have hCatalog : overlaid.controller.catalog = world.controller.catalog :=
      congrArg Outlook.catalog hOverlaid
    unfold appliesAtOnce
    rw [hState, hCatalog]
    rfl
  rw [outlook_completeTransition, hOverlaid, hAtOnce]
  · rfl
  · rw [hState, hBlanked]
    exact hBlanks

end World

namespace Simulation

variable {simulation left right last : Simulation} {state : State} {callback : Option Callback}
  {pulls : List Pull}

def pullCall (pull : Pull) : Call :=
  .perform pull.operation

theorem outlook_pulls (played : callAll (pulls.map pullCall) simulation = some last) :
    last.world.outlook = pulls.foldl Outlook.pull simulation.world.outlook := by
  induction pulls generalizing simulation with
  | nil =>
      obtain rfl := Option.some.inj played
      rfl
  | cons pull rest ih =>
      obtain ⟨-, hRest⟩ := callAll_perform played
      rw [ih hRest, World.outlook_pull, List.foldl_cons]

theorem target_of_outlook {world other : World} (h : world.outlook = other.outlook)
    {layer : Layer} (hMain : layer ≠ .notifications) : world.target layer = other.target layer := by
  rw [World.target_eq_outlook world hMain, World.target_eq_outlook other hMain, h]

/-- A transition into another state and any pulls, made in either order, lead to the same targets of
all layers but the notifications layer and to the same gesture: whether or not gestures count, and
whether the transition is applied at once or put off. Only a pulse must not be over an activity. -/
theorem transition_pulls_comm (other : state ≠ simulation.world.controller.state)
    (bare : state = .pulsing → simulation.world.controller.keyguardOccluded = false)
    (entersFirst : callAll (.perform (.transition state callback) :: pulls.map pullCall)
      simulation = some left)
    (entersLast : callAll (pulls.map pullCall ++ [.perform (.transition state callback)])
      simulation = some right) :
    (∀ layer, layer ≠ .notifications → left.world.target layer = right.world.target layer) ∧
    left.world.controller.expansion = right.world.controller.expansion := by
  have hOutlook : left.world.outlook = right.world.outlook := by
    obtain ⟨hAccepted, hPulls⟩ := callAll_perform entersFirst
    rw [callAll_append] at entersLast
    obtain ⟨pulled, hPulled, hEnters⟩ := Option.bind_eq_some_iff.mp entersLast
    obtain ⟨hLast, hRight⟩ := callAll_perform hEnters
    obtain rfl := Option.some.inj hRight
    have hEntered := World.outlook_transition other hAccepted
    have hAfter := outlook_pulls hPulls
    have hBefore := outlook_pulls hPulled
    have hState : pulled.world.controller.state = simulation.world.controller.state :=
      (congrArg Outlook.state hBefore).trans (Outlook.state_foldl_pull _ _)
    rw [← hState] at other
    calc left.world.outlook
        = pulls.foldl Outlook.pull (simulation.world.outlook.enter state) :=
          hAfter.trans (congrArg (pulls.foldl Outlook.pull) hEntered)
      _ = (pulls.foldl Outlook.pull simulation.world.outlook).enter state :=
          (Outlook.foldl_pull_enter bare pulls).symm
      _ = pulled.world.outlook.enter state := by rw [hBefore]
      _ = _ := (World.outlook_transition other hLast).symm
  exact ⟨fun layer hMain => target_of_outlook hOutlook hMain, congrArg Outlook.expansion hOutlook⟩

def halfwayPulls : List Pull :=
  [.shade 0.125, .quickSettings 0.5 10]

def revealingKeyguard : Option Simulation :=
  play { darkenWhileDragging := false } {}
    [.perform (.panelExpansion 0), .perform (.transition .keyguard none)]

set_option maxRecDepth 100000 in
/-- From the lock screen, quick settings are pulled before or after the shade covers it. -/
theorem transition_pulls_comm_of_halfway : ∃ simulation left right,
    revealingKeyguard = some simulation ∧
    callAll (.perform (.transition .shadeLocked none) :: halfwayPulls.map pullCall) simulation =
      some left ∧
    callAll (halfwayPulls.map pullCall ++ [.perform (.transition .shadeLocked none)]) simulation =
      some right ∧
    simulation.world.controller.targets.alpha.behind = 0 ∧
    left.world.controller.targets.alpha.behind = 0.3 ∧
    (∀ layer, layer ≠ .notifications → left.world.target layer = right.world.target layer) ∧
    left.world.controller.expansion = right.world.controller.expansion := by
  have hPlayed : revealingKeyguard.any (fun simulation =>
      let left := callAll (.perform (.transition .shadeLocked none) :: halfwayPulls.map pullCall)
        simulation
      let right := callAll (halfwayPulls.map pullCall ++
        [.perform (.transition .shadeLocked none)]) simulation
      (simulation.world.controller.state = .keyguard) &&
        (simulation.world.controller.targets.alpha.behind = 0) && right.isSome &&
        left.any fun left => left.world.controller.targets.alpha.behind = 0.3) = true := by
    decide +kernel
  obtain ⟨simulation, hSimulation, hFacts⟩ := (Option.any_eq_true _ _).mp hPlayed
  simp only [Bool.and_eq_true, decide_eq_true_eq] at hFacts
  obtain ⟨⟨⟨hState, hBefore⟩, hRight⟩, hLeft⟩ := hFacts
  obtain ⟨right, hRight⟩ := Option.isSome_iff_exists.mp hRight
  obtain ⟨left, hLeft, hAfter⟩ := (Option.any_eq_true _ _).mp hLeft
  refine ⟨simulation, left, right, hSimulation, hLeft, hRight, hBefore,
    of_decide_eq_true hAfter, ?_⟩
  have hOther : State.shadeLocked ≠ simulation.world.controller.state := by
    rw [hState]
    decide
  exact transition_pulls_comm hOther nofun hLeft hRight

end Simulation

end Scrim
