import Scrim.Proofs.Run

/-!
# The agenda

Most of what an operation does is drawing, logging and announcing. The *agenda* of a world is
what is left when all of that is put aside: which animations run and for whom, how far a
blanking has come, what is queued, whether an update is pending, who waits, and the wake
lock. This module says what can happen to an agenda, and that drawing, announcing and telling
callbacks leave it alone.
-/

namespace Scrim

namespace Animations

/-- For every layer with an animation, the registration that it carries. -/
def carried (animations : Animations) : PerLayer (Option (Option Registration)) :=
  let running := animations.running
  ⟨running.front.map (·.registration), running.behind.map (·.registration),
    running.notifications.map (·.registration), running.auxiliary.map (·.registration)⟩

theorem get_carried (animations : Animations) (layer : Layer) :
    animations.carried.get layer = (animations.get? layer).map (·.registration) := by
  cases layer <;> rfl

@[simp] theorem carried_start (animations : Animations) (layer : Layer)
    (animation : Animation) : (animations.start layer animation).carried =
      animations.carried.set layer (some animation.registration) := by
  cases layer <;> rfl

@[simp] theorem carried_cancel (animations : Animations) (layer : Layer) :
    (animations.cancel layer).carried = animations.carried.set layer none := by
  cases layer <;> rfl

end Animations

/-- Who waits for what, drawings and announcements put aside. -/
structure Agenda where
  callback : Option Registration
  /-- For every layer with an animation, the registration that it carries. -/
  running : PerLayer (Option (Option Registration))
  blanking : Blanking
  blankScreen : Bool
  wakeGuard : WakeGuard Unit
  lockCalls : List LockCall
  updatePending : Bool
  /-- The behind layer's surface announces the next frame. -/
  listening : Bool
  scheduler : Scheduler
  /-- The auxiliary layer is attached. -/
  auxiliary : Bool

namespace Agenda

def moving (agenda : Agenda) : Bool :=
  Layer.all.any fun layer => (agenda.running.get layer).isSome

/-- No animation runs on a layer that is not there. -/
def Attached (agenda : Agenda) : Prop :=
  agenda.auxiliary = false → agenda.running.auxiliary = none

/-- Puts an animation for `holder` on a layer, or none, and requests a frame for it. -/
def place (agenda : Agenda) (layer : Layer) (holder : Option (Option Registration)) : Agenda :=
  { agenda with
    running := agenda.running.set layer holder
    scheduler := { agenda.scheduler with
      frameRequested := agenda.scheduler.frameRequested || holder.isSome } }

/-- Puts an animation on every layer that has a holder and none on the others. -/
def placeAll (agenda : Agenda) (running : PerLayer (Option (Option Registration))) : Agenda :=
  { agenda with
    running := running
    scheduler := { agenda.scheduler with
      frameRequested := agenda.scheduler.frameRequested ||
        Layer.all.any fun layer => (running.get layer).isSome } }

def hold (agenda : Agenda) : Agenda :=
  let step := agenda.wakeGuard.hold
  { agenda with wakeGuard := step.1, lockCalls := step.2.calls ++ agenda.lockCalls }

def release (agenda : Agenda) : Agenda :=
  let step := agenda.wakeGuard.release
  { agenda with wakeGuard := step.1, lockCalls := step.2.calls ++ agenda.lockCalls }

def forget (agenda : Agenda) (registration : Option Registration) : Agenda :=
  match registration with
  | none => agenda
  | some registration =>
    if agenda.callback.map (·.id) = some registration.id then { agenda with callback := none }
    else agenda

theorem forget_of_active {agenda : Agenda} {registration : Registration}
    (h : agenda.callback.map (·.id) = some registration.id) :
    agenda.forget (some registration) = { agenda with callback := none } :=
  if_pos h

theorem forget_of_inactive {agenda : Agenda} {registration : Registration}
    (h : ¬agenda.callback.map (·.id) = some registration.id) :
    agenda.forget (some registration) = agenda :=
  if_neg h

theorem forget_callback (agenda : Agenda) :
    agenda.forget agenda.callback = { agenda with callback := none } := by
  cases h : agenda.callback with
  | none =>
      rcases agenda with ⟨_⟩
      obtain rfl : _ = none := h
      rfl
  | some registration => exact forget_of_active (by rw [h]; rfl)

theorem place_none_place (agenda : Agenda) (layer : Layer)
    (holder : Option (Option Registration)) :
    (agenda.place layer none).place layer holder = agenda.place layer holder := by
  cases layer <;> simp [place, PerLayer.set]

theorem moving_eq_false_iff {agenda : Agenda} :
    agenda.moving = false ↔ agenda.running = .splat none := by
  rcases agenda with ⟨_, ⟨front, behind, notifications, auxiliary⟩⟩
  simp [moving, Layer.all, PerLayer.get, PerLayer.splat]

theorem moving_of_running {agenda : Agenda} {layer : Layer} {registration : Option Registration}
    (h : agenda.running.get layer = some registration) : agenda.moving = true := by
  refine List.any_eq_true.mpr ⟨layer, layer.mem_all, ?_⟩
  rw [h]
  rfl

theorem place_auxiliary_none {agenda : Agenda} (h : agenda.running.auxiliary = none) :
    agenda.place .auxiliary none = agenda := by
  rcases agenda with ⟨_, ⟨_, _, _, _⟩⟩
  obtain rfl : _ = none := h
  simp [place, PerLayer.set]

theorem Attached.place_none {agenda : Agenda} (h : agenda.Attached) (layer : Layer) :
    (agenda.place layer none).Attached := by
  intro hAbsent
  cases layer
  case auxiliary => rfl
  all_goals exact h hAbsent

end Agenda

namespace World

def agenda (world : World) : Agenda where
  callback := world.controller.callback
  running := world.controller.animations.carried
  blanking := world.controller.blanking
  blankScreen := world.controller.blankScreen
  wakeGuard := world.controller.wakeGuard
  lockCalls := world.journal.lockCalls
  updatePending := world.controller.updatePending
  listening := world.host.surfaces.behind.preDrawListener
  scheduler := world.host.scheduler
  auxiliary := world.hasLayer .auxiliary

theorem anyAnimating_eq_moving (world : World) :
    world.controller.animations.anyAnimating = world.agenda.moving := by
  simp only [Agenda.moving, agenda, Animations.get_carried, Option.isSome_map]
  rfl

/-! ## Drawing and announcing -/

@[simp] theorem agenda_debug (world : World) (message : String) :
    (world.debug message).agenda = world.agenda := rfl

@[simp] theorem agenda_dispatchState (world : World) (alpha : Float32) :
    (world.dispatchState alpha).agenda = world.agenda := rfl

@[simp] theorem agenda_dispatchVisibility (world : World) :
    world.dispatchVisibility.agenda = world.agenda := by
  unfold dispatchVisibility
  dsimp only
  split <;> rfl

theorem agenda_modify (world : World) (layer : Layer) {change : Surface → Surface}
    (h : ∀ surface, (change surface).preDrawListener = surface.preDrawListener) :
    { world with host.surfaces := world.host.surfaces.modify layer change }.agenda
      = world.agenda := by
  cases layer <;>
    simp [agenda, hasLayer, Surfaces.modify, Surfaces.has, Surfaces.get?, h]

@[simp] theorem agenda_draw (world : World) (layer : Layer) (look : Look) :
    (world.draw layer look).agenda = world.agenda := by
  unfold draw
  split
  · rw [agenda_dispatchVisibility]
    exact agenda_modify world layer fun _ => rfl
  · rfl

@[simp] theorem agenda_applyPalette (world : World) (layer : Layer) :
    (world.applyPalette layer).agenda = world.agenda :=
  agenda_modify world layer fun _ => rfl

@[simp] theorem agenda_refreshPalette (world : World) :
    world.refreshPalette.agenda = world.agenda := by
  unfold refreshPalette
  split
  · simp only [agenda_dispatchState, agenda_applyPalette]
    rfl
  · rfl

@[simp] theorem agenda_hideBehind (world : World) :
    world.hideBehind.agenda = world.agenda := by
  unfold hideBehind
  dsimp only
  split <;> rfl

@[simp] theorem agenda_dropUnlockTint (world : World) :
    world.dropUnlockTint.agenda = world.agenda := by
  simp only [dropUnlockTint, List.foldl_cons, List.foldl_nil, agenda_draw]
  rfl

/-! ## Telling callbacks -/

@[simp] theorem agenda_deliver (world : World) (registration : Option Nat)
    (callback : Callback) (kind : Notification) :
    (world.deliver registration callback kind).agenda = world.agenda := rfl

@[simp] theorem agenda_notify (world : World) (registration : Registration)
    (kind : Notification) : (world.notify registration kind).agenda = world.agenda := by
  unfold notify
  split
  · rfl
  · exact agenda_deliver ..

@[simp] theorem agenda_terminate (world : World) (registration : Registration)
    (kind : Notification) : (world.terminate registration kind).agenda = world.agenda := by
  unfold terminate
  split <;> rfl

@[simp] theorem agenda_notifyActive (world : World) (kind : Notification) :
    (world.notifyActive kind).agenda = world.agenda := by
  unfold notifyActive
  split
  · rfl
  · exact agenda_notify ..

@[simp] theorem agenda_notifyBlankedOnce (world : World) :
    world.notifyBlankedOnce.agenda = world.agenda := by
  unfold notifyBlankedOnce
  split
  · exact agenda_notifyActive world .displayBlanked
  · rfl

end World

end Scrim
