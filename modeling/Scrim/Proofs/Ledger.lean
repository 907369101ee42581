import Mathlib.Logic.Relation
import Scrim.Proofs.Driven

/-!
# The ledger of notifications

The *ledger* of a world is what callbacks have been told: the registration in the slot, the
registry, and every notification that was delivered. A ledger goes on in three ways only. The
registration in the slot is told of progress, it is finished and leaves the slot, or a
transition closes it and registers the next one.

`Ledger.Accounted` is the invariant. Whatever was registered and has not ended is in the slot,
and a terminal notification is the last of its registration. It is what makes the copies of a
registration that running animations hold harmless: a copy of one that has ended tells nobody
anything.
-/

namespace Scrim

def Notification.isTerminal : Notification → Bool
  | .finished | .cancelled => true
  | _ => false

def told (events : List CallbackEvent) (id : Nat) : List Notification :=
  (events.filter (·.registration = some id)).map (·.kind)

theorem told_cons_self {event : CallbackEvent} {id : Nat} (h : event.registration = some id)
    (events : List CallbackEvent) : told (event :: events) id = event.kind :: told events id := by
  simp [told, h]

theorem told_cons_of_ne {event : CallbackEvent} {id : Nat} (h : event.registration ≠ some id)
    (events : List CallbackEvent) : told (event :: events) id = told events id := by
  simp [told, h]

/-! ## Orderly notifications -/

/-- Notifications that went to registrations numbered below `next`, one registration after the
other, each told last that it has ended. -/
structure Orderly (next : Nat) (events : List CallbackEvent) : Prop where
  known : ∀ event ∈ events, ∀ id, event.registration = some id → id < next
  /-- Only the last notification can be terminal. -/
  last : ∀ id, ∀ kind ∈ (told events id).tail, kind.isTerminal = false
  /-- A registration is finished only when all has come to rest. -/
  rest : ∀ event ∈ events, event.registration.isSome = true → event.kind = .finished →
    event.busy = false
  /-- Later notifications belong to later registrations. -/
  ordered : (events.filterMap (·.registration)).Pairwise (· ≥ ·)

namespace Orderly

variable {next : Nat} {events : List CallbackEvent}

theorem nil (next : Nat) : Orderly next [] := by
  constructor <;> simp [told]

theorem mono (h : Orderly next events) {later : Nat} (hLe : next ≤ later) :
    Orderly later events :=
  { h with known := fun event hMem id hId => Nat.lt_of_lt_of_le (h.known event hMem id hId) hLe }

/-- The newest registration is told something while it has been told of progress only. -/
theorem cons (h : Orderly next events) {event : CallbackEvent} {id : Nat}
    (newest : id + 1 = next) (addressee : event.registration = some id)
    (progress : ∀ kind ∈ told events id, kind.isTerminal = false)
    (rest : event.kind = .finished → event.busy = false) : Orderly next (event :: events) where
  known other hMem otherId hId := by
    rcases List.mem_cons.mp hMem with rfl | hMem
    · obtain rfl := Option.some.inj (addressee.symm.trans hId)
      omega
    · exact h.known other hMem otherId hId
  last otherId := by
    by_cases hId : event.registration = some otherId
    · obtain rfl := Option.some.inj (addressee.symm.trans hId)
      rw [told_cons_self addressee]
      exact progress
    · rw [told_cons_of_ne hId]
      exact h.last otherId
  rest other hMem hSome hFinished := by
    rcases List.mem_cons.mp hMem with rfl | hMem
    · exact rest hFinished
    · exact h.rest other hMem hSome hFinished
  ordered := by
    rw [List.filterMap_cons_some addressee]
    refine List.pairwise_cons.mpr ⟨fun otherId hMem => ?_, h.ordered⟩
    obtain ⟨other, hOther, hId⟩ := List.mem_filterMap.mp hMem
    have := h.known other hOther otherId hId
    omega

/-- A callback that is not registered is told something. -/
theorem aside (h : Orderly next events) {event : CallbackEvent}
    (addressee : event.registration = none) : Orderly next (event :: events) where
  known other hMem id hId := by
    rcases List.mem_cons.mp hMem with rfl | hMem
    · rw [addressee] at hId
      cases hId
    · exact h.known other hMem id hId
  last id := by
    rw [told_cons_of_ne (by rw [addressee]; nofun)]
    exact h.last id
  rest other hMem hSome hFinished := by
    rcases List.mem_cons.mp hMem with rfl | hMem
    · rw [addressee] at hSome
      cases hSome
    · exact h.rest other hMem hSome hFinished
  ordered := by
    rw [List.filterMap_cons_none addressee]
    exact h.ordered

end Orderly

/-! ## Ledgers -/

/-- What callbacks have been told, newest first, and who is told next. -/
structure Ledger where
  callback : Option Registration
  registry : Registry
  events : List CallbackEvent

def World.ledger (world : World) : Ledger where
  callback := world.controller.callback
  registry := world.controller.registry
  events := world.journal.callbackEvents

namespace Ledger

def record (ledger : Ledger) (event : CallbackEvent) : Ledger :=
  { ledger with events := event :: ledger.events }

def close (ledger : Ledger) (registration : Registration) (event : CallbackEvent) : Ledger where
  callback := none
  registry := { ledger.registry with ended := registration.id :: ledger.registry.ended }
  events := event :: ledger.events

def register (ledger : Ledger) (callback : Callback) : Ledger :=
  { ledger with
    callback := some (ledger.registry.register callback).1
    registry := (ledger.registry.register callback).2 }

structure Accounted (ledger : Ledger) : Prop where
  /-- The registration in the slot is the newest, and has not ended. -/
  slot : ∀ registration, ledger.callback = some registration →
    registration.id + 1 = ledger.registry.next ∧ registration.id ∉ ledger.registry.ended
  /-- All others have. -/
  others : ∀ id < ledger.registry.next, id ∉ ledger.registry.ended →
    ledger.callback.map (·.id) = some id
  /-- A registration has ended once it was told so. -/
  ended : ∀ id, id ∈ ledger.registry.ended ↔
    ∃ kind ∈ told ledger.events id, kind.isTerminal = true
  orderly : Orderly ledger.registry.next ledger.events

variable {ledger after : Ledger}

namespace Accounted

theorem empty : Accounted ⟨none, {}, []⟩ where
  slot := nofun
  others := nofun
  ended id := by simp [told]
  orderly := .nil 0

/-- The open registration has been told of progress only. -/
theorem progress_only (h : ledger.Accounted) {registration : Registration}
    (hSlot : ledger.callback = some registration) :
    ∀ kind ∈ told ledger.events registration.id, kind.isTerminal = false := by
  intro kind hMem
  apply Bool.of_not_eq_true
  intro hTerminal
  exact (h.slot registration hSlot).2 ((h.ended _).mpr ⟨kind, hMem, hTerminal⟩)

theorem record (h : ledger.Accounted) {registration : Registration}
    (hSlot : ledger.callback = some registration) {event : CallbackEvent}
    (addressee : event.registration = some registration.id)
    (progress : event.kind.isTerminal = false) : (ledger.record event).Accounted where
  slot := h.slot
  others := h.others
  ended id := by
    refine (h.ended id).trans ?_
    by_cases hId : event.registration = some id
    · simp [Ledger.record, told_cons_self hId, progress]
    · simp [Ledger.record, told_cons_of_ne hId]
  orderly := h.orderly.cons (h.slot registration hSlot).1 addressee (h.progress_only hSlot)
    fun hFinished => by simp [hFinished, Notification.isTerminal] at progress

theorem close (h : ledger.Accounted) {registration : Registration}
    (hSlot : ledger.callback = some registration) {event : CallbackEvent}
    (addressee : event.registration = some registration.id)
    (terminal : event.kind.isTerminal = true)
    (rest : event.kind = .finished → event.busy = false) :
    (ledger.close registration event).Accounted where
  slot := nofun
  others id hLt hOpen := by
    have hNe : id ≠ registration.id := fun hEq => hOpen (hEq ▸ List.mem_cons_self)
    have hOther := h.others id hLt fun hMem => hOpen (List.mem_cons_of_mem _ hMem)
    rw [hSlot] at hOther
    exact absurd (Option.some.inj hOther).symm hNe
  ended id := by
    by_cases hId : event.registration = some id
    · obtain rfl := Option.some.inj (addressee.symm.trans hId)
      simp [Ledger.close, told_cons_self addressee, terminal]
    · have hNe : id ≠ registration.id := fun hEq => hId (hEq ▸ addressee)
      simp [Ledger.close, told_cons_of_ne hId, hNe, h.ended]
  orderly := h.orderly.cons (h.slot registration hSlot).1 addressee (h.progress_only hSlot) rest

theorem register (h : ledger.Accounted) (hEmpty : ledger.callback = none)
    (callback : Callback) : (ledger.register callback).Accounted where
  slot registration hSlot := by
    obtain rfl := Option.some.inj hSlot
    refine ⟨rfl, ?_⟩
    intro hEnded
    obtain ⟨kind, hMem, -⟩ := (h.ended _).mp hEnded
    obtain ⟨event, hEvent, -⟩ := List.mem_map.mp hMem
    obtain ⟨hEvent, hId⟩ := List.mem_filter.mp hEvent
    exact Nat.lt_irrefl _ (h.orderly.known event hEvent _ (of_decide_eq_true hId))
  others id hLt hOpen := by
    rcases Nat.lt_succ_iff_lt_or_eq.mp hLt with hLt | rfl
    · have hOther := h.others id hLt hOpen
      rw [hEmpty] at hOther
      cases hOther
    · rfl
  ended := h.ended
  orderly := h.orderly.mono (Nat.le_succ _)

/-- What a callback without a registration is told is no matter of the account. -/
theorem aside (h : ledger.Accounted) {event : CallbackEvent}
    (addressee : event.registration = none) : (ledger.record event).Accounted where
  slot := h.slot
  others := h.others
  ended id := by
    have hNe : event.registration ≠ some id := by
      rw [addressee]
      nofun
    refine (h.ended id).trans ?_
    simp [Ledger.record, told_cons_of_ne hNe]
  orderly := h.orderly.aside addressee

end Accounted

/-! ## How ledgers go on -/

inductive Tells (ledger : Ledger) : Ledger → Prop where
  /-- The registration in the slot is told of progress. -/
  | progress {registration : Registration} {event : CallbackEvent}
      (slot : ledger.callback = some registration)
      (addressee : event.registration = some registration.id)
      (kind : event.kind.isTerminal = false) : Tells ledger (ledger.record event)
  /-- It is finished once all has come to rest, and leaves the slot. -/
  | finished {registration : Registration} {event : CallbackEvent}
      (slot : ledger.callback = some registration)
      (addressee : event.registration = some registration.id)
      (kind : event.kind = .finished) (rest : event.busy = false) :
      Tells ledger (ledger.close registration event)

/-- What any number of notifications between transitions make of a ledger. -/
def Follows : Ledger → Ledger → Prop :=
  Relation.ReflTransGen Tells

/-- What entering another state makes of a ledger: the registration in the slot is cancelled,
and the callback, if there is one, is registered. -/
inductive Replaced (ledger : Ledger) : Ledger → Prop where
  | silent (slot : ledger.callback = none) : Replaced ledger ledger
  | registered (slot : ledger.callback = none) (callback : Callback) :
      Replaced ledger (ledger.register callback)
  | cancelled {registration : Registration} {event : CallbackEvent}
      (slot : ledger.callback = some registration)
      (addressee : event.registration = some registration.id) (kind : event.kind = .cancelled) :
      Replaced ledger (ledger.close registration event)
  | superseded {registration : Registration} {event : CallbackEvent}
      (slot : ledger.callback = some registration)
      (addressee : event.registration = some registration.id) (kind : event.kind = .cancelled)
      (callback : Callback) :
      Replaced ledger ((ledger.close registration event).register callback)

namespace Accounted

theorem tells (h : ledger.Accounted) (tells : ledger.Tells after) : after.Accounted := by
  cases tells with
  | progress slot addressee kind => exact h.record slot addressee kind
  | finished slot addressee kind rest =>
      exact h.close slot addressee (by rw [kind]; rfl) fun _ => rest

theorem follows (h : ledger.Accounted) (follows : ledger.Follows after) : after.Accounted := by
  induction follows with
  | refl => exact h
  | tail _ tells ih => exact ih.tells tells

theorem replaced (h : ledger.Accounted) (replaced : ledger.Replaced after) :
    after.Accounted := by
  cases replaced with
  | silent slot => exact h
  | registered slot callback => exact h.register slot callback
  | cancelled slot addressee kind =>
      exact h.close slot addressee (by rw [kind]; rfl) fun hFinished => by
        rw [kind] at hFinished
        cases hFinished
  | superseded slot addressee kind callback =>
      have hClosed := h.close slot addressee (by rw [kind]; rfl) fun hFinished => by
        rw [kind] at hFinished
        cases hFinished
      exact hClosed.register rfl callback

end Accounted

theorem Tells.next_eq (tells : ledger.Tells after) :
    after.registry.next = ledger.registry.next := by
  cases tells with
  | progress slot addressee kind => rfl
  | finished slot addressee kind rest => rfl

theorem Follows.next_eq (follows : ledger.Follows after) :
    after.registry.next = ledger.registry.next := by
  induction follows with
  | refl => rfl
  | tail _ tells ih => exact tells.next_eq.trans ih

/-- Between transitions nobody becomes active. -/
theorem Follows.slot (follows : ledger.Follows after) {active : Registration}
    (hSlot : after.callback = some active) : ledger.callback = some active := by
  induction follows with
  | refl => exact hSlot
  | tail _ tells ih =>
      cases tells with
      | progress slot addressee kind => exact ih hSlot
      | finished slot addressee kind rest => cases hSlot

theorem Replaced.next_le (replaced : ledger.Replaced after) :
    ledger.registry.next ≤ after.registry.next := by
  cases replaced with
  | silent slot => exact Nat.le_refl _
  | registered slot callback => exact Nat.le_succ _
  | cancelled slot addressee kind => exact Nat.le_refl _
  | superseded slot addressee kind callback => exact Nat.le_succ _

/-- Entering a state tells at most the newest registration. -/
theorem Replaced.events (replaced : ledger.Replaced after) (h : ledger.Accounted) :
    ∃ new, after.events = new ++ ledger.events ∧ ∀ event ∈ new, ∀ id,
      event.registration = some id → ledger.registry.next ≤ id + 1 := by
  have closing : ∀ {registration : Registration} {event : CallbackEvent},
      ledger.callback = some registration → event.registration = some registration.id →
      ∃ new, event :: ledger.events = new ++ ledger.events ∧ ∀ event ∈ new, ∀ id,
        event.registration = some id → ledger.registry.next ≤ id + 1 := by
    intro registration event hSlot hAddressee
    refine ⟨[event], rfl, ?_⟩
    intro other hMem id hId
    obtain rfl := List.mem_singleton.mp hMem
    obtain rfl := Option.some.inj (hAddressee.symm.trans hId)
    exact Nat.le_of_eq (h.slot _ hSlot).1.symm
  cases replaced with
  | silent slot => exact ⟨[], rfl, nofun⟩
  | registered slot callback => exact ⟨[], rfl, nofun⟩
  | cancelled slot addressee kind => exact closing slot addressee
  | superseded slot addressee kind callback => exact closing slot addressee

/-- Between transitions only the newest registration is told anything, and it is not
cancelled. -/
theorem Follows.events (follows : ledger.Follows after) (h : ledger.Accounted) :
    ∃ new, after.events = new ++ ledger.events ∧ ∀ event ∈ new, event.kind ≠ .cancelled ∧
      ∃ id, event.registration = some id ∧ id + 1 = ledger.registry.next := by
  induction follows with
  | refl => exact ⟨[], rfl, nofun⟩
  | @tail middle last follows tells ih =>
      obtain ⟨new, hEvents, hNew⟩ := ih
      have hMiddle := h.follows follows
      have hNext := Follows.next_eq follows
      have more : ∀ event : CallbackEvent, event.kind ≠ .cancelled →
          (∃ id, event.registration = some id ∧ id + 1 = ledger.registry.next) →
          last.events = event :: middle.events → ∃ new, last.events = new ++ ledger.events ∧
            ∀ event ∈ new, event.kind ≠ .cancelled ∧
              ∃ id, event.registration = some id ∧ id + 1 = ledger.registry.next := by
        intro event hKind hAddressee hLast
        refine ⟨event :: new, by rw [hLast, hEvents, List.cons_append], ?_⟩
        intro other hMem
        rcases List.mem_cons.mp hMem with rfl | hMem
        · exact ⟨hKind, hAddressee⟩
        · exact hNew other hMem
      cases tells with
      | progress slot addressee kind =>
          refine more _ (fun hKind => ?_) ⟨_, addressee, ?_⟩ rfl
          · simp [hKind, Notification.isTerminal] at kind
          · rw [← hNext]
            exact (hMiddle.slot _ slot).1
      | finished slot addressee kind rest =>
          refine more _ (by rw [kind]; nofun) ⟨_, addressee, ?_⟩ rfl
          rw [← hNext]
          exact (hMiddle.slot _ slot).1

end Ledger

end Scrim
