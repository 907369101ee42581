import Scrim.Proofs.Ledger.Step
import Scrim.Proofs.Quiescence

/-!
# The callback protocol

Every registration is told at most once that it is over, and nothing after that; only the
newest one is open, and it is the one in the slot; only entering another state cancels; and
nothing is finished while anything runs. Once a simulation is idle every registration has been
told. `Simulation.callback_protocol` is the main statement.

It rests on the account of the ledger, and on animations carrying only registrations that have
been made (`Agenda.Mentions`).
-/

namespace Scrim

/-! ## Registrations that an agenda holds -/

namespace Agenda

/-- The registration is in the slot or carried by an animation. -/
def Mentions (agenda : Agenda) (registration : Registration) : Prop :=
  agenda.callback = some registration ∨
    ∃ layer, agenda.running.get layer = some (some registration)

variable {agenda after : Agenda} {registration : Registration}

theorem Updated.mentions (update : agenda.Updated after) (h : after.Mentions registration) :
    after.callback = some registration := by
  rcases h with hSlot | ⟨layer, hLayer⟩
  · exact hSlot
  · cases update with
    | moving idle clear holders attached moves =>
        rcases holders layer with hNone | hSome
        · exact absurd (hNone.symm.trans hLayer) nofun
        · exact Option.some.inj (hSome.symm.trans hLayer)
    | held pending => exact absurd ((PerLayer.get_splat _ _).symm.trans hLayer) nofun
    | blanked idle blank => exact absurd ((PerLayer.get_splat _ _).symm.trans hLayer) nofun
    | settled idle clear => exact absurd ((PerLayer.get_splat _ _).symm.trans hLayer) nofun

/-- A frame brings no registration in. -/
theorem Framed.mentions (framed : agenda.answer.Framed after) (h : after.Mentions registration) :
    agenda.Mentions registration := by
  cases framed with
  | still still => exact h
  | moving kept moves =>
      apply h.imp_right
      rintro ⟨layer, hLayer⟩
      refine ⟨layer, ?_⟩
      rcases kept layer with hKept | hNone
      · exact hKept.symm.trans hLayer
      · exact absurd (hNone.symm.trans hLayer) nofun
  | @settled registrations ended carried =>
      rcases h with hSlot | ⟨layer, hLayer⟩
      · refine Or.inl ?_
        simp only [forgetAny] at hSlot
        split at hSlot
        · cases hSlot
        · exact hSlot
      · exact absurd ((PerLayer.get_splat _ _).symm.trans hLayer) nofun

end Agenda

namespace World

open Agenda Ledger

/-- A step brings a registration in only through the slot. -/
theorem Stepped.mentions {world : World} {event : Event} {after : Agenda}
    {registration : Registration} (stepped : world.Stepped event after)
    (h : after.Mentions registration) :
    world.agenda.Mentions registration ∨ after.callback = some registration := by
  cases stepped with
  | @requested operation _ other request =>
      generalize operation.updates world = updates at request
      cases request with
      | same => exact Or.inl h
      | wired => exact Or.inl h
      | scheduled => exact Or.inl h
      | awake => exact Or.inl h
      | posted => exact Or.inl h
      | updated update => exact Or.inr (update.mentions h)
      | revealed phase update => exact Or.inr (update.mentions h)
  | confirmed active => exact Or.inl h
  | entered other entered =>
      cases entered with
      | deferred callback blank task =>
          refine h.elim Or.inr fun hRuns => Or.inl (Or.inr ?_)
          unfold Agenda.enter at hRuns
          split at hRuns
          · exact hRuns
          · exact hRuns
      | applied callback blank task update => exact Or.inr (update.mentions h)
  | clock time => exact Or.inl h
  | alarm =>
      split at h
      · exact Or.inl h
      · exact Or.inl h
  | task due delivered =>
      cases delivered with
      | stray commit reveal => exact Or.inl h
      | committed phase delay => exact Or.inl h
      | revealed phase update => exact Or.inr (update.mentions h)
  | animationFrame framed => exact Or.inl (framed.mentions h)
  | preDraw update => exact Or.inr (update.mentions h)

/-! ## The account of a run -/

/-- The notifications of a world are in order, and its animations carry known registrations. -/
structure Accountable (world : World) : Prop where
  driven : world.agenda.Driven
  accounted : world.ledger.Accounted
  known : ∀ registration, world.agenda.Mentions registration →
    registration.id < world.ledger.registry.next

theorem Accounts.accounted {world : World} {event : Event} {after : Ledger}
    (accounts : world.Accounts event after) (h : world.ledger.Accounted) : after.Accounted := by
  cases accounts with
  | followed other follows => exact h.follows follows
  | @confirmed state callback active =>
      rcases ledger_confirm world callback with hSame | ⟨event, hAside, -, hTold⟩
      · rw [hSame]
        exact h
      · rw [hTold]
        exact h.aside hAside
  | entered other replaced follows => exact (h.replaced replaced).follows follows

theorem Accounts.next_le {world : World} {event : Event} {after : Ledger}
    (accounts : world.Accounts event after) :
    world.ledger.registry.next ≤ after.registry.next := by
  cases accounts with
  | followed other follows => exact Nat.le_of_eq follows.next_eq.symm
  | @confirmed state callback active =>
      rcases ledger_confirm world callback with hSame | ⟨event, hAside, -, hTold⟩
      · exact Nat.le_of_eq (congrArg (·.registry.next) hSame).symm
      · exact Nat.le_of_eq (congrArg (·.registry.next) hTold).symm
  | entered other replaced follows =>
      rw [follows.next_eq]
      exact replaced.next_le

theorem Step.accountable {before after : World} {event : Event} (step : Step before event after)
    (h : before.Accountable) : after.Accountable := by
  have hAccounts := step.accounts h.accounted
    fun layer held hCarried => h.known held (Or.inr ⟨layer, hCarried⟩)
  have hAccounted := hAccounts.accounted h.accounted
  refine ⟨step.driven h.driven, hAccounted, ?_⟩
  intro registration hMentions
  rcases (step.stepped_of_driven h.driven).mentions hMentions with hOld | hSlot
  · exact Nat.lt_of_lt_of_le (h.known registration hOld) hAccounts.next_le
  · have := (hAccounted.slot registration hSlot).1
    omega

theorem accounted_create {settings : Settings} {options : SimulationOptions}
    {simulation : Simulation} (h : Simulation.create settings options = .ok simulation) :
    simulation.world.ledger.Accounted := by
  unfold Simulation.create at h
  split at h
  · cases h
  · next world hAttach =>
    have hAccounted : world.ledger.Accounted := by
      unfold attach at hAttach
      split at hAttach
      · cases hAttach
      · obtain rfl := Except.ok.inj hAttach
        rw [ledger_debug]
        exact Accounted.empty.follows (follows_update rfl .empty)
    obtain rfl := Except.ok.inj h
    dsimp only
    split
    · have hLit := follows_run hAccounted .screenOn nofun
      exact hAccounted.follows hLit
    · exact hAccounted

theorem Reachable.accountable {settings : Settings} {options : SimulationOptions} {world : World}
    (h : Reachable settings options world) : world.Accountable := by
  refine h.invariant Accountable (fun simulation hCreate => ?_)
    fun _ _ _ hBefore step => step.accountable hBefore
  have hAccounted := accounted_create hCreate
  refine ⟨driven_create hCreate, hAccounted, ?_⟩
  intro registration hMentions
  have := (hAccounted.slot registration ((updated_create hCreate).mentions hMentions)).1
  omega

/-! ## The protocol -/

/-- The event asks for a state other than the active one. -/
def Enters (world : World) (event : Event) : Prop :=
  ∃ state callback, event = .request (.transition state callback) ∧
    state ≠ world.controller.state

structure Announces (before : World) (event : Event) (after : World) : Prop where
  /-- Nothing that was told is taken back. Only entering a state cancels, and only the newest
  registration, or one made just now, is told anything. -/
  appends : ∃ new, after.journal.callbackEvents = new ++ before.journal.callbackEvents ∧
    ∀ notification ∈ new, (notification.kind = .cancelled → before.Enters event) ∧
      ∀ id, notification.registration = some id → before.controller.registry.next ≤ id + 1
  /-- A callback that comes with the active state is finished once, unless the registration in
  the slot is for it. -/
  confirms : ∀ callback,
    event = .request (.transition before.controller.state (some callback)) →
    if ∃ active, before.controller.callback = some active ∧ active.wraps callback = true then
      after.journal.callbackEvents = before.journal.callbackEvents
    else ∃ notification : CallbackEvent, notification.registration = none ∧
      notification.label = callback.label ∧ notification.kind = .finished ∧
      after.journal.callbackEvents = notification :: before.journal.callbackEvents

/-- The callback protocol at one moment: what registrations have been told, and what they may
be told next. -/
structure CallbackProtocol (world : World) : Prop where
  /-- A registration is told at most once that it is over, and nothing after that. -/
  last : ∀ id, ∀ kind ∈ (told world.journal.callbackEvents id).tail, kind.isTerminal = false
  /-- Only registrations that were made are told anything. -/
  known : ∀ notification ∈ world.journal.callbackEvents, ∀ id,
    notification.registration = some id → id < world.controller.registry.next
  /-- A registration that is not over is the one in the slot. -/
  unterminated : ∀ id < world.controller.registry.next,
    (∀ kind ∈ told world.journal.callbackEvents id, kind.isTerminal = false) →
    world.controller.callback.map (·.id) = some id
  /-- The registration in the slot is the newest and not over. -/
  slot : ∀ registration, world.controller.callback = some registration →
    registration.id + 1 = world.controller.registry.next ∧
      ∀ kind ∈ told world.journal.callbackEvents registration.id, kind.isTerminal = false
  /-- Once a registration was told something, the ones before it are told nothing more. -/
  ordered : (world.journal.callbackEvents.filterMap (·.registration)).Pairwise (· ≥ ·)
  /-- A registration is finished only while nothing runs and no black frame is held. -/
  finished : ∀ notification ∈ world.journal.callbackEvents,
    notification.registration.isSome = true → notification.kind = .finished →
    notification.busy = false
  steps : ∀ event after, Step world event after → Announces world event after

/-- A callback is finished on the spot exactly if the registration in the slot is not for it. -/
theorem callbackEvents_confirm (world : World) (callback : Callback) :
    if ∃ active, world.controller.callback = some active ∧ active.wraps callback = true then
      (world.confirm (some callback)).journal.callbackEvents = world.journal.callbackEvents
    else ∃ notification : CallbackEvent, notification.registration = none ∧
      notification.label = callback.label ∧ notification.kind = .finished ∧
      (world.confirm (some callback)).journal.callbackEvents =
        notification :: world.journal.callbackEvents := by
  simp only [confirm]
  cases world.controller.callback with
  | none =>
      rw [if_neg (by simp)]
      exact ⟨_, rfl, rfl, rfl, rfl⟩
  | some active =>
      cases hWraps : active.wraps callback with
      | true =>
          rw [if_pos ⟨active, rfl, hWraps⟩]
          simp only [hWraps, if_true]
      | false =>
          rw [if_neg (by simp [hWraps])]
          simp only [hWraps]
          exact ⟨_, rfl, rfl, rfl, rfl⟩

theorem Step.announces {before after : World} {event : Event} (step : Step before event after)
    (h : before.Accountable) : Announces before event after := by
  have hAccounts := step.accounts h.accounted
    fun layer held hCarried => h.known held (Or.inr ⟨layer, hCarried⟩)
  have hEvents : after.journal.callbackEvents = after.ledger.events := rfl
  generalize after.ledger = ledger at hAccounts hEvents
  cases hAccounts with
  | followed other follows =>
      obtain ⟨new, hAppend, hNew⟩ := follows.events h.accounted
      constructor
      · refine ⟨new, hEvents.trans hAppend, ?_⟩
        intro notification hMem
        obtain ⟨hKind, newest, hNewest, hId⟩ := hNew notification hMem
        constructor
        · intro hCancelled
          exact absurd hCancelled hKind
        · intro id hAddressee
          obtain rfl := Option.some.inj (hNewest.symm.trans hAddressee)
          exact Nat.le_of_eq hId.symm
      · intro callback hEvent
        exact absurd hEvent (other _ _)
  | @confirmed state callback active =>
      constructor
      · rcases ledger_confirm before callback with hSame | ⟨told, hAside, hFinished, hTold⟩
        · exact ⟨[], hEvents.trans (congrArg Ledger.events hSame), nofun⟩
        · refine ⟨[told], hEvents.trans (congrArg Ledger.events hTold), ?_⟩
          intro notification hMem
          obtain rfl := List.mem_singleton.mp hMem
          constructor
          · intro hCancelled
            exact absurd (hFinished.symm.trans hCancelled) nofun
          · intro id hAddressee
            exact absurd (hAside.symm.trans hAddressee) nofun
      · intro other hEvent
        obtain ⟨-, rfl⟩ := Operation.transition.inj (Event.request.inj hEvent)
        have hConfirm := callbackEvents_confirm before other
        rw [hEvents]
        exact hConfirm
  | @entered state callback middle _ other replaced follows =>
      obtain ⟨closing, hClosed, hClosing⟩ := replaced.events h.accounted
      obtain ⟨new, hAppend, hNew⟩ := follows.events (h.accounted.replaced replaced)
      constructor
      · refine ⟨new ++ closing, ?_, ?_⟩
        · rw [hEvents, hAppend, hClosed, List.append_assoc]
          rfl
        · intro notification hMem
          refine ⟨fun _ => ⟨_, _, rfl, other⟩, ?_⟩
          intro id hAddressee
          rcases List.mem_append.mp hMem with hMem | hMem
          · obtain ⟨-, newest, hNewest, hId⟩ := hNew notification hMem
            obtain rfl := Option.some.inj (hNewest.symm.trans hAddressee)
            exact hId ▸ replaced.next_le
          · exact hClosing notification hMem id hAddressee
      · intro _ hEvent
        exact absurd (Operation.transition.inj (Event.request.inj hEvent)).1 other

theorem Accountable.protocol {world : World} (h : world.Accountable) : world.CallbackProtocol where
  last := h.accounted.orderly.last
  known := h.accounted.orderly.known
  unterminated id hLt hProgress := by
    apply h.accounted.others id hLt
    intro hEnded
    obtain ⟨kind, hMem, hTerminal⟩ := (h.accounted.ended id).mp hEnded
    exact absurd ((hProgress kind hMem).symm.trans hTerminal) Bool.false_ne_true
  slot registration hSlot :=
    ⟨(h.accounted.slot registration hSlot).1, h.accounted.progress_only hSlot⟩
  ordered := h.accounted.orderly.ordered
  finished := h.accounted.orderly.rest
  steps _ _ step := step.announces h

end World

namespace Simulation

open World

/-- Once nobody waits in the slot, every registration was told exactly once that it is over. -/
theorem terminated_of_quiescent {world : World} (h : world.CallbackProtocol)
    (quiescent : world.Quiescent) {id : Nat} (hLt : id < world.controller.registry.next) :
    (told world.journal.callbackEvents id).countP (·.isTerminal) = 1 := by
  have hTerminal : ∃ kind ∈ told world.journal.callbackEvents id, kind.isTerminal = true := by
    apply Decidable.not_not.mp
    intro hNone
    have hSlot := h.unterminated id hLt fun kind hMem =>
      Bool.of_not_eq_true fun hKind => hNone ⟨kind, hMem, hKind⟩
    rw [quiescent.slot] at hSlot
    cases hSlot
  have hLast := h.last id
  obtain ⟨kind, hMem, hKind⟩ := hTerminal
  generalize told world.journal.callbackEvents id = kinds at hLast hMem ⊢
  cases kinds with
  | nil => cases hMem
  | cons newest older =>
      have hOlder : older.countP (·.isTerminal) = 0 :=
        List.countP_eq_zero.mpr fun other hOther => by simp [hLast other hOther]
      have hNewest : newest.isTerminal = true := by
        rcases List.mem_cons.mp hMem with rfl | hMem
        · exact hKind
        · exact absurd ((hLast kind hMem).symm.trans hKind) Bool.false_ne_true
      rw [List.countP_cons_of_pos hNewest, hOlder]

/-- In every run callbacks are told by the protocol, and whenever the simulation is idle every
registration was told exactly once that it is over. -/
theorem callback_protocol {settings : Settings} {options : SimulationOptions} :
    (∀ world, Reachable settings options world → world.CallbackProtocol) ∧
    ∀ simulation, Reached settings options simulation →
      Reachable settings options simulation.world ∧
      (simulation.isIdle = true → ∀ id < simulation.world.controller.registry.next,
        (told simulation.world.journal.callbackEvents id).countP (·.isTerminal) = 1) := by
  constructor
  · intro world h
    exact h.accountable.protocol
  intro simulation h
  refine ⟨h.reachable, ?_⟩
  intro hIdle id hLt
  exact terminated_of_quiescent h.reachable.accountable.protocol
    (quiescent_of_isIdle (attended_of_driven h.reachable.driven) h.reachable.paired hIdle) hLt

set_option maxRecDepth 100000 in
/-- An unlock takes over from a pulse: the pulse is cancelled, and the unlock runs to its end. -/
theorem callback_protocol_of_supersession :
    ∃ simulation, play {} {} [.perform (.expansionAffectsAlpha false),
        .perform (.keyguardFadingAway true 0),
        .perform (.transition .pulsing (some ⟨0, "pulse"⟩)),
        .perform (.transition .unlocked (some ⟨1, "unlock"⟩)),
        .runUntilIdle (Time.ofMillis 1000)] = some simulation ∧
      simulation.isIdle = true ∧ simulation.world.CallbackProtocol ∧
      told simulation.world.journal.callbackEvents 0 = [.cancelled] ∧
      (told simulation.world.journal.callbackEvents 1).countP (·.isTerminal) = 1 := by
  have hPlayed : (play {} {} [.perform (.expansionAffectsAlpha false),
      .perform (.keyguardFadingAway true 0),
      .perform (.transition .pulsing (some ⟨0, "pulse"⟩)),
      .perform (.transition .unlocked (some ⟨1, "unlock"⟩)),
      .runUntilIdle (Time.ofMillis 1000)]).any (fun simulation => simulation.isIdle &&
        (told simulation.world.journal.callbackEvents 0 = [.cancelled] &&
          1 < simulation.world.controller.registry.next)) = true := by
    decide +kernel
  obtain ⟨simulation, hPlay, hLast⟩ := (Option.any_eq_true _ _).mp hPlayed
  obtain ⟨hIdle, hMore⟩ := Bool.and_eq_true_iff.mp hLast
  obtain ⟨hTold, hNext⟩ := Bool.and_eq_true_iff.mp hMore
  have hReached := reached_play hPlay
  exact ⟨simulation, hPlay, hIdle, callback_protocol.1 _ hReached.reachable,
    of_decide_eq_true hTold,
    (callback_protocol.2 simulation hReached).2 hIdle 1 (of_decide_eq_true hNext)⟩

end Simulation

end Scrim
