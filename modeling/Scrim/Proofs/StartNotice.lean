import Scrim.Proofs.Hearing.Attuned
import Scrim.Proofs.Quiescence

/-!
# Notice of the start

The notice that the update of a transition is about to run belongs before what the update brings:
that the display is covered, and that all has come to rest. It comes with the notice of a frame
only, though, and with every one. A second frame during a transition brings it again, and an update
that a setter runs at once, or the commit of a black frame that such an update drew, goes without
it. `Simulation.start_comes_first_iff` says that nothing else breaks the order.
-/

namespace Scrim

/-- The start is told once, and before the cover and the end. -/
def Notification.StartFirst (kind : Notification) (earlier : List Notification) : Prop :=
  (kind = .start → .start ∉ earlier) ∧
    (kind = .displayBlanked ∨ kind = .finished → .start ∈ earlier)

namespace Hearing

/-- Every registration was told of the start once, and first. -/
def Announced (hearing : Hearing) : Prop :=
  ∀ id, Unfolds Notification.StartFirst (told hearing.ledger.events id)

/-- The active registration, if there is one, was told of the start. -/
def Started (hearing : Hearing) : Prop :=
  ∀ active, hearing.ledger.callback = some active →
    .start ∈ told hearing.ledger.events active.id

variable {hearing after : Hearing}

/-! ## What was told before -/

/-- Nothing that was told is taken back. -/
def Grows (hearing after : Hearing) : Prop :=
  ∃ new, after.ledger.events = new ++ hearing.ledger.events

theorem Grows.trans {middle : Hearing} (first : hearing.Grows middle)
    (second : middle.Grows after) : hearing.Grows after := by
  obtain ⟨new, hMiddle⟩ := first
  obtain ⟨newer, hAfter⟩ := second
  exact ⟨newer ++ new, by rw [hAfter, hMiddle, List.append_assoc]⟩

theorem Announced.of_grows (h : after.Announced) (grows : hearing.Grows after) :
    hearing.Announced := by
  obtain ⟨new, hEvents⟩ := grows
  intro id
  have hAfter := h id
  rw [hEvents, told, List.filter_append, List.map_append] at hAfter
  exact hAfter.of_append

/-- Who was told of the cover in order was told of the start. -/
theorem Announced.start_mem (h : hearing.Announced) {id : Nat}
    (hTold : .displayBlanked ∈ told hearing.ledger.events id) :
    .start ∈ told hearing.ledger.events id := by
  obtain ⟨later, earlier, hSplit⟩ := List.append_of_mem hTold
  have hEarlier := (unfolds_iff.mp (h id) later .displayBlanked earlier hSplit).2 (Or.inl rfl)
  rw [hSplit]
  exact List.mem_append_right _ (List.mem_cons_of_mem _ hEarlier)

/-- Who knows of the cover was told of the start, if all was in order. -/
theorem Announced.started_of_blanked (h : hearing.Announced) (hFaithful : hearing.Faithful)
    (hKnows : hearing.blanked = true) : hearing.Started :=
  fun active hSlot => h.start_mem ((hFaithful.knows active hSlot).mpr hKnows)

theorem grows_of_eq {event : CallbackEvent}
    (h : after.ledger.events = event :: hearing.ledger.events) : hearing.Grows after :=
  ⟨[event], h⟩

theorem Grows.refl (hearing : Hearing) : hearing.Grows hearing := ⟨[], rfl⟩

theorem Covers.grows (covers : hearing.Covers after) : hearing.Grows after := by
  cases covers with
  | nobody slot => exact .refl _
  | told slot addressee kind => exact grows_of_eq rfl

theorem CoversOnce.grows (covers : hearing.CoversOnce after) : hearing.Grows after := by
  cases covers with
  | known known => exact .refl _
  | told fresh covers => exact covers.grows

theorem Settles.grows {registration : Option Registration}
    (settles : hearing.Settles registration after) : hearing.Grows after := by
  cases settles with
  | waits => exact .refl _
  | finished slot settled same addressee kind rest => exact grows_of_eq rfl

theorem Updated.grows {shows : Bool} (update : hearing.Updated shows after) :
    hearing.Grows after := by
  cases update with
  | hidden => exact .refl _
  | shown covers settles => exact covers.grows.trans settles.grows

/-! ## The start -/

/-- The notice of the start is in order exactly if it is the first to the active registration. -/
theorem Tells.announced_iff (tells : hearing.Tells .start after) (h : hearing.Announced) :
    after.Announced ↔ ∀ active, hearing.ledger.callback = some active →
      .start ∉ Scrim.told hearing.ledger.events active.id := by
  cases tells with
  | nobody slot => exact iff_of_true h fun active hSlot => absurd (slot.symm.trans hSlot) nofun
  | @told registration event slot addressee same =>
      constructor
      · intro hAfter active hSlot
        obtain rfl := Option.some.inj (slot.symm.trans hSlot)
        have hTold : Unfolds Notification.StartFirst
            (Scrim.told (event :: hearing.ledger.events) registration.id) := hAfter _
        rw [told_cons_self addressee, same] at hTold
        exact hTold.1.1 rfl
      · intro hFresh
        refine unfolds_told_cons h addressee ?_
        rw [same]
        exact ⟨fun _ => hFresh registration slot, by simp⟩

theorem Tells.started (tells : hearing.Tells .start after) : after.Started := by
  cases tells with
  | nobody slot => exact fun active hSlot => absurd (slot.symm.trans hSlot) nofun
  | @told registration event slot addressee same =>
      intro active hSlot
      obtain rfl := Option.some.inj (slot.symm.trans hSlot)
      show .start ∈ Scrim.told (event :: hearing.ledger.events) registration.id
      rw [told_cons_self addressee, same]
      exact List.mem_cons_self

/-! ## The cover and the end -/

/-- Telling of the cover is in order exactly if the start was told. -/
theorem Covers.announced_iff (covers : hearing.Covers after) (h : hearing.Announced) :
    after.Announced ↔ hearing.Started := by
  cases covers with
  | nobody slot => exact iff_of_true h fun active hSlot => absurd (slot.symm.trans hSlot) nofun
  | @told registration event slot addressee kind =>
      constructor
      · intro hAfter active hSlot
        obtain rfl := Option.some.inj (slot.symm.trans hSlot)
        have hTold : Unfolds Notification.StartFirst
            (Scrim.told (event :: hearing.ledger.events) registration.id) := hAfter _
        rw [told_cons_self addressee, kind] at hTold
        exact hTold.1.2 (Or.inl rfl)
      · intro hStarted
        refine unfolds_told_cons h addressee ?_
        rw [kind]
        exact ⟨nofun, fun _ => hStarted registration slot⟩

theorem Covers.started (covers : hearing.Covers after) (h : hearing.Started) : after.Started := by
  cases covers with
  | nobody slot => exact h
  | @told registration event slot addressee kind =>
      intro active hSlot
      obtain rfl := Option.some.inj (slot.symm.trans hSlot)
      show .start ∈ Scrim.told (event :: hearing.ledger.events) registration.id
      rw [told_cons_self addressee]
      exact List.mem_cons_of_mem _ (h registration slot)

theorem CoversOnce.announced_iff (covers : hearing.CoversOnce after) (h : hearing.Announced)
    (hFaithful : hearing.Faithful) : after.Announced ↔ hearing.Started := by
  cases covers with
  | known known => exact iff_of_true h (h.started_of_blanked hFaithful known)
  | told fresh covers => exact covers.announced_iff h

theorem CoversOnce.started (covers : hearing.CoversOnce after) (h : hearing.Started) :
    after.Started := by
  cases covers with
  | known known => exact h
  | told fresh covers => exact covers.started h

/-- What finishes is in order if the start was told. -/
theorem Settles.announced {registration : Option Registration}
    (settles : hearing.Settles registration after) (h : hearing.Announced)
    (started : ∀ active held, hearing.ledger.callback = some active →
      registration = some held → held.id = active.id →
      .start ∈ told hearing.ledger.events active.id) : after.Announced := by
  cases settles with
  | waits => exact h
  | finished slot settled same addressee kind rest =>
      refine unfolds_told_cons h addressee ?_
      rw [kind]
      exact ⟨nofun, fun _ => started _ _ slot settled same⟩

/-- An update that shows the targets is in order exactly if the start was told; any other is. -/
theorem Updated.announced_iff {shows : Bool} (update : hearing.Updated shows after)
    (h : hearing.Announced) (hFaithful : hearing.Faithful) :
    after.Announced ↔ (shows = true → hearing.Started) := by
  cases update with
  | hidden => exact iff_of_true h nofun
  | shown covers settles =>
      constructor
      · intro hAfter _
        exact (covers.announced_iff h hFaithful).mp (hAfter.of_grows settles.grows)
      · intro hStarted
        have hCovered := (covers.announced_iff h hFaithful).mpr (hStarted rfl)
        refine settles.announced hCovered fun active _ hSlot _ _ => ?_
        exact covers.started (hStarted rfl) active hSlot

end Hearing

/-! ## Steps -/

namespace World

open Hearing

/-- Who is active is told of the start a second time, or of the cover before the first. -/
inductive Moment.Misleads (moment : Moment) : Prop where
  /-- Another frame comes during a transition. -/
  | again {active : Registration} (notice : moment.event = .host .preDraw)
      (slot : moment.before.controller.callback = some active)
      (started : .start ∈ told moment.before.journal.callbackEvents active.id) : Misleads moment
  /-- A setter shows the targets before the frame comes. -/
  | early {operation : Operation} {active : Registration}
      (request : moment.event = .request operation)
      (updates : operation.updates moment.before = true) (shows : moment.before.shows = true)
      (slot : moment.before.controller.callback = some active)
      (unstarted : .start ∉ told moment.before.journal.callbackEvents active.id) : Misleads moment
  /-- A black frame that a setter drew is on the display before the frame comes. -/
  | covered {active : Registration} (task : moment.event = .host (.task .pendingFrame))
      (phase : moment.before.controller.blanking = .awaitingFrame)
      (slot : moment.before.controller.callback = some active)
      (unstarted : .start ∉ told moment.before.journal.callbackEvents active.id) : Misleads moment

variable {before after : World} {event : Event}

/-- Somebody is active who was not told of the start. -/
theorem unstarted_of_not_started (h : ¬before.hearing.Started) : ∃ active,
    before.controller.callback = some active ∧
      .start ∉ told before.journal.callbackEvents active.id := by
  obtain ⟨active, hActive⟩ := not_forall.mp h
  exact ⟨active, Classical.not_imp.mp hActive⟩

/-- An awaited reveal is for one who was told of the start. -/
theorem Attuned.started_of_awaitingReveal (h : before.Attuned)
    (hAnnounced : before.hearing.Announced)
    (hPhase : before.controller.blanking = .awaitingReveal) : before.hearing.Started := by
  intro active hSlot
  have hActive : before.agenda.callback ≠ none := by
    rw [show before.agenda.callback = some active from hSlot]
    nofun
  exact hAnnounced.started_of_blanked h.faithful (h.veiled.revealing hPhase hActive) active hSlot

theorem shows_of_awaitingReveal {world : World}
    (hPhase : world.controller.blanking = .awaitingReveal) : world.shows = false := by
  simp [World.shows, hPhase, Blanking.isPending]

/-- What neither brings a frame nor shows targets misleads nobody. -/
theorem announced_iff_of_aside (hAfter : after.hearing.Announced) (hNotice : event ≠ .host .preDraw)
    (hShows : ∀ operation, event = .request operation → operation.updates before = true →
      before.shows = false)
    (hTask : event = .host (.task .pendingFrame) → before.controller.blanking ≠ .awaitingFrame) :
    after.hearing.Announced ↔ ¬Moment.Misleads ⟨before, event, after⟩ := by
  refine iff_of_true hAfter fun misleads => ?_
  cases misleads with
  | again notice slot started => exact hNotice notice
  | early request updates shows slot unstarted =>
      exact absurd ((hShows _ request updates).symm.trans shows) Bool.false_ne_true
  | covered task phase slot unstarted => exact hTask task phase

/-- What a step tells is in order exactly if it does not mislead. -/
theorem Heard.announced_iff (heard : Heard before after event) (h : before.Attuned)
    (hAnnounced : before.hearing.Announced) :
    after.hearing.Announced ↔ ¬Moment.Misleads ⟨before, event, after⟩ := by
  have hFaithful := h.faithful
  have same (hSame : after.hearing = before.hearing) : after.hearing.Announced :=
    hSame ▸ hAnnounced
  cases heard with
  | @requested operation other screen adjusted hears =>
      cases hUpdates : operation.updates before with
      | false =>
          rw [hUpdates] at hears
          have hSame : after.hearing = before.hearing := by
            generalize after.hearing = hearing at hears ⊢
            cases hears with
            | same => rfl
          refine announced_iff_of_aside (same hSame) nofun (fun _ hEvent hOther => ?_) nofun
          obtain rfl := Event.request.inj hEvent
          exact absurd (hUpdates.symm.trans hOther) Bool.false_ne_true
      | true =>
          rw [hUpdates] at hears
          have hUpdated : before.hearing.Updated before.shows after.hearing := by
            generalize after.hearing = hearing at hears ⊢
            cases hears with
            | updated update => exact update
          rw [hUpdated.announced_iff hAnnounced hFaithful]
          constructor
          · intro hStarted misleads
            cases misleads with
            | again notice slot started => cases notice
            | early request updates shows slot unstarted =>
                exact unstarted (hStarted shows _ slot)
            | covered task phase slot unstarted => cases task
          · intro hOrder hShows
            by_contra hUnstarted
            obtain ⟨active, hSlot, hUntold⟩ := unstarted_of_not_started hUnstarted
            exact hOrder (.early rfl hUpdates hShows hSlot hUntold)
  | lit agendas hearings =>
      refine announced_iff_of_aside (same hearings) nofun (fun _ hEvent hUpdates => ?_) nofun
      obtain rfl := Event.request.inj hEvent
      exact shows_of_awaitingReveal (of_decide_eq_true (Bool.and_eq_true_iff.mp hUpdates).1)
  | expedited phase update hears =>
      have hStarted := h.started_of_awaitingReveal hAnnounced phase
      exact announced_iff_of_aside ((hears.announced_iff hAnnounced hFaithful).mpr
        fun _ => hStarted) nofun (fun _ _ _ => shows_of_awaitingReveal phase) nofun
  | @confirmed state callback active confirms =>
      refine announced_iff_of_aside (fun id => ?_) nofun (fun operation hEvent hUpdates => ?_) nofun
      · rw [confirms]
        show Unfolds _ (told (before.confirm callback).journal.callbackEvents id)
        rw [told_confirm]
        exact hAnnounced id
      · obtain rfl := Event.request.inj hEvent
        cases hUpdates
  | @entered state callback ledger task other taskAside replaced enters =>
      have hEntered : Announced ⟨ledger, false⟩ :=
        replaced.unfolds hAnnounced fun _ => ⟨nofun, by simp⟩
      refine announced_iff_of_aside ?_ nofun (fun operation hEvent hUpdates => ?_) nofun
      · cases enters with
        | deferred agendas hearings => exact hearings ▸ hEntered
        | applied update tells hears =>
            have hReplaced := hFaithful.replaced replaced
            have hStart := (tells.announced_iff hEntered).mpr fun active hSlot => by
              show .start ∉ told ledger.events active.id
              rw [replaced.told_eq_nil hFaithful.accounted hSlot]
              nofun
            exact (hears.announced_iff hStart (hReplaced.tells tells rfl nofun)).mpr
              fun _ => tells.started
      · obtain rfl := Event.request.inj hEvent
        cases hUpdates
  | clock time agendas hearings => exact announced_iff_of_aside (same hearings) nofun nofun nofun
  | alarm agendas hearings => exact announced_iff_of_aside (same hearings) nofun nofun nofun
  | stray due commit agendas hearings =>
      refine announced_iff_of_aside (same hearings) nofun nofun fun hTask hPhase => commit hPhase ?_
      exact HostEvent.task.inj (Event.host.inj hTask)
  | committed delay due phase agendas covers =>
      rw [covers.announced_iff hAnnounced]
      constructor
      · intro hStarted misleads
        cases misleads with
        | again notice slot started => cases notice
        | early request updates shows slot unstarted => cases request
        | covered task phase slot unstarted => exact unstarted (hStarted _ slot)
      · intro hOrder
        by_contra hUnstarted
        obtain ⟨active, hSlot, hUntold⟩ := unstarted_of_not_started hUnstarted
        exact hOrder (.covered rfl phase hSlot hUntold)
  | revealed phase update hears =>
      have hStarted := h.started_of_awaitingReveal hAnnounced phase
      exact announced_iff_of_aside ((hears.announced_iff hAnnounced hFaithful).mpr
        fun _ => hStarted) nofun nofun nofun
  | framed framed hearings => exact announced_iff_of_aside (same hearings) nofun nofun nofun
  | settled framed carried settles =>
      refine announced_iff_of_aside (settles.announced hAnnounced ?_) nofun nofun nofun
      rintro active held hSlot rfl hSame
      have hKnows := h.veiled.carried _ held active carried hSlot hSame
      exact hAnnounced.started_of_blanked hFaithful hKnows active hSlot
  | preDraw update tells hears =>
      constructor
      · intro hAfter misleads
        have hStart := (tells.announced_iff hAnnounced).mp (hAfter.of_grows hears.grows)
        cases misleads with
        | again notice slot started => exact hStart _ slot started
        | early request updates shows slot unstarted => cases request
        | covered task phase slot unstarted => cases task
      · intro hOrder
        have hStart := (tells.announced_iff hAnnounced).mpr fun active hSlot hStarted =>
          hOrder (.again rfl hSlot hStarted)
        exact (hears.announced_iff hStart (hFaithful.tells tells rfl nofun)).mpr
          fun _ => tells.started

/-! ## Runs -/

/-- What is told in a run is in order exactly if none of its moments misleads. -/
theorem Run.announced_iff {settings : Settings} {options : SimulationOptions} {first : Simulation}
    (created : Simulation.create settings options = .ok first) {last : World}
    {moments : List Moment} (run : Run first.world moments last) :
    last.hearing.Announced ↔ ∀ moment ∈ moments, ¬moment.Misleads := by
  induction run with
  | nil =>
      have hFresh : (World.fresh settings options).hearing.Announced := fun _ => trivial
      have hFaithful : (World.fresh settings options).hearing.Faithful := faithful_fresh ..
      have hFirst := (hearing_create created).announced_iff hFresh hFaithful
      have hNobody : (World.fresh settings options).hearing.ledger.callback = none := rfl
      have hStarted : (World.fresh settings options).hearing.Started :=
        fun active hSlot => absurd (hNobody.symm.trans hSlot) nofun
      exact iff_of_true (hFirst.mpr fun _ => hStarted) (by simp)
  | @snoc moments before after event run step ih =>
      have hBefore := run.attuned (attuned_create created)
      have hHeard := step.heard hBefore.accountable
      rw [forall_mem_snoc, ← ih]
      constructor
      · intro hAfter
        obtain ⟨new, hEvents, -⟩ := (step.announces hBefore.accountable).appends
        have hGrows : before.hearing.Grows after.hearing := ⟨new, hEvents⟩
        have hEarlier := hAfter.of_grows hGrows
        exact ⟨hEarlier, (hHeard.announced_iff hBefore hEarlier).mp hAfter⟩
      · rintro ⟨hEarlier, hOrder⟩
        exact (hHeard.announced_iff hBefore hEarlier).mpr hOrder

/-- Every registration is told of the start at most once, and of the cover and the end only after
it. -/
def StartComesFirst (world : World) : Prop :=
  ∀ id, (told world.journal.callbackEvents id).count .start ≤ 1 ∧
    ∀ later kind earlier, told world.journal.callbackEvents id = later ++ kind :: earlier →
      kind = .displayBlanked ∨ kind = .finished → .start ∈ earlier

theorem startComesFirst_iff {world : World} :
    world.StartComesFirst ↔ world.hearing.Announced := by
  constructor
  · intro h id
    obtain ⟨hOnce, hFirst⟩ := h id
    refine unfolds_iff.mpr fun later kind earlier hTold => ⟨?_, hFirst later kind earlier hTold⟩
    rintro rfl hStart
    have hTwice := List.count_pos_iff.mpr hStart
    have hSplit : told world.journal.callbackEvents id = later ++ .start :: earlier := hTold
    rw [hSplit, List.count_append, List.count_cons_self] at hOnce
    omega
  · intro h id
    refine ⟨(h id).count_le_one fun _ hAllowed => hAllowed.1 rfl, ?_⟩
    intro later kind earlier hTold
    exact (unfolds_iff.mp (h id) later kind earlier hTold).2

end World

namespace Simulation

open World

/-- Calls on a simulation make a run. In a run from a fresh simulation registrations are told of
the start once, and first, exactly if no frame comes a second time during a transition, and no
setter shows the targets or draws the black frame of a transition before its frame. -/
theorem start_comes_first_iff {settings : Settings} {options : SimulationOptions} :
    (∀ simulation, Reached settings options simulation →
      ∃ first, create settings options = .ok first ∧ Leads first.world simulation.world) ∧
    ∀ first moments last, create settings options = .ok first → Run first.world moments last →
      (last.StartComesFirst ↔ ∀ moment ∈ moments, ¬moment.Misleads) := by
  constructor
  · intro simulation h
    exact h.reachable
  · intro first moments last created run
    exact startComesFirst_iff.trans (run.announced_iff created)

set_option maxRecDepth 100000 in
/-- An unlock that is left alone: no moment of its run misleads. -/
theorem start_comes_first_of_unlock : ∃ simulation first moments,
    play {} {} [.perform (.expansionAffectsAlpha false), .perform (.keyguardFadingAway true 0),
        .perform (.transition .unlocked (some ⟨0, "unlock"⟩)),
        .runUntilIdle (Time.ofMillis 1000)] = some simulation ∧
      create {} {} = .ok first ∧ Run first.world moments simulation.world ∧
      told simulation.world.journal.callbackEvents 0 = [.finished, .displayBlanked, .start] ∧
      ∀ moment ∈ moments, ¬moment.Misleads := by
  have hPlayed : (play {} {} [.perform (.expansionAffectsAlpha false),
      .perform (.keyguardFadingAway true 0), .perform (.transition .unlocked (some ⟨0, "unlock"⟩)),
      .runUntilIdle (Time.ofMillis 1000)]).any (fun simulation =>
        told simulation.world.journal.callbackEvents 0 = [.finished, .displayBlanked, .start] &&
          simulation.world.journal.callbackEvents.all (·.registration = some 0)) = true := by
    decide +kernel
  obtain ⟨simulation, hPlay, hLast⟩ := (Option.any_eq_true _ _).mp hPlayed
  obtain ⟨hTold, hOnly⟩ := Bool.and_eq_true_iff.mp hLast
  have hKinds := of_decide_eq_true hTold
  have hFirst : simulation.world.StartComesFirst := by
    refine startComesFirst_iff.mpr fun id => ?_
    by_cases hId : id = 0
    · subst hId
      show Unfolds _ (told simulation.world.journal.callbackEvents 0)
      rw [hKinds]
      simp [Unfolds, Notification.StartFirst]
    · have hNone : told simulation.world.journal.callbackEvents id = [] := by
        rw [told, List.map_eq_nil_iff, List.filter_eq_nil_iff]
        intro event hMem hOther
        have hZero := of_decide_eq_true (List.all_eq_true.mp hOnly event hMem)
        exact hId (Option.some.inj ((of_decide_eq_true hOther).symm.trans hZero))
      show Unfolds _ (told simulation.world.journal.callbackEvents id)
      rw [hNone]
      trivial
  obtain ⟨first, hCreate, moments, run⟩ := start_comes_first_iff.1 simulation (reached_play hPlay)
  have hOrder := (start_comes_first_iff.2 first moments _ hCreate run).mp hFirst
  exact ⟨simulation, first, moments, hPlay, hCreate, run, hKinds, hOrder⟩

set_option maxRecDepth 100000 in
/-- A theme that changes behind the black frame of a doze has the start of the doze told again. -/
theorem theme_repeats_start : ∃ simulation,
    play blankedDoze {} [.perform (.transition .aod (some ⟨0, "doze"⟩)),
        .advance (Time.ofMillis 40), .perform .themeChanged, .advance (Time.ofMillis 16)] =
      some simulation ∧ ¬simulation.world.StartComesFirst := by
  have hPlayed : (play blankedDoze {} [.perform (.transition .aod (some ⟨0, "doze"⟩)),
      .advance (Time.ofMillis 40), .perform .themeChanged, .advance (Time.ofMillis 16)]).any
      (fun simulation =>
        (told simulation.world.journal.callbackEvents 0).count .start = 2) = true := by
    decide +kernel
  obtain ⟨simulation, hPlay, hLast⟩ := (Option.any_eq_true _ _).mp hPlayed
  have hTwice := of_decide_eq_true hLast
  refine ⟨simulation, hPlay, fun hFirst => ?_⟩
  have hOnce := (hFirst 0).1
  omega

set_option maxRecDepth 100000 in
/-- An occlusion that comes before the frame of the brightness mirror has the mirror finished
without a start. -/
theorem occlusion_overtakes_start : ∃ simulation,
    play {} {} [.perform (.expansionAffectsAlpha false),
        .perform (.transition .brightnessMirror (some ⟨0, "mirror"⟩)),
        .perform (.keyguardOccluded true)] = some simulation ∧
      told simulation.world.journal.callbackEvents 0 = [.finished, .displayBlanked] := by
  have hPlayed : (play {} {} [.perform (.expansionAffectsAlpha false),
      .perform (.transition .brightnessMirror (some ⟨0, "mirror"⟩)),
      .perform (.keyguardOccluded true)]).any (fun simulation =>
        told simulation.world.journal.callbackEvents 0 = [.finished, .displayBlanked]) = true := by
    decide +kernel
  obtain ⟨simulation, hPlay, hLast⟩ := (Option.any_eq_true _ _).mp hPlayed
  exact ⟨simulation, hPlay, of_decide_eq_true hLast⟩

end Simulation

end Scrim
