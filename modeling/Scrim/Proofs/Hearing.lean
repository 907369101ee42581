import Scrim.Proofs.Callbacks

/-!
# What the active callback has heard

The ledger says what callbacks were told. Whether the active one still has to be told that the
display is covered is kept beside it, as a flag of the controller. The hearing of a world is both
together. An update that shows the targets tells the active registration of the cover unless
the flag says that it knows, and finishes it if nothing moves; any other update tells nobody
anything (`World.hearing_update`).

A rule about what may be told when is a condition on a notification and those before it
(`Unfolds`), so it is kept one notification at a time.
-/

namespace Scrim

/-! ## Rules for one registration -/

/-- Every notification is allowed after those before it; the newest comes first. -/
def Unfolds (allowed : Notification → List Notification → Prop) : List Notification → Prop
  | [] => True
  | kind :: earlier => allowed kind earlier ∧ Unfolds allowed earlier

section Unfolds

variable {allowed : Notification → List Notification → Prop} {kinds : List Notification}

theorem unfolds_iff : Unfolds allowed kinds ↔
    ∀ later kind earlier, kinds = later ++ kind :: earlier → allowed kind earlier := by
  induction kinds with
  | nil => simp [Unfolds]
  | cons newest older ih =>
      constructor
      · rintro ⟨hNewest, hOlder⟩ later kind earlier hSplit
        cases later with
        | nil =>
            obtain ⟨rfl, rfl⟩ := List.cons.inj hSplit
            exact hNewest
        | cons _ later =>
            obtain ⟨-, hSplit⟩ := List.cons.inj hSplit
            exact ih.mp hOlder later kind earlier hSplit
      · intro h
        refine ⟨h [] newest older rfl, ih.mpr fun later kind earlier hSplit => ?_⟩
        exact h (newest :: later) kind earlier (by rw [hSplit, List.cons_append])

theorem Unfolds.of_append {later earlier : List Notification}
    (h : Unfolds allowed (later ++ earlier)) : Unfolds allowed earlier := by
  induction later with
  | nil => exact h
  | cons newest later ih => exact ih h.2

/-- What is not allowed twice is told at most once. -/
theorem Unfolds.count_le_one (h : Unfolds allowed kinds) {kind : Notification}
    (once : ∀ earlier, allowed kind earlier → kind ∉ earlier) : kinds.count kind ≤ 1 := by
  induction kinds with
  | nil => simp
  | cons newest older ih =>
      obtain ⟨hNewest, hOlder⟩ := h
      by_cases hKind : newest = kind
      · subst hKind
        have hNone := List.count_eq_zero.mpr (once older hNewest)
        exact Nat.le_of_eq (List.count_cons_self.trans (congrArg (· + 1) hNone))
      · rw [List.count_cons_of_ne hKind]
        exact ih hOlder

end Unfolds

/-- A notification that is allowed to its addressee keeps the rule for everybody. -/
theorem unfolds_told_cons {allowed : Notification → List Notification → Prop}
    {events : List CallbackEvent} (h : ∀ id, Unfolds allowed (told events id))
    {event : CallbackEvent} {addressee : Nat} (hAddressee : event.registration = some addressee)
    (hAllowed : allowed event.kind (told events addressee)) (id : Nat) :
    Unfolds allowed (told (event :: events) id) := by
  by_cases hId : event.registration = some id
  · obtain rfl := Option.some.inj (hAddressee.symm.trans hId)
    rw [told_cons_self hId]
    exact ⟨hAllowed, h _⟩
  · rw [told_cons_of_ne hId]
    exact h id

/-! ## Hearings -/

namespace Hearing

inductive Tells (hearing : Hearing) (kind : Notification) : Hearing → Prop where
  | nobody (slot : hearing.ledger.callback = none) : Tells hearing kind hearing
  | told {registration : Registration} {event : CallbackEvent}
      (slot : hearing.ledger.callback = some registration)
      (addressee : event.registration = some registration.id) (same : event.kind = kind) :
      Tells hearing kind { hearing with ledger := hearing.ledger.record event }

inductive Covers (hearing : Hearing) : Hearing → Prop where
  | nobody (slot : hearing.ledger.callback = none) : Covers hearing hearing
  | told {registration : Registration} {event : CallbackEvent}
      (slot : hearing.ledger.callback = some registration)
      (addressee : event.registration = some registration.id)
      (kind : event.kind = .displayBlanked) :
      Covers hearing ⟨hearing.ledger.record event, true⟩

/-- The active registration is told that the display is covered, unless it knows. -/
inductive CoversOnce (hearing : Hearing) : Hearing → Prop where
  | known (known : hearing.blanked = true) : CoversOnce hearing hearing
  | told {after : Hearing} (fresh : hearing.blanked = false) (covers : hearing.Covers after) :
      CoversOnce hearing after

/-- Something that belongs to `registration` came to rest, which may finish the active one. -/
inductive Settles (hearing : Hearing) (registration : Option Registration) : Hearing → Prop where
  | waits : Settles hearing registration hearing
  | finished {active held : Registration} {event : CallbackEvent}
      (slot : hearing.ledger.callback = some active) (settled : registration = some held)
      (same : held.id = active.id) (addressee : event.registration = some active.id)
      (kind : event.kind = .finished) (rest : event.busy = false) :
      Settles hearing registration { hearing with ledger := hearing.ledger.close active event }

/-- What an update makes of a hearing. The flag says whether the targets are shown. -/
inductive Updated (hearing : Hearing) : Bool → Hearing → Prop where
  | hidden : Updated hearing false hearing
  | shown {covered after : Hearing}
      (covers : hearing.CoversOnce covered)
      (settles : covered.Settles covered.ledger.callback after) : Updated hearing true after

variable {hearing after : Hearing}

def Informed (hearing : Hearing) : Prop :=
  hearing.blanked = true ∨ hearing.ledger.callback = none

theorem Tells.accounted {kind : Notification} (tells : hearing.Tells kind after)
    (h : hearing.ledger.Accounted) (progress : kind.isTerminal = false) :
    after.ledger.Accounted := by
  cases tells with
  | nobody slot => exact h
  | told slot addressee same => exact h.record slot addressee (by rw [same]; exact progress)

theorem Covers.accounted (covers : hearing.Covers after) (h : hearing.ledger.Accounted) :
    after.ledger.Accounted := by
  cases covers with
  | nobody slot => exact h
  | told slot addressee kind => exact h.record slot addressee (by rw [kind]; rfl)

theorem CoversOnce.accounted (covers : hearing.CoversOnce after)
    (h : hearing.ledger.Accounted) : after.ledger.Accounted := by
  cases covers with
  | known known => exact h
  | told fresh covers => exact covers.accounted h

theorem Settles.accounted {registration : Option Registration}
    (settles : hearing.Settles registration after) (h : hearing.ledger.Accounted) :
    after.ledger.Accounted := by
  cases settles with
  | waits => exact h
  | finished slot settled same addressee kind rest =>
      exact h.close slot addressee (by rw [kind]; rfl) fun _ => rest

theorem Covers.informed (covers : hearing.Covers after) : after.Informed := by
  cases covers with
  | nobody slot => exact Or.inr slot
  | told slot addressee kind => exact Or.inl rfl

theorem CoversOnce.informed (covers : hearing.CoversOnce after) : after.Informed := by
  cases covers with
  | known known => exact Or.inl known
  | told fresh covers => exact covers.informed

/-! What a hearing keeps. -/

theorem Tells.callback_eq {kind : Notification} (tells : hearing.Tells kind after) :
    after.ledger.callback = hearing.ledger.callback := by
  cases tells with
  | nobody slot => rfl
  | told slot addressee same => rfl

theorem Tells.blanked_eq {kind : Notification} (tells : hearing.Tells kind after) :
    after.blanked = hearing.blanked := by
  cases tells with
  | nobody slot => rfl
  | told slot addressee same => rfl

theorem Covers.callback_eq (covers : hearing.Covers after) :
    after.ledger.callback = hearing.ledger.callback := by
  cases covers with
  | nobody slot => rfl
  | told slot addressee kind => rfl

theorem CoversOnce.callback_eq (covers : hearing.CoversOnce after) :
    after.ledger.callback = hearing.ledger.callback := by
  cases covers with
  | known known => rfl
  | told fresh covers => exact covers.callback_eq

theorem Settles.blanked_eq {registration : Option Registration}
    (settles : hearing.Settles registration after) : after.blanked = hearing.blanked := by
  cases settles with
  | waits => rfl
  | finished slot settled same addressee kind rest => rfl

/-! Who is informed stays so. -/

theorem Tells.informed {kind : Notification} (tells : hearing.Tells kind after)
    (h : hearing.Informed) : after.Informed := by
  rw [Informed, tells.blanked_eq, tells.callback_eq]
  exact h

theorem Settles.informed {registration : Option Registration}
    (settles : hearing.Settles registration after) (h : hearing.Informed) : after.Informed := by
  cases settles with
  | waits => exact h
  | finished slot settled same addressee kind rest => exact Or.inr rfl

theorem Updated.informed {shows : Bool} (update : hearing.Updated shows after)
    (h : hearing.Informed) : after.Informed := by
  cases update with
  | hidden => exact h
  | shown covers settles => exact settles.informed covers.informed

/-- Who is active when the targets are shown knows of the cover then. -/
theorem Updated.blanked_of_active (update : hearing.Updated true after)
    (hActive : hearing.ledger.callback ≠ none) : after.blanked = true := by
  cases update with
  | @shown covered _ covers settles =>
      rw [settles.blanked_eq]
      exact covers.informed.resolve_right fun hNobody => hActive (covers.callback_eq ▸ hNobody)

end Hearing

namespace World

open Ledger Hearing

/-- Layers go to their targets: no black frame is held, and none is asked for. -/
def shows (world : World) : Bool :=
  !world.controller.blanking.isPending && !world.controller.blankScreen

theorem shows_eq_of_agenda {world after : World} (h : after.agenda = world.agenda) :
    after.shows = world.shows :=
  congrArg (fun agenda : Agenda => !agenda.blanking.isPending && !agenda.blankScreen) h

/-! ## Telling -/

theorem tells_notifyActive {world : World} {hearing : Hearing}
    (hHearing : world.hearing = hearing) (h : hearing.ledger.Accounted) (kind : Notification) :
    hearing.Tells kind (world.notifyActive kind).hearing := by
  subst hHearing
  unfold notifyActive
  split
  · next hSlot => exact .nobody hSlot
  · next registration hSlot =>
    have hOpen : world.controller.registry.isTerminated registration = false :=
      Bool.of_not_eq_true fun hEnded =>
        (h.slot registration hSlot).2 (List.contains_iff_mem.mp hEnded)
    simp only [notify, hOpen, Bool.false_eq_true, if_false]
    exact .told hSlot rfl rfl

/-- Telling of the cover and remembering that it was told. -/
theorem covers_of_tells {world told : World} {registration : Registration}
    (hSlot : world.controller.callback = some registration)
    (tells : world.hearing.Tells .displayBlanked told.hearing) :
    world.hearing.Covers { told with controller.blankedNotified := true }.hearing := by
  show world.hearing.Covers ⟨told.hearing.ledger, true⟩
  generalize told.hearing = after at tells ⊢
  cases tells with
  | nobody slot => exact absurd (slot.symm.trans hSlot) nofun
  | told slot addressee same => exact .told slot addressee same

theorem covers_notifyBlankedOnce {world : World} {hearing : Hearing}
    (hHearing : world.hearing = hearing) (h : hearing.ledger.Accounted) :
    hearing.CoversOnce world.notifyBlankedOnce.hearing := by
  subst hHearing
  unfold notifyBlankedOnce
  cases hKnown : world.controller.blankedNotified with
  | true => exact .known hKnown
  | false =>
      refine .told hKnown ?_
      cases hSlot : world.controller.callback with
      | none => exact .nobody hSlot
      | some registration =>
          exact covers_of_tells hSlot (tells_notifyActive rfl h .displayBlanked)

/-- Nobody is told who knows. -/
theorem notifyBlankedOnce_of_informed {world : World} (h : world.hearing.Informed) :
    world.notifyBlankedOnce = world := by
  rcases h with hKnown | hNobody
  · have hBlanked : world.controller.blankedNotified = true := hKnown
    simp [notifyBlankedOnce, hBlanked]
  · have hSlot : world.controller.callback = none := hNobody
    simp [notifyBlankedOnce, hSlot]

/-! ## Layers -/

/-- Whether layers show their targets is decided before the first of them is updated. -/
@[simp] theorem shows_updateLayer (world : World) (layer : Layer) :
    (world.updateLayer layer).shows = world.shows := by
  cases hHas : world.hasLayer layer with
  | false => rw [updateLayer_of_absent hHas]
  | true =>
      cases hPending : world.controller.blanking.isPending with
      | true => rw [updateLayer_of_pending hHas hPending]; rfl
      | false =>
          cases hBlank : world.controller.blankScreen with
          | true =>
              rw [updateLayer_of_blank hHas hPending hBlank]
              have hPhase : (world.stopAnimation layer).blankDisplay.controller.blanking =
                  .awaitingFrame :=
                congrArg Agenda.blanking (agenda_blankDisplay (world.stopAnimation layer))
              simp only [shows, hPhase, hBlank, Bool.not_true, Bool.and_false]
              rfl
          | false =>
              obtain ⟨holder, -, hAgenda⟩ := agenda_updateLayer hHas hPending hBlank
              exact congrArg
                (fun agenda : Agenda => !agenda.blanking.isPending && !agenda.blankScreen) hAgenda

theorem hearing_updateLayer_of_hidden {world : World} (layer : Layer)
    (h : world.shows = false) : (world.updateLayer layer).hearing = world.hearing := by
  cases hHas : world.hasLayer layer with
  | false => rw [updateLayer_of_absent hHas]
  | true =>
      cases hPending : world.controller.blanking.isPending with
      | true => rw [updateLayer_of_pending hHas hPending]; rfl
      | false =>
          have hBlank : world.controller.blankScreen = true := by
            simpa [shows, hPending] using h
          rw [updateLayer_of_blank hHas hPending hBlank, hearing_blankDisplay]
          rfl

/-- An attached layer that goes to its target tells of the cover first. -/
theorem hearing_updateLayer_of_shown {world : World} {layer : Layer} {surface : Surface}
    (hSurface : world.surface? layer = some surface) (h : world.shows = true) :
    (world.updateLayer layer).hearing = (world.stopAnimation layer).notifyBlankedOnce.hearing := by
  obtain ⟨hPending, hBlank⟩ : world.controller.blanking.isPending = false ∧
      world.controller.blankScreen = false := by simpa [shows] using h
  rw [updateLayer_eq hSurface]
  simp only [hPending, hBlank, Bool.false_eq_true, if_false, hearing_moveToTarget]
  split
  · rfl
  · rfl

theorem hearing_updateLayer_of_informed {world : World} {hearing : Hearing}
    (hHearing : world.hearing = hearing) (layer : Layer) (h : hearing.Informed) :
    (world.updateLayer layer).hearing = hearing := by
  subst hHearing
  cases hShows : world.shows with
  | false => exact hearing_updateLayer_of_hidden layer hShows
  | true =>
      cases hSurface : world.surface? layer with
      | none => simp only [updateLayer, hSurface]
      | some surface =>
          have hStopped : (world.stopAnimation layer).hearing = world.hearing := rfl
          rw [hearing_updateLayer_of_shown hSurface hShows,
            notifyBlankedOnce_of_informed (hStopped ▸ h)]
          rfl

theorem hearing_updateLayers_behind {front : World} {hearing : Hearing}
    (hHearing : front.hearing = hearing) (h : front.shows = false ∨ hearing.Informed) :
    ((((front.updateLayer .behind).updateLayer .notifications).applyPalette
      .auxiliary).updateLayer .auxiliary).hearing = hearing := by
  have one : ∀ {w : World} (layer : Layer), w.hearing = hearing → w.shows = front.shows →
      (w.updateLayer layer).hearing = hearing := by
    intro w layer hSame hShows
    rcases h with hHidden | hInformed
    · rw [hearing_updateLayer_of_hidden layer (hShows.trans hHidden), hSame]
    · exact hearing_updateLayer_of_informed hSame layer hInformed
  have hBehind := one .behind hHearing rfl
  have hNotifications := one .notifications hBehind (shows_updateLayer _ _)
  rw [← hearing_applyPalette _ .auxiliary] at hNotifications
  refine one .auxiliary hNotifications ?_
  rw [shows_eq_of_agenda (agenda_applyPalette ..), shows_updateLayer, shows_updateLayer]

theorem hearing_updateLayers_of_hidden {world : World} (h : world.shows = false) :
    world.updateLayers.hearing = world.hearing := by
  have hReady : world.refreshPalette.hideBehind.hearing = world.hearing := by simp
  have hAgenda : world.refreshPalette.hideBehind.agenda = world.agenda := by simp
  have hShows := (shows_eq_of_agenda hAgenda).trans h
  have hFront := (hearing_updateLayer_of_hidden .front hShows).trans hReady
  exact hearing_updateLayers_behind hFront (Or.inl (by rw [shows_updateLayer, hShows]))

/-- The front layer, which is always attached, tells of the cover. -/
theorem covers_updateLayers {world : World} {hearing : Hearing}
    (hHearing : world.hearing = hearing) (h : hearing.ledger.Accounted)
    (hShown : world.shows = true) : hearing.CoversOnce world.updateLayers.hearing := by
  have hReady : world.refreshPalette.hideBehind.hearing = hearing := by simp [hHearing]
  have hAgenda : world.refreshPalette.hideBehind.agenda = world.agenda := by simp
  have hShows := (shows_eq_of_agenda hAgenda).trans hShown
  unfold updateLayers
  generalize world.refreshPalette.hideBehind = ready at hReady hShows ⊢
  have hFront : (ready.updateLayer .front).hearing =
      (ready.stopAnimation .front).notifyBlankedOnce.hearing :=
    hearing_updateLayer_of_shown rfl hShows
  have hStopped : (ready.stopAnimation .front).hearing = hearing := hReady
  have hCovers := covers_notifyBlankedOnce hStopped h
  rw [← hFront] at hCovers
  rw [hearing_updateLayers_behind rfl (Or.inr hCovers.informed)]
  exact hCovers

/-! ## Settling -/

/-- At rest, a registration is finished if it is open, and only the active one is. -/
theorem settles_finishRegistration {world : World} {hearing : Hearing}
    (hHearing : world.hearing = hearing) (h : hearing.ledger.Accounted)
    {registration : Registration} (known : registration.id < hearing.ledger.registry.next)
    (rest : world.isBusy = false) :
    hearing.Settles (some registration) (world.finishRegistration registration).hearing := by
  subst hHearing
  unfold finishRegistration
  by_cases hEnded : registration.id ∈ world.ledger.registry.ended
  · rw [terminate_of_ended hEnded]
    have hInactive : world.isActive registration = false := by
      apply Bool.of_not_eq_true
      intro hActive
      obtain ⟨active, hSlot, hId⟩ := Option.map_eq_some_iff.mp (isActive_iff.mp hActive)
      exact (h.slot active hSlot).2 (hId ▸ hEnded)
    simp only [hInactive]
    exact .waits
  · obtain ⟨active, hSlot, hId⟩ := Option.map_eq_some_iff.mp (h.others _ known hEnded)
    rw [terminate_of_open hEnded]
    have hActive : (World.deliver { world with
        controller.registry := { world.controller.registry with
          ended := registration.id :: world.controller.registry.ended } }
        (some registration.id) registration.callback .finished).isActive registration = true :=
      isActive_iff.mpr (Option.map_eq_some_iff.mpr ⟨active, hSlot, hId⟩)
    dsimp only
    rw [if_pos hActive, ← hId]
    exact .finished hSlot rfl hId.symm rfl rfl rest

theorem settles_settle {world : World} {hearing : Hearing} (hHearing : world.hearing = hearing)
    (h : hearing.ledger.Accounted) {registration : Option Registration}
    (known : ∀ held, registration = some held → held.id < hearing.ledger.registry.next) :
    hearing.Settles registration (world.settle registration).hearing := by
  subst hHearing
  unfold settle
  split
  · exact .waits
  · split
    · split
      · exact .waits
      · next held =>
        split
        · exact .waits
        · next hInactive =>
          -- what is not active has been told of its end
          have hEnded : held.id ∈ world.ledger.registry.ended := by
            refine Decidable.not_not.mp fun hOpen => hInactive (isActive_iff.mpr ?_)
            exact h.others held.id (known held rfl) hOpen
          rw [terminate_of_ended hEnded]
          exact .waits
    · next hIdle hStill =>
      extract_lets released finished
      have hReleased : released.hearing = world.hearing := rfl
      have hRest : released.isBusy = false :=
        Bool.or_eq_false_iff.mpr ⟨Bool.of_not_eq_true hStill, Bool.of_not_eq_true hIdle⟩
      have hFinished : world.hearing.Settles registration finished.hearing := by
        dsimp only [finished]
        split
        · exact .waits
        · next held => exact settles_finishRegistration hReleased h (known held rfl) hRest
      split
      · rw [hearing_dropUnlockTint]
        exact hFinished
      · exact hFinished

/-! ## The update -/

/-- A display that does not show the targets is behind a black frame after an update. -/
theorem held_updateLayers {world : World} (h : world.shows = false)
    (hAttached : world.agenda.Attached) :
    world.updateLayers.agenda.blanking.isPending = true := by
  cases hPending : world.agenda.blanking.isPending with
  | true =>
      rw [agenda_updateLayers_of_pending hPending hAttached]
      exact hPending
  | false =>
      have hIdle : world.controller.blanking.isPending = false := hPending
      have hBlank : world.controller.blankScreen = true := by simpa [shows, hIdle] using h
      rw [agenda_updateLayers_of_blank hPending hBlank hAttached]
      rfl

/-- An update tells of the cover only if it shows the targets, and then whoever does not know. -/
theorem hearing_update {world : World} {hearing : Hearing} (hHearing : world.hearing = hearing)
    (h : hearing.ledger.Accounted) (hAttached : world.agenda.Attached) :
    hearing.Updated world.shows world.update.hearing := by
  unfold update
  rw [hearing_dispatchVisibility]
  cases hShows : world.shows with
  | false =>
      rw [settle_of_pending _ (held_updateLayers hShows hAttached),
        hearing_updateLayers_of_hidden hShows, hHearing]
      exact .hidden
  | true =>
      have hCovers := covers_updateLayers hHearing h hShows
      have hAccounted := hCovers.accounted h
      refine .shown hCovers (settles_settle rfl hAccounted fun held hSlot => ?_)
      have := (hAccounted.slot held hSlot).1
      omega

end World

end Scrim
