import Scrim.Proofs.Hearing.Step
import Scrim.Proofs.Standing

/-!
# Who knows that the display is covered

A registration is told that the display is covered at most once, and finished only after that.

Two paths tell: an update that shows the targets, and the commit of a black frame. Only the first
asks whether the registration knows already, so it has to be shown that nobody knows while a black
frame is asked for or on its way (`Agenda.Veiled`). Animations are what finishes a registration
without an update; they run only for one that knows. `World.Run.attuned` says that all of it is
kept in every run.
-/

namespace Scrim

/-- A registration is told of the cover once, and finished only after that. -/
def Notification.InCourse (kind : Notification) (earlier : List Notification) : Prop :=
  (kind = .displayBlanked → .displayBlanked ∉ earlier) ∧
    (kind = .finished → .displayBlanked ∈ earlier)

theorem Notification.inCourse_of_aside {kind : Notification} (hBlanked : kind ≠ .displayBlanked)
    (hFinished : kind ≠ .finished) (earlier : List Notification) : kind.InCourse earlier :=
  ⟨fun h => absurd h hBlanked, fun h => absurd h hFinished⟩

/-- Whoever is active after another state was entered was registered with it. -/
theorem Ledger.Replaced.callback_fresh {ledger after : Ledger} (replaced : ledger.Replaced after)
    {active : Registration} (hSlot : after.callback = some active) :
    active.id = ledger.registry.next := by
  cases replaced with
  | silent slot => cases slot.symm.trans hSlot
  | registered slot callback =>
      obtain rfl := Option.some.inj hSlot
      rfl
  | cancelled slot addressee kind => cases hSlot
  | superseded slot addressee kind callback =>
      obtain rfl := Option.some.inj hSlot
      rfl

/-- Who is still to be registered was told nothing. -/
theorem Ledger.Accounted.told_next {ledger : Ledger} (h : ledger.Accounted) :
    told ledger.events ledger.registry.next = [] := by
  rw [told, List.map_eq_nil_iff, List.filter_eq_nil_iff]
  intro event hMem hAddressee
  exact Nat.lt_irrefl _ (h.orderly.known event hMem _ (of_decide_eq_true hAddressee))

/-- Whoever is active after another state was entered was told nothing yet. -/
theorem Ledger.Replaced.told_eq_nil {ledger after : Ledger} (replaced : ledger.Replaced after)
    (h : ledger.Accounted) {active : Registration} (hSlot : after.callback = some active) :
    told after.events active.id = [] := by
  cases replaced with
  | silent slot => cases slot.symm.trans hSlot
  | registered slot callback =>
      obtain rfl := Option.some.inj hSlot
      exact h.told_next
  | cancelled slot addressee kind => cases hSlot
  | superseded slot addressee kind callback =>
      obtain rfl := Option.some.inj hSlot
      exact (h.close slot addressee (by rw [kind]; rfl) (by rw [kind]; nofun)).told_next

/-- Entering another state cancels at most, so it keeps rules that allow that. -/
theorem Ledger.Replaced.unfolds {allowed : Notification → List Notification → Prop}
    {ledger after : Ledger} (replaced : ledger.Replaced after)
    (h : ∀ id, Unfolds allowed (told ledger.events id))
    (cancels : ∀ earlier, allowed .cancelled earlier) (id : Nat) :
    Unfolds allowed (told after.events id) := by
  cases replaced with
  | silent slot => exact h id
  | registered slot callback => exact h id
  | cancelled slot addressee kind =>
      exact unfolds_told_cons h addressee (by rw [kind]; exact cancels _) id
  | superseded slot addressee kind callback =>
      exact unfolds_told_cons h addressee (by rw [kind]; exact cancels _) id

namespace Hearing

/-! ## Hearings -/

/-- All notifications are in course, and the active registration knows of the cover exactly if the
flag says so. -/
structure Faithful (hearing : Hearing) : Prop where
  accounted : hearing.ledger.Accounted
  course : ∀ id, Unfolds Notification.InCourse (told hearing.ledger.events id)
  knows : ∀ active, hearing.ledger.callback = some active →
    (.displayBlanked ∈ told hearing.ledger.events active.id ↔ hearing.blanked = true)

namespace Faithful

variable {hearing after : Hearing}

theorem tells {kind : Notification} (h : hearing.Faithful) (tells : hearing.Tells kind after)
    (progress : kind.isTerminal = false) (hKind : kind ≠ .displayBlanked) : after.Faithful := by
  have hAccounted := tells.accounted h.accounted progress
  cases tells with
  | nobody slot => exact h
  | @told registration event slot addressee same =>
      refine ⟨hAccounted, unfolds_told_cons h.course addressee ?_, ?_⟩
      · rw [same]
        refine Notification.inCourse_of_aside hKind (fun hFinished => ?_) _
        rw [hFinished] at progress
        cases progress
      · intro active hSlot
        obtain rfl := Option.some.inj (slot.symm.trans hSlot)
        have hTold : told (event :: hearing.ledger.events) registration.id =
            kind :: told hearing.ledger.events registration.id := by
          rw [told_cons_self addressee, same]
        show .displayBlanked ∈ told (event :: hearing.ledger.events) registration.id ↔ _
        rw [hTold, List.mem_cons, or_iff_right (Ne.symm hKind)]
        exact h.knows registration slot

theorem covers (h : hearing.Faithful) (covers : hearing.Covers after)
    (fresh : hearing.ledger.callback ≠ none → hearing.blanked = false) : after.Faithful := by
  have hAccounted := covers.accounted h.accounted
  cases covers with
  | nobody slot => exact h
  | @told registration event slot addressee kind =>
      have hFresh := fresh (by rw [slot]; nofun)
      have hUntold : .displayBlanked ∉ told hearing.ledger.events registration.id := by
        intro hTold
        exact absurd (hFresh.symm.trans ((h.knows registration slot).mp hTold)) Bool.false_ne_true
      refine ⟨hAccounted, unfolds_told_cons h.course addressee ?_, ?_⟩
      · rw [kind]
        exact ⟨fun _ => hUntold, nofun⟩
      · intro active hSlot
        obtain rfl := Option.some.inj (slot.symm.trans hSlot)
        refine iff_of_true ?_ rfl
        show .displayBlanked ∈ told (event :: hearing.ledger.events) registration.id
        rw [told_cons_self addressee, kind]
        exact List.mem_cons_self

theorem coversOnce (h : hearing.Faithful) (covers : hearing.CoversOnce after) :
    after.Faithful := by
  cases covers with
  | known known => exact h
  | told fresh covers => exact h.covers covers fun _ => fresh

theorem settles {registration : Option Registration} (h : hearing.Faithful)
    (settles : hearing.Settles registration after)
    (informed : ∀ active held, hearing.ledger.callback = some active →
      registration = some held → held.id = active.id → hearing.blanked = true) :
    after.Faithful := by
  have hAccounted := settles.accounted h.accounted
  cases settles with
  | waits => exact h
  | @finished active held event slot settled same addressee kind rest =>
      refine ⟨hAccounted, unfolds_told_cons h.course addressee ?_, nofun⟩
      rw [kind]
      exact ⟨nofun, fun _ => (h.knows active slot).mpr (informed active held slot settled same)⟩

theorem updated {shows : Bool} (h : hearing.Faithful) (update : hearing.Updated shows after) :
    after.Faithful := by
  cases update with
  | hidden => exact h
  | @shown covered _ covers settles =>
      refine (h.coversOnce covers).settles settles ?_
      intro active _ hSlot _ _
      exact covers.informed.resolve_right (by rw [hSlot]; nofun)

/-- A new registration was told nothing, so it does not know. -/
theorem replaced {entered : Ledger} (h : hearing.Faithful)
    (replaced : hearing.ledger.Replaced entered) : Faithful ⟨entered, false⟩ := by
  refine ⟨h.accounted.replaced replaced, replaced.unfolds h.course fun _ => ⟨nofun, nofun⟩, ?_⟩
  intro active hSlot
  refine iff_of_false ?_ Bool.false_ne_true
  show .displayBlanked ∉ told entered.events active.id
  rw [replaced.told_eq_nil h.accounted hSlot]
  nofun

/-- What a callback without a registration is told is no matter of the course. -/
theorem aside (h : hearing.Faithful) {event : CallbackEvent}
    (addressee : event.registration = none) :
    Faithful { hearing with ledger := hearing.ledger.record event } := by
  have hTold : ∀ id, told (event :: hearing.ledger.events) id = told hearing.ledger.events id :=
    fun id => told_cons_of_ne (by rw [addressee]; nofun) _
  refine ⟨h.accounted.aside addressee, fun id => ?_, fun active hSlot => ?_⟩
  · show Unfolds Notification.InCourse (told (event :: hearing.ledger.events) id)
    rw [hTold]
    exact h.course id
  · show .displayBlanked ∈ told (event :: hearing.ledger.events) active.id ↔ _
    rw [hTold]
    exact h.knows active hSlot

end Faithful

end Hearing

namespace Agenda

/-! ## Agendas -/

/-- Who is active knows of the cover if an animation runs for it or a reveal is awaited, and does
not know while a black frame is asked for or on its way. -/
structure Veiled (agenda : Agenda) (blanked : Bool) : Prop where
  carried : ∀ layer held active, agenda.running.get layer = some (some held) →
    agenda.callback = some active → held.id = active.id → blanked = true
  revealing : agenda.blanking = .awaitingReveal → agenda.callback ≠ none → blanked = true
  asked : agenda.blanking = .awaitingFrame → agenda.blankScreen = true
  uncovered : agenda.blankScreen = true → agenda.blanking ≠ .awaitingReveal → blanked = false

variable {agenda after : Agenda} {blanked : Bool}

theorem Veiled.of_still (still : agenda.running = .splat none)
    (revealing : agenda.blanking = .awaitingReveal → agenda.callback ≠ none → blanked = true)
    (asked : agenda.blanking = .awaitingFrame → agenda.blankScreen = true)
    (uncovered : agenda.blankScreen = true → agenda.blanking ≠ .awaitingReveal →
      blanked = false) : agenda.Veiled blanked where
  carried layer held active hCarried := by
    rw [still, PerLayer.get_splat] at hCarried
    cases hCarried
  revealing := revealing
  asked := asked
  uncovered := uncovered

/-- An update that shows the targets leaves the active registration informed; any other keeps what
it knew. -/
theorem Veiled.updated {shows : Bool} {hearing heard : Hearing} (h : agenda.Veiled hearing.blanked)
    (update : agenda.Updated after) (hears : hearing.Updated shows heard)
    (hShows : shows = (!agenda.blanking.isPending && !agenda.blankScreen))
    (hSlot : hearing.ledger.callback = agenda.callback) : after.Veiled heard.blanked := by
  subst hShows
  cases update with
  | held pending =>
      simp only [pending, Bool.not_true, Bool.false_and] at hears
      cases hears with
      | hidden => exact .of_still rfl h.revealing h.asked h.uncovered
  | blanked idle blank =>
      simp only [blank, Bool.not_true, Bool.and_false] at hears
      cases hears with
      | hidden =>
          refine .of_still rfl (by rintro ⟨⟩) (fun _ => blank) fun _ _ => h.uncovered blank ?_
          intro hReveal
          rw [hReveal] at idle
          cases idle
  | moving idle clear holders attached moves =>
      simp only [idle, clear, Bool.not_false, Bool.and_self] at hears
      have hPhase : agenda.blanking = .idle := by simpa [Blanking.isPending] using idle
      have hKnows := hears.blanked_of_active
      refine ⟨fun _ _ active _ hActive _ => hKnows ?_, ?_, ?_, ?_⟩
      · rw [hSlot, show agenda.callback = some active from hActive]
        exact Option.some_ne_none active
      · exact fun hReveal => absurd (hPhase.symm.trans hReveal) (by decide)
      · exact fun hFrame => absurd (hPhase.symm.trans hFrame) (by decide)
      · exact fun hBlank => absurd (clear.symm.trans hBlank) Bool.false_ne_true
  | settled idle clear =>
      have hPhase : agenda.blanking = .idle := by simpa [Blanking.isPending] using idle
      refine .of_still rfl ?_ ?_ ?_
      · exact fun hReveal => absurd (hPhase.symm.trans hReveal) (by decide)
      · exact fun hFrame => absurd (hPhase.symm.trans hFrame) (by decide)
      · exact fun hBlank => absurd (clear.symm.trans hBlank) Bool.false_ne_true

/-- Whatever else changes is no matter of the cover. -/
theorem Veiled.kept (h : agenda.Veiled blanked) (hRunning : after.running = agenda.running)
    (hSlot : after.callback = agenda.callback) (hPhase : after.blanking = agenda.blanking)
    (hBlank : after.blankScreen = agenda.blankScreen) : after.Veiled blanked where
  carried := by rw [hRunning, hSlot]; exact h.carried
  revealing := by rw [hPhase, hSlot]; exact h.revealing
  asked := by rw [hPhase, hBlank]; exact h.asked
  uncovered := by rw [hPhase, hBlank]; exact h.uncovered

/-- A frame lets go of animations, and of the active registration. -/
theorem Veiled.framed (h : agenda.Veiled blanked) (framed : agenda.answer.Framed after) :
    after.Veiled blanked := by
  cases framed with
  | still still => exact h.kept rfl rfl rfl rfl
  | moving kept moves =>
      refine ⟨fun layer held active hCarried => ?_, h.revealing, h.asked, h.uncovered⟩
      rcases kept layer with hKept | hEnded
      · exact h.carried layer held active (hKept.symm.trans hCarried)
      · exact absurd (hEnded.symm.trans hCarried) nofun
  | settled ended carried =>
      refine .of_still rfl (fun hReveal hActive => h.revealing hReveal ?_) h.asked h.uncovered
      intro hNobody
      refine hActive ?_
      simp only [forgetAny]
      split
      · rfl
      · exact hNobody

end Agenda

/-! ## Steps -/

namespace World

open Agenda Hearing Ledger

/-- Who is active knows of the cover when it should, and when it should not does not. -/
structure Attuned (world : World) : Prop where
  accountable : world.Accountable
  faithful : world.hearing.Faithful
  veiled : world.agenda.Veiled world.hearing.blanked

variable {before after : World} {event : Event}

theorem Attuned.blanked_eq_false (h : before.Attuned)
    (hPhase : before.controller.blanking = .awaitingFrame) : before.hearing.blanked = false := by
  refine h.veiled.uncovered (h.veiled.asked hPhase) fun hReveal => ?_
  exact absurd (hPhase.symm.trans hReveal) nofun

/-- A registration made just now is carried by no animation. -/
theorem Attuned.veiled_enter {ledger : Ledger} (h : before.Attuned)
    (replaced : before.ledger.Replaced ledger) (lowPower blank : Bool) (task : Task) :
    (before.agenda.enter lowPower ledger.callback blank task).Veiled false := by
  have hCarried : ∀ layer held active, before.agenda.running.get layer = some (some held) →
      ledger.callback = some active → held.id ≠ active.id := by
    intro layer held active hRuns hSlot hSame
    have hKnown := h.accountable.known held (Or.inr ⟨layer, hRuns⟩)
    have hNew := replaced.callback_fresh hSlot
    omega
  unfold Agenda.enter
  split
  · exact ⟨fun layer held active hRuns hSlot hSame =>
      absurd hSame (hCarried layer held active hRuns hSlot), nofun, nofun, fun _ _ => rfl⟩
  · exact ⟨fun layer held active hRuns hSlot hSame =>
      absurd hSame (hCarried layer held active hRuns hSlot), nofun, nofun, fun _ _ => rfl⟩

theorem blanked_confirm (world : World) (callback : Option Callback) :
    (world.confirm callback).hearing.blanked = world.hearing.blanked := by
  cases callback with
  | none => rfl
  | some callback =>
      unfold confirm
      dsimp -zeta only
      extract_lets registered
      split
      · rfl
      · rfl

theorem told_confirm (world : World) (callback : Option Callback) (id : Nat) :
    told (world.confirm callback).journal.callbackEvents id =
      told world.journal.callbackEvents id := by
  have hEvents : (world.confirm callback).journal.callbackEvents =
      (world.confirm callback).ledger.events := rfl
  rw [hEvents]
  rcases ledger_confirm world callback with hSame | ⟨event, hAside, -, hTold⟩
  · rw [hSame]
    rfl
  · rw [hTold]
    exact told_cons_of_ne (by rw [hAside]; nofun) _

theorem callback_confirm (world : World) (callback : Option Callback) :
    (world.confirm callback).controller.callback = world.controller.callback := by
  have hSlot : (world.confirm callback).controller.callback =
      (world.confirm callback).ledger.callback := rfl
  rw [hSlot]
  rcases ledger_confirm world callback with hSame | ⟨event, -, -, hTold⟩
  · rw [hSame]
    rfl
  · rw [hTold]
    rfl

theorem faithful_confirm (h : before.hearing.Faithful) (callback : Option Callback) :
    (before.confirm callback).hearing.Faithful := by
  have hSplit : (before.confirm callback).hearing =
      ⟨(before.confirm callback).ledger, before.hearing.blanked⟩ := by
    rw [← blanked_confirm before callback]
    rfl
  rw [hSplit]
  rcases ledger_confirm before callback with hSame | ⟨told, hAside, -, hTold⟩
  · rw [hSame]
    exact h
  · rw [hTold]
    exact h.aside hAside

theorem Heard.faithful (heard : Heard before after event) (h : before.Attuned) :
    after.hearing.Faithful := by
  have hBefore := h.faithful
  cases heard with
  | @requested operation other screen adjusted hears =>
      generalize operation.updates before = updates at hears
      generalize after.hearing = hearing at hears ⊢
      cases hears with
      | same => exact hBefore
      | updated update => exact hBefore.updated update
  | lit agendas hearings => exact hearings ▸ hBefore
  | expedited phase update hears => exact hBefore.updated hears
  | confirmed active confirms =>
      subst confirms
      exact faithful_confirm hBefore _
  | entered other aside replaced enters =>
      have hEntered := hBefore.replaced replaced
      cases enters with
      | deferred agendas hearings => exact hearings ▸ hEntered
      | applied update tells hears => exact (hEntered.tells tells rfl nofun).updated hears
  | clock time agendas hearings => exact hearings ▸ hBefore
  | alarm agendas hearings => exact hearings ▸ hBefore
  | stray due commit agendas hearings => exact hearings ▸ hBefore
  | committed delay due phase agendas covers =>
      exact hBefore.covers covers fun _ => h.blanked_eq_false phase
  | revealed phase update hears => exact hBefore.updated hears
  | framed framed hearings => exact hearings ▸ hBefore
  | settled framed carried settles =>
      refine hBefore.settles settles ?_
      rintro active held hSlot rfl hSame
      exact h.veiled.carried _ held active carried hSlot hSame
  | preDraw update tells hears => exact (hBefore.tells tells rfl nofun).updated hears

theorem Heard.veiled (heard : Heard before after event) (h : before.Attuned) :
    after.agenda.Veiled after.hearing.blanked := by
  have hBefore := h.veiled
  have hSlot : before.hearing.ledger.callback = before.agenda.callback := rfl
  have hShows : before.shows =
      (!before.agenda.blanking.isPending && !before.agenda.blankScreen) := rfl
  cases heard with
  | @requested operation other screen adjusted hears =>
      generalize operation.updates before = updates at adjusted hears
      generalize after.hearing = hearing at hears ⊢
      generalize after.agenda = agenda at adjusted ⊢
      cases adjusted with
      | updated update =>
          cases hears with
          | updated hears => exact hBefore.updated update hears hShows hSlot
      | same => cases hears; exact hBefore
      | wired => cases hears; exact hBefore.kept rfl rfl rfl rfl
      | scheduled => cases hears; exact hBefore.kept rfl rfl rfl rfl
      | awake => cases hears; exact hBefore.kept rfl rfl rfl rfl
      | posted => cases hears; exact hBefore.kept rfl rfl rfl rfl
  | lit agendas hearings =>
      rw [agendas, hearings]
      exact hBefore
  | expedited phase update hears =>
      have hRevealed : before.agenda.expedite.reveal.Veiled before.hearing.blanked :=
        ⟨hBefore.carried, nofun, nofun, nofun⟩
      exact hRevealed.updated update hears rfl hSlot
  | confirmed active confirms =>
      rw [confirms, agenda_confirm, blanked_confirm]
      exact hBefore
  | @entered state callback ledger task other aside replaced enters =>
      have hEntered := h.veiled_enter replaced state.isLowPower (before.blanksInto state) task
      cases enters with
      | deferred agendas hearings =>
          rw [agendas, hearings]
          exact hEntered.kept rfl rfl rfl rfl
      | @applied started update tells hears =>
          have hStarted : started.blanked = false := tells.blanked_eq
          rw [← hStarted] at hEntered
          have hReady : (before.agenda.enter state.isLowPower ledger.callback
              (before.blanksInto state) task).unschedule.Veiled started.blanked :=
            hEntered.kept rfl rfl rfl rfl
          refine hReady.updated update hears rfl ?_
          rw [tells.callback_eq]
          exact (Agenda.callback_enter state.isLowPower _ (before.blanksInto state) task).symm
  | clock time agendas hearings =>
      rw [agendas, hearings]
      exact hBefore.kept rfl rfl rfl rfl
  | alarm agendas hearings =>
      rw [hearings]
      rcases agendas with hSame | hAwake
      · rw [hSame]
        exact hBefore
      · rw [hAwake]
        exact hBefore.kept rfl rfl rfl rfl
  | stray due commit agendas hearings =>
      rw [agendas, hearings]
      exact hBefore.kept rfl rfl rfl rfl
  | committed delay due phase agendas covers =>
      have hInformed : before.agenda.callback ≠ none → after.hearing.blanked = true := by
        intro hActive
        refine covers.informed.resolve_right fun hNobody => hActive ?_
        rw [← hSlot, ← covers.callback_eq, hNobody]
      rw [agendas]
      refine ⟨fun _ _ active _ hActive _ => hInformed ?_, fun _ => hInformed, nofun, ?_⟩
      · rw [show before.agenda.callback = some active from hActive]
        nofun
      · exact fun _ hOther => absurd rfl hOther
  | @revealed rest phase update hears =>
      have hRevealed : (before.agenda.onScheduler rest).reveal.Veiled before.hearing.blanked :=
        ⟨hBefore.carried, nofun, nofun, nofun⟩
      exact hRevealed.updated update hears rfl hSlot
  | framed framed hearings =>
      rw [hearings]
      exact hBefore.framed framed
  | settled framed carried settles =>
      rw [settles.blanked_eq]
      exact hBefore.framed framed
  | @preDraw started update tells hears =>
      rw [← tells.blanked_eq] at hBefore
      have hReady : before.agenda.unschedule.Veiled started.blanked :=
        hBefore.kept rfl rfl rfl rfl
      refine hReady.updated update hears rfl ?_
      rw [tells.callback_eq]
      rfl

theorem Step.attuned (step : Step before event after) (h : before.Attuned) : after.Attuned :=
  have hHeard := step.heard h.accountable
  ⟨step.accountable h.accountable, hHeard.faithful h, hHeard.veiled h⟩

theorem Run.attuned {start last : World} {moments : List Moment} (run : Run start moments last)
    (h : start.Attuned) : last.Attuned :=
  run.invariant Attuned (fun _ _ _ hBefore step => step.attuned hBefore) h

/-- The first update of a fresh simulation tells nobody, for nobody is there. -/
theorem hearing_create {settings : Settings} {options : SimulationOptions}
    {simulation : Simulation} (h : Simulation.create settings options = .ok simulation) :
    (World.fresh settings options).hearing.Updated true simulation.world.hearing := by
  have lit : ∀ (w : World) (message : String) (screenOn : Bool),
      World.hearing { w.debug message with controller.screenOn := screenOn } = w.hearing :=
    fun _ _ _ => rfl
  obtain ⟨message, screenOn, hWorld⟩ := create_eq h
  have hAttached : (World.fresh settings options).agenda.Attached := fun _ => rfl
  have hShows : (World.fresh settings options).shows = true := rfl
  have hAccounted : (World.fresh settings options).hearing.ledger.Accounted := Accounted.empty
  have hUpdated := hearing_update rfl hAccounted hAttached
  rw [hShows] at hUpdated
  rw [hWorld, lit]
  exact hUpdated

theorem faithful_fresh (settings : Settings) (options : SimulationOptions) :
    (World.fresh settings options).hearing.Faithful :=
  ⟨Accounted.empty, fun _ => trivial, nofun⟩

theorem attuned_create {settings : Settings} {options : SimulationOptions}
    {simulation : Simulation} (h : Simulation.create settings options = .ok simulation) :
    simulation.world.Attuned := by
  have hReachable : Reachable settings options simulation.world := ⟨simulation, h, .refl _⟩
  have hFaithful := faithful_fresh settings options
  have hVeiled : (Agenda.fresh options).Veiled (World.fresh settings options).hearing.blanked :=
    .of_still rfl nofun nofun nofun
  exact ⟨hReachable.accountable, hFaithful.updated (hearing_create h),
    hVeiled.updated (updated_create h) (hearing_create h) rfl rfl⟩

end World

end Scrim
