import Scrim.Proofs.BlankFrame
import Scrim.Proofs.BlankProtocol
import Scrim.Proofs.Hearing.Attuned

/-!
# When a registration is told that the display is covered

A registration is told that the display is covered at most once, and finished only after that. If
its transition is to blank the display first, then only the commit of the black frame that was
drawn for it tells it, at the earliest 32 ms after the frame was drawn. Updates do not: until the
frame is committed they show no targets, and from then on the registration knows.
`Simulation.display_blanked_in_course` is the main statement.

How far such a transition has come is one of three things (`World.Veiling`): its black frame is
still to be drawn, the frame is held and not committed, or nobody waits to be told any more. Once
another state is entered the registration is no longer the active one, and is told nothing.
-/

namespace Scrim

/-! ## How often a registration was told something -/

theorem count_told_cons {event : CallbackEvent} {kind : Notification} (hKind : event.kind ≠ kind)
    (events : List CallbackEvent) (id : Nat) :
    (told (event :: events) id).count kind = (told events id).count kind := by
  by_cases hId : event.registration = some id
  · rw [told_cons_self hId, List.count_cons_of_ne hKind]
  · rw [told_cons_of_ne hId]

/-- How often a registration was told that the display is covered. -/
def Ledger.covers (ledger : Ledger) (id : Nat) : Nat :=
  (told ledger.events id).count .displayBlanked

theorem Ledger.Replaced.covers_eq {ledger after : Ledger} (replaced : ledger.Replaced after)
    (id : Nat) : after.covers id = ledger.covers id := by
  cases replaced with
  | silent slot => rfl
  | registered slot callback => rfl
  | cancelled slot addressee kind => exact count_told_cons (by rw [kind]; nofun) _ _
  | superseded slot addressee kind callback => exact count_told_cons (by rw [kind]; nofun) _ _

namespace Hearing

variable {hearing after : Hearing} {id : Nat}

theorem Tells.covers_eq {kind : Notification} (tells : hearing.Tells kind after)
    (hKind : kind ≠ .displayBlanked) : after.ledger.covers id = hearing.ledger.covers id := by
  cases tells with
  | nobody slot => rfl
  | told slot addressee same => exact count_told_cons (by rw [same]; exact hKind) _ _

theorem Settles.covers_eq {registration : Option Registration}
    (settles : hearing.Settles registration after) :
    after.ledger.covers id = hearing.ledger.covers id := by
  cases settles with
  | waits => rfl
  | finished slot settled same addressee kind rest =>
      exact count_told_cons (by rw [kind]; nofun) _ _

theorem Covers.active (covers : hearing.Covers after)
    (hTold : hearing.ledger.covers id < after.ledger.covers id) :
    ∃ active, hearing.ledger.callback = some active ∧ active.id = id := by
  cases covers with
  | nobody slot => exact absurd hTold (Nat.lt_irrefl _)
  | @told registration event slot addressee kind =>
      refine ⟨registration, slot, ?_⟩
      by_contra hOther
      have hSame : Scrim.told (event :: hearing.ledger.events) id =
          Scrim.told hearing.ledger.events id :=
        told_cons_of_ne (by rw [addressee]; exact fun hId => hOther (Option.some.inj hId)) _
      have hCount : (hearing.ledger.record event).covers id = hearing.ledger.covers id :=
        congrArg (fun kinds => kinds.count .displayBlanked) hSame
      exact absurd hCount (Nat.ne_of_gt hTold)

/-- An update tells only if it shows the targets, and only an active registration that does not
know. -/
theorem Updated.active {shows : Bool} (update : hearing.Updated shows after)
    (hTold : hearing.ledger.covers id < after.ledger.covers id) :
    shows = true ∧ hearing.blanked = false ∧
      ∃ active, hearing.ledger.callback = some active ∧ active.id = id := by
  cases update with
  | hidden => exact absurd hTold (Nat.lt_irrefl _)
  | shown covers settles =>
      rw [settles.covers_eq] at hTold
      cases covers with
      | known known => exact absurd hTold (Nat.lt_irrefl _)
      | told fresh covers => exact ⟨rfl, fresh, covers.active hTold⟩

/-- Telling something else first changes nothing about that. -/
theorem Updated.active_of_tells {shows : Bool} {kind : Notification} {started : Hearing}
    (update : started.Updated shows after) (tells : hearing.Tells kind started)
    (hKind : kind ≠ .displayBlanked)
    (hTold : hearing.ledger.covers id < after.ledger.covers id) :
    shows = true ∧ hearing.blanked = false ∧
      ∃ active, hearing.ledger.callback = some active ∧ active.id = id := by
  rw [← tells.covers_eq hKind] at hTold
  obtain ⟨hShows, hFresh, hActive⟩ := update.active hTold
  rw [tells.blanked_eq] at hFresh
  rw [tells.callback_eq] at hActive
  exact ⟨hShows, hFresh, hActive⟩

theorem Requested.active {shows updates : Bool} (requested : hearing.Requested shows updates after)
    (hTold : hearing.ledger.covers id < after.ledger.covers id) :
    shows = true ∧ hearing.blanked = false ∧
      ∃ active, hearing.ledger.callback = some active ∧ active.id = id := by
  cases requested with
  | same => exact absurd hTold (Nat.lt_irrefl _)
  | updated update => exact update.active hTold

end Hearing

namespace World

open Agenda Hearing

/-! ## What tells -/

def Moment.Tells (moment : Moment) (kind : Notification) (id : Nat) : Prop :=
  (told moment.before.journal.callbackEvents id).count kind <
    (told moment.after.journal.callbackEvents id).count kind

inductive Moment.Covers (moment : Moment) (id : Nat) : Prop where
  /-- The black frame is on the display. -/
  | committed {active : Registration} {rest : Scheduler}
      (task : moment.event = .host (.task .pendingFrame))
      (phase : moment.before.controller.blanking = .awaitingFrame)
      (due : moment.before.host.scheduler.popDue = some (.pendingFrame, rest))
      (slot : moment.before.controller.callback = some active) (same : active.id = id) :
      Covers moment id
  /-- The targets are shown, and the registration does not know. -/
  | shown {active : Registration} (stays : ¬moment.before.Enters moment.event)
      (shows : moment.before.shows = true) (fresh : moment.before.hearing.blanked = false)
      (slot : moment.before.controller.callback = some active) (same : active.id = id) :
      Covers moment id
  /-- The registration was made just now, for a transition that does not blank the display. -/
  | entered {state : State} {callback : Option Callback}
      (enters : moment.event = .request (.transition state callback))
      (clear : moment.before.blanksInto state = false)
      (new : moment.before.controller.registry.next = id) : Covers moment id

variable {before after : World} {event : Event} {id : Nat}

theorem not_enters_of_ne (h : ∀ state callback, event ≠ .request (.transition state callback)) :
    ¬before.Enters event := by
  rintro ⟨state, callback, hEvent, -⟩
  exact h state callback hEvent

theorem Heard.covers (heard : Heard before after event) (h : before.Attuned)
    (hNews : Moment.Tells ⟨before, event, after⟩ .displayBlanked id) :
    Moment.Covers ⟨before, event, after⟩ id := by
  have hTold : before.hearing.ledger.covers id < after.hearing.ledger.covers id := hNews
  have untold : after.hearing = before.hearing → Moment.Covers ⟨before, event, after⟩ id := by
    intro hSame
    rw [hSame] at hTold
    exact absurd hTold (Nat.lt_irrefl _)
  have whenShown : (∀ state callback, event ≠ .request (.transition state callback)) →
      (before.shows = true ∧ before.hearing.blanked = false ∧
        ∃ active, before.hearing.ledger.callback = some active ∧ active.id = id) →
      Moment.Covers ⟨before, event, after⟩ id := by
    rintro hOther ⟨hShows, hFresh, active, hSlot, hId⟩
    exact .shown (not_enters_of_ne hOther) hShows hFresh hSlot hId
  -- an awaited reveal shows the targets, but to one that knows of the cover
  have unrevealed : before.controller.blanking = .awaitingReveal →
      before.hearing.Updated true after.hearing → Moment.Covers ⟨before, event, after⟩ id := by
    intro hPhase hears
    obtain ⟨-, hFresh, active, hSlot, -⟩ := hears.active hTold
    have hActive : before.agenda.callback = some active := hSlot
    have hKnows := h.veiled.revealing hPhase (by rw [hActive]; nofun)
    exact absurd (hFresh.symm.trans hKnows) Bool.false_ne_true
  cases heard with
  | requested other screen adjusted hears =>
      exact whenShown (fun state callback hEvent => other state callback (Event.request.inj hEvent))
        (hears.active hTold)
  | lit agendas hearings => exact untold hearings
  | expedited phase update hears => exact unrevealed phase hears
  | @confirmed state callback active confirms =>
      have hSame : after.hearing.ledger.covers id = before.hearing.ledger.covers id := by
        rw [confirms]
        exact congrArg (fun kinds => kinds.count .displayBlanked) (told_confirm before callback id)
      exact absurd hSame (Nat.ne_of_gt hTold)
  | @entered state callback ledger task other aside replaced enters =>
      have hEntered : before.hearing.ledger.covers id = ledger.covers id :=
        (replaced.covers_eq id).symm
      rw [hEntered] at hTold
      cases enters with
      | deferred agendas hearings =>
          rw [hearings] at hTold
          exact absurd hTold (Nat.lt_irrefl _)
      | applied update tells hears =>
          obtain ⟨hShows, -, active, hSlot, hId⟩ := hears.active_of_tells tells nofun hTold
          refine .entered rfl ?_ ((replaced.callback_fresh hSlot).symm.trans hId)
          obtain ⟨-, hClear⟩ := Bool.and_eq_true_iff.mp hShows
          exact (blankScreen_enter ..).symm.trans (Bool.not_eq_true' _ ▸ hClear)
  | clock time agendas hearings => exact untold hearings
  | alarm agendas hearings => exact untold hearings
  | stray due commit agendas hearings => exact untold hearings
  | committed delay due phase agendas covers =>
      obtain ⟨active, hSlot, hId⟩ := covers.active hTold
      exact .committed rfl phase due hSlot hId
  | revealed phase update hears => exact unrevealed phase hears
  | framed framed hearings => exact untold hearings
  | settled framed carried settles =>
      exact absurd settles.covers_eq (Nat.ne_of_gt hTold)
  | preDraw update tells hears =>
      exact whenShown (fun _ _ => nofun) (hears.active_of_tells tells nofun hTold)

/-! ## The way of a black frame -/

/-- Until it is committed, a blanking is asked for, begun, or held; only the commit ends that. -/
theorem Heard.shows (heard : Heard before after event) {stage : BlankStage}
    (hShows : before.agenda.Shows stage) (stays : ¬before.Enters event)
    (unrevealed : before.controller.blanking ≠ .awaitingReveal) :
    after.agenda.Shows stage ∨
      (stage = .asked ∧ after.agenda.Shows (.awaitingFrame (after.now + Blanking.frameDelay))) ∨
      event = .host (.task .pendingFrame) ∧ before.controller.blanking = .awaitingFrame := by
  have kept : after.agenda.Shows stage ∨ stage = .asked ∧ after.agenda.Shows
      (.awaitingFrame (after.agenda.scheduler.now + Blanking.frameDelay)) →
      after.agenda.Shows stage ∨
      (stage = .asked ∧ after.agenda.Shows (.awaitingFrame (after.now + Blanking.frameDelay))) ∨
      event = .host (.task .pendingFrame) ∧ before.controller.blanking = .awaitingFrame :=
    fun h => h.imp_right Or.inl
  cases heard with
  | requested other screen adjusted hears => exact kept (adjusted.shows hShows)
  | lit agendas hearings => exact Or.inl (agendas ▸ hShows)
  | expedited phase update hears => exact absurd phase unrevealed
  | @confirmed _ callback active confirms =>
      rw [confirms, agenda_confirm]
      exact Or.inl hShows
  | entered other aside replaced enters => exact absurd ⟨_, _, rfl, other⟩ stays
  | clock time agendas hearings =>
      rw [agendas]
      exact Or.inl ⟨hShows.phase, hShows.tasks, hShows.flag⟩
  | alarm agendas hearings =>
      rcases agendas with hSame | hAwake
      · exact Or.inl (hSame ▸ hShows)
      · rw [hAwake]
        exact Or.inl ⟨hShows.phase, hShows.tasks, hShows.flag⟩
  | @stray task rest due commit agendas hearings =>
      obtain ⟨posted, -, -, hTasks⟩ := Scheduler.blankTasks_of_popDue due
      rw [hShows.tasks] at hTasks
      have hAside : task.blanks = false := by
        cases task with
        | pendingFrame =>
            obtain ⟨rfl, -⟩ := BlankStage.eq_of_pendingFrame hTasks
            exact absurd rfl (commit hShows.phase)
        | blankingTransition =>
            obtain ⟨rfl, -⟩ := BlankStage.eq_of_blankingTransition hTasks
            exact absurd hShows.phase unrevealed
        | scheduleWallpaperTimeout => rfl
        | cancelWallpaperTimeout => rfl
      rw [agendas]
      refine Or.inl ⟨hShows.phase, ?_, hShows.flag⟩
      exact (Scheduler.blankTasks_of_popDue_of_other due hAside).trans hShows.tasks
  | committed delay due phase agendas covers => exact Or.inr (Or.inr ⟨rfl, phase⟩)
  | revealed phase update hears => exact absurd phase unrevealed
  | framed framed hearings =>
      exact Or.inl (framed.shows ⟨hShows.phase, hShows.tasks, hShows.flag⟩)
  | settled framed carried settles =>
      exact Or.inl (framed.shows ⟨hShows.phase, hShows.tasks, hShows.flag⟩)
  | preDraw update tells hears =>
      exact kept (update.shows ⟨hShows.phase, hShows.tasks, hShows.flag⟩)

/-- Who is informed stays so until another state is entered. -/
theorem Heard.informed (heard : Heard before after event) (h : before.hearing.Informed)
    (stays : ¬before.Enters event) : after.hearing.Informed := by
  cases heard with
  | @requested operation other screen adjusted hears =>
      generalize operation.updates before = updates at hears
      generalize after.hearing = hearing at hears ⊢
      cases hears with
      | same => exact h
      | updated update => exact update.informed h
  | lit agendas hearings => exact hearings ▸ h
  | expedited phase update hears => exact hears.informed h
  | @confirmed _ callback active confirms =>
      have hSlot : after.hearing.ledger.callback = before.hearing.ledger.callback := by
        rw [confirms]
        exact callback_confirm before callback
      rw [Informed, hSlot, confirms, blanked_confirm]
      exact h
  | entered other aside replaced enters => exact absurd ⟨_, _, rfl, other⟩ stays
  | clock time agendas hearings => exact hearings ▸ h
  | alarm agendas hearings => exact hearings ▸ h
  | stray due commit agendas hearings => exact hearings ▸ h
  | committed delay due phase agendas covers => exact covers.informed
  | revealed phase update hears => exact hears.informed h
  | framed framed hearings => exact hearings ▸ h
  | settled framed carried settles => exact settles.informed h
  | preDraw update tells hears => exact hears.informed (tells.informed h)

theorem Heard.informed_of_commit (heard : Heard before after (.host (.task .pendingFrame)))
    (phase : before.controller.blanking = .awaitingFrame) : after.hearing.Informed := by
  cases heard with
  | stray due commit agendas hearings => exact absurd rfl (commit phase)
  | committed delay due phase agendas covers => exact covers.informed

/-- How far a transition that is to blank the display first has come, with what has happened since
it was asked for. -/
inductive Veiling (since : List Moment) (world : World) : Prop where
  /-- Its black frame is still to be drawn. -/
  | asked (shows : world.agenda.Shows .asked) : Veiling since world
  /-- Its black frame is held, and not committed. -/
  | held {drawn held : List Moment} {begin : Moment} (split : since = drawn ++ begin :: held)
      (begins : begin.Begins) (black : begin.after.frontLook = .solidBlack)
      (holds : ∀ moment ∈ held, moment.after.controller.blanking = .awaitingFrame)
      (shows : world.agenda.Shows (.awaitingFrame (begin.after.now + Blanking.frameDelay))) :
      Veiling since world
  /-- Nobody waits to be told any more. -/
  | informed (informed : world.hearing.Informed) : Veiling since world

/-- Until another state is entered, the way goes on. -/
theorem Veiling.snoc {since : List Moment} (h : Veiling since before)
    (hAttuned : before.Attuned) (step : Step before event after) (stays : ¬before.Enters event) :
    Veiling (since ++ [⟨before, event, after⟩]) after := by
  have hHeard := step.heard hAttuned.accountable
  cases h with
  | asked hShows =>
      have hIdle : before.controller.blanking = .idle := hShows.phase
      rcases hHeard.shows hShows stays (by rw [hIdle]; nofun) with
        hKept | ⟨-, hBegun⟩ | ⟨-, hFrame⟩
      · exact .asked hKept
      · have hCovered : before.Covered := covered_of_idle (congrArg Blanking.isPending hIdle)
        have hDark : ¬Moment.Uncovers ⟨before, event, after⟩ := by
          rintro ⟨hPending, -⟩
          rw [hIdle] at hPending
          cases hPending
        have hBlack := step.covered hAttuned.accountable.driven hCovered hDark
        have hBegins : Moment.Begins ⟨before, event, after⟩ :=
          ⟨hBegun.phase, Or.inl (by rw [hIdle]; nofun)⟩
        have hLast : since ++ [⟨before, event, after⟩] =
            since ++ ⟨before, event, after⟩ :: [] := rfl
        have hPending : after.controller.blanking.isPending = true :=
          congrArg Blanking.isPending hBegun.phase
        exact .held hLast hBegins (hBlack hPending) (by simp) hBegun
      · exact absurd (hIdle.symm.trans hFrame) nofun
  | @held drawn held begin split begins black holds hShows =>
      have hFrame : before.controller.blanking = .awaitingFrame := hShows.phase
      rcases hHeard.shows hShows stays (by rw [hFrame]; nofun) with hKept | ⟨hAsked, -⟩ | ⟨rfl, -⟩
      · have hHolds : ∀ moment ∈ held ++ [(⟨before, event, after⟩ : Moment)],
            moment.after.controller.blanking = .awaitingFrame :=
          forall_mem_snoc.mpr ⟨holds, hKept.phase⟩
        have hSplit : since ++ [⟨before, event, after⟩] =
            drawn ++ begin :: (held ++ [⟨before, event, after⟩]) := by
          rw [split, List.append_assoc, List.cons_append]
        exact .held hSplit begins black hHolds hKept
      · cases hAsked
      · exact .informed (hHeard.informed_of_commit hFrame)
  | informed informed => exact .informed (hHeard.informed informed stays)

/-- A transition that blanks the display has its black frame still before it, or draws it at
once. -/
theorem Veiling.enter {state : State} {callback : Option Callback} (hAttuned : before.Attuned)
    (step : Step before (.request (.transition state callback)) after)
    (hOther : state ≠ before.controller.state) (hBlank : before.blanksInto state = true) :
    Veiling [⟨before, .request (.transition state callback), after⟩] after := by
  have hHeard := step.heard hAttuned.accountable
  generalize hEvent : Event.request (.transition state callback) = event at step hHeard
  cases hHeard with
  | requested other screen adjusted hears =>
      exact absurd (Event.request.inj hEvent).symm (other _ _)
  | confirmed active confirms =>
      obtain ⟨rfl, rfl⟩ := Operation.transition.inj (Event.request.inj hEvent)
      exact absurd active hOther
  | @entered _ _ ledger task other aside replaced enters =>
      obtain ⟨rfl, rfl⟩ := Operation.transition.inj (Event.request.inj hEvent)
      have hAsked := before.agenda.shows_enter state.isLowPower ledger.callback
        (before.blanksInto state) aside
      have hEnters : before.Enters (.request (.transition state callback)) :=
        ⟨state, callback, rfl, hOther⟩
      rw [hBlank, if_pos rfl] at hAsked
      rw [hBlank] at enters
      cases enters with
      | deferred agendas hearings =>
          rw [← hEvent]
          refine .asked ?_
          rw [agendas]
          exact ⟨hAsked.phase, hAsked.tasks, hAsked.flag⟩
      | applied update tells hears =>
          rcases update.shows ⟨hAsked.phase, hAsked.tasks, hAsked.flag⟩ with hKept | ⟨-, hBegun⟩
          · exact .asked hKept
          · have hCovered : after.Covered := by
              cases step with
              | request accepted =>
                  exact covered_entered hAttuned.accountable.driven.attached hOther accepted
            have hBegins : Moment.Begins
                ⟨before, .request (.transition state callback), after⟩ :=
              ⟨hBegun.phase, Or.inr hEnters⟩
            have hFirst : ([⟨before, .request (.transition state callback), after⟩] : List Moment) =
                [] ++ ⟨before, .request (.transition state callback), after⟩ :: [] := rfl
            have hPending : after.controller.blanking.isPending = true :=
              congrArg Blanking.isPending hBegun.phase
            exact .held hFirst hBegins (hCovered hPending) (by simp) hBegun
  | _ => cases hEvent

/-! ## Who is active -/

def Outlived (world : World) (id : Nat) : Prop :=
  id < world.controller.registry.next ∧
    ∀ active, world.controller.callback = some active → active.id ≠ id

/-- Only entering another state makes a registration active, a new one. -/
theorem Step.slot (step : Step before event after) (h : before.Accountable)
    {active : Registration} (hSlot : after.controller.callback = some active) :
    before.controller.callback = some active ∧ ¬before.Enters event ∨
      active.id = before.controller.registry.next := by
  have hAccounts := step.accounts h.accounted
    fun layer held hCarried => h.known held (Or.inr ⟨layer, hCarried⟩)
  have hActive : after.ledger.callback = some active := hSlot
  generalize after.ledger = ledger at hAccounts hActive
  cases hAccounts with
  | followed other follows => exact Or.inl ⟨follows.slot hActive, not_enters_of_ne other⟩
  | @confirmed state callback same =>
      refine Or.inl ⟨?_, ?_⟩
      · exact (callback_confirm before callback).symm.trans hActive
      · rintro ⟨other, _, hEvent, hOther⟩
        obtain ⟨rfl, -⟩ := Operation.transition.inj (Event.request.inj hEvent)
        exact hOther same
  | entered other replaced follows =>
      exact Or.inr (replaced.callback_fresh (follows.slot hActive))

theorem Step.next_le (step : Step before event after) (h : before.Accountable) :
    before.controller.registry.next ≤ after.controller.registry.next := by
  have hAccounts := step.accounts h.accounted
    fun layer held hCarried => h.known held (Or.inr ⟨layer, hCarried⟩)
  exact hAccounts.next_le

theorem Run.next_le {start last : World} {moments : List Moment} (run : Run start moments last)
    (h : start.Attuned) : start.controller.registry.next ≤ last.controller.registry.next := by
  induction run with
  | nil => exact Nat.le_refl _
  | snoc run step ih =>
      exact Nat.le_trans ih (step.next_le (run.attuned h).accountable)

theorem next_terminate (world : World) (registration : Registration) (kind : Notification) :
    (world.terminate registration kind).controller.registry.next =
      world.controller.registry.next := by
  unfold terminate Registry.terminate
  split
  · rfl
  · next hTerminated =>
    split at hTerminated
    · cases hTerminated
    · obtain ⟨rfl, -⟩ := Prod.mk.inj hTerminated
      rfl

theorem next_replaceCallback (world : World) (callback : Callback) :
    (world.replaceCallback (some callback)).controller.registry.next =
      world.controller.registry.next + 1 := by
  unfold replaceCallback
  cases world.controller.callback with
  | none => rfl
  | some active => exact congrArg (· + 1) (next_terminate world active .cancelled)

theorem next_transition {state : State} {callback : Callback}
    (hOther : state ≠ before.controller.state) (h : before.ledger.Accounted)
    (accepted : (before.transition state (some callback)).error = none) :
    (before.transition state (some callback)).world.controller.registry.next =
      before.controller.registry.next + 1 := by
  obtain ⟨-, targets, hTransition⟩ := transition_of_accepted hOther accepted
  have hReplaced := replaced_enter h state (some callback)
  have entered : ∀ w : World, w.controller.registry.next = before.controller.registry.next →
      (w.replaceCallback (some callback)).controller.registry.next =
        before.controller.registry.next + 1 := by
    intro w hNext
    rw [next_replaceCallback, hNext]
  have hNext : (before.enter state (some callback)).controller.registry.next =
      before.controller.registry.next + 1 :=
    entered { before.debug s!"State changed to: {state.name}" with controller.state := state } rfl
  rw [hTransition]
  generalize before.enter state (some callback) = entered at hReplaced hNext ⊢
  have hOverlaid : World.ledger { entered with controller.targets := targets } =
      entered.ledger := rfl
  have hFollows := follows_completeTransition hOverlaid (h.replaced hReplaced)
    before.controller.state
  exact hFollows.next_eq.trans hNext

theorem Step.registers {state : State} {callback : Callback}
    (step : Step before (.request (.transition state (some callback))) after)
    (h : before.ledger.Accounted) (hOther : state ≠ before.controller.state) :
    after.controller.registry.next = before.controller.registry.next + 1 := by
  cases step with
  | request accepted => exact next_transition hOther h accepted

/-- Who is not active any more is told nothing of the cover. -/
theorem Outlived.not_covers {moment : Moment} (h : moment.before.Outlived id) :
    ¬moment.Covers id := by
  intro covers
  cases covers with
  | committed task phase due slot same => exact h.2 _ slot same
  | shown stays shows fresh slot same => exact h.2 _ slot same
  | entered enters clear new => exact absurd new (Nat.ne_of_gt h.1)

theorem Outlived.step (h : before.Outlived id) (hBefore : before.Accountable)
    (step : Step before event after) : after.Outlived id := by
  refine ⟨Nat.lt_of_lt_of_le h.1 (step.next_le hBefore), fun active hSlot => ?_⟩
  rcases step.slot hBefore hSlot with ⟨hActive, -⟩ | hNew
  · exact h.2 active hActive
  · have := h.1
    omega

/-- Once another state is entered, who was known before is not active any more. -/
theorem outlived_of_enters (hKnown : id < before.controller.registry.next)
    (hBefore : before.Accountable) (step : Step before event after)
    (enters : before.Enters event) : after.Outlived id := by
  refine ⟨Nat.lt_of_lt_of_le hKnown (step.next_le hBefore), fun active hSlot => ?_⟩
  rcases step.slot hBefore hSlot with ⟨-, hStays⟩ | hNew
  · exact absurd enters hStays
  · omega

/-! ## Runs -/

/-- From a transition that is to blank the display the way goes on until another state is entered,
and its registration is not active after that. -/
theorem Run.veiling {start last : World} {since moments : List Moment}
    (run : Run start moments last) (hStart : start.Attuned) (h : Veiling since start)
    (hKnown : id < start.controller.registry.next) :
    ((∀ moment ∈ moments, ¬moment.before.Enters moment.event) ∧
      Veiling (since ++ moments) last) ∨ last.Outlived id := by
  induction run with
  | nil => exact Or.inl ⟨by simp, by simpa using h⟩
  | @snoc moments before after event run step ih =>
      have hBefore := run.attuned hStart
      rcases ih with ⟨hStays, hVeiling⟩ | hOver
      · by_cases hEnters : before.Enters event
        · have hOlder := Nat.lt_of_lt_of_le hKnown (run.next_le hStart)
          exact Or.inr (outlived_of_enters hOlder hBefore.accountable step hEnters)
        · refine Or.inl ⟨forall_mem_snoc.mpr ⟨hStays, hEnters⟩, ?_⟩
          rw [← List.append_assoc]
          exact hVeiling.snoc hBefore step hEnters
      · exact Or.inr (hOver.step hBefore.accountable step)

/-- Among the moments since a transition was asked for one drew the black frame. It has been held
since then, long enough to be on the display. -/
def Displayed (since : List Moment) (world : World) : Prop :=
  ∃ drawn begin held, since = drawn ++ begin :: held ∧ begin.Begins ∧
    begin.after.frontLook = .solidBlack ∧
    (∀ moment ∈ held, moment.after.controller.blanking = .awaitingFrame) ∧
    begin.after.now + Blanking.frameDelay ≤ world.now

/-- Who was registered for a transition that blanks the display is told by the commit only. -/
theorem Veiling.displayed {since : List Moment} (h : Veiling since before)
    (hBefore : before.Attuned) (hKnown : id < before.controller.registry.next)
    (covers : Moment.Covers ⟨before, event, after⟩ id) :
    event = .host (.task .pendingFrame) ∧ Displayed since before := by
  -- who is informed is not told again
  have uninformed : ∀ active, before.controller.callback = some active →
      before.hearing.blanked = false → ¬before.hearing.Informed := by
    intro active hSlot hFresh hInformed
    rcases hInformed with hKnows | hNobody
    · exact absurd (hFresh.symm.trans hKnows) Bool.false_ne_true
    · exact absurd (hSlot.symm.trans hNobody) nofun
  cases covers with
  | committed task phase due slot same =>
      cases h with
      | asked hShows => exact absurd (phase.symm.trans hShows.phase) nofun
      | held split begins black holds hShows =>
          obtain ⟨posted, -, hInstant, hTasks⟩ := Scheduler.blankTasks_of_popDue due
          rw [show before.host.scheduler.blankTasks = _ from hShows.tasks] at hTasks
          obtain ⟨hDue, -⟩ := BlankStage.eq_of_pendingFrame hTasks
          have hCommit := BlankStage.awaitingFrame.inj hDue
          exact ⟨task, _, _, _, split, begins, black, holds, hCommit ▸ hInstant⟩
      | informed informed =>
          exact absurd informed (uninformed _ slot (hBefore.blanked_eq_false phase))
  | shown stays shows fresh slot same =>
      cases h with
      | asked hShows =>
          have hFlag : before.controller.blankScreen = true := hShows.flag.mpr nofun
          simp [World.shows, hFlag] at shows
      | held split begins black holds hShows =>
          have hPhase : before.controller.blanking = .awaitingFrame := hShows.phase
          simp [World.shows, hPhase, Blanking.isPending] at shows
      | informed informed => exact absurd informed (uninformed _ slot fresh)
  | entered enters clear new => exact absurd new (Nat.ne_of_gt hKnown)

/-- A transition that blanks the display is entered, and `id` registered for it. -/
def Moment.BlanksFor (moment : Moment) (id : Nat) : Prop :=
  ∃ state callback, moment.event = .request (.transition state (some callback)) ∧
    state ≠ moment.before.controller.state ∧ moment.before.blanksInto state = true ∧
    moment.before.controller.registry.next = id

/-- A registration was made before it was told anything. -/
theorem Accountable.known_of_tells {moment : Moment} {kind : Notification}
    (h : moment.after.Accountable) (tells : moment.Tells kind id) :
    id < moment.after.controller.registry.next := by
  have hPositive : 0 < (told moment.after.journal.callbackEvents id).count kind :=
    Nat.lt_of_le_of_lt (Nat.zero_le _) tells
  obtain ⟨event, hMem, -⟩ := List.mem_map.mp (List.count_pos_iff.mp hPositive)
  obtain ⟨hEvent, hAddressee⟩ := List.mem_filter.mp hMem
  exact h.accounted.orderly.known event hEvent id (of_decide_eq_true hAddressee)

/-- The registration of a transition that blanks the display is not told at that moment. -/
theorem not_covers_of_blanksFor {moment : Moment} (blanks : moment.BlanksFor id) :
    ¬moment.Covers id := by
  obtain ⟨state, callback, hEvent, hOther, hBlank, -⟩ := blanks
  intro covers
  cases covers with
  | committed task phase due slot same => cases hEvent.symm.trans task
  | shown stays shows fresh slot same => exact stays ⟨state, some callback, hEvent, hOther⟩
  | entered enters clear new =>
      obtain ⟨rfl, -⟩ := Operation.transition.inj (Event.request.inj (hEvent.symm.trans enters))
      exact absurd (hBlank.symm.trans clear) nofun

theorem Run.displayed {settings : Settings} {options : SimulationOptions} {first : Simulation}
    (created : Simulation.create settings options = .ok first) {last : World}
    {earlier later : List Moment} {telling entering : Moment}
    (run : Run first.world (earlier ++ telling :: later) last)
    (tells : telling.Tells .displayBlanked id)
    (hEntering : entering ∈ earlier ++ telling :: later) (blanks : entering.BlanksFor id) :
    telling.event = .host (.task .pendingFrame) ∧ ∃ before since,
      earlier = before ++ entering :: since ∧
      (∀ moment ∈ since, ¬moment.before.Enters moment.event) ∧
      Displayed (entering :: since) telling.before := by
  have attuned : ∀ {moments world}, Run first.world moments world → world.Attuned :=
    fun run => run.attuned (attuned_create created)
  obtain ⟨hEarlier, step, hLater⟩ := run.split
  have hBefore := attuned hEarlier
  have hCovers := (step.heard hBefore.accountable).covers hBefore tells
  rcases List.mem_append.mp hEntering with hMem | hMem
  · obtain ⟨before, since, rfl⟩ := List.append_of_mem hMem
    obtain ⟨hStart, hEnter, hSince⟩ := hEarlier.split
    obtain ⟨state, callback, hEvent, hOther, hBlank, hNew⟩ := blanks
    have hStarted := attuned hStart
    rcases entering with ⟨start, event, entered⟩
    obtain rfl : event = .request (.transition state (some callback)) := hEvent
    have hEntered := hEnter.attuned hStarted
    have hKnown : id < entered.controller.registry.next := by
      rw [hEnter.registers hStarted.accountable.accounted hOther]
      exact Nat.lt_succ_of_le (Nat.le_of_eq hNew.symm)
    have hBegun := Veiling.enter hStarted hEnter hOther hBlank
    have hNewest := Nat.lt_of_lt_of_le hKnown (hSince.next_le hEntered)
    rcases hSince.veiling hEntered hBegun hKnown with ⟨hStays, hVeiling⟩ | hOver
    · obtain ⟨hTask, hDisplayed⟩ := hVeiling.displayed hBefore hNewest hCovers
      exact ⟨hTask, before, since, rfl, hStays, hDisplayed⟩
    · exact absurd hCovers hOver.not_covers
  · rcases List.mem_cons.mp hMem with rfl | hMem
    · exact absurd hCovers (not_covers_of_blanksFor blanks)
    · obtain ⟨middle, rest, rfl⟩ := List.append_of_mem hMem
      obtain ⟨hMiddle, -⟩ := hLater.split
      have hAfter := step.attuned hBefore
      have hKnown := hAfter.accountable.known_of_tells tells
      have hNext := hMiddle.next_le hAfter
      obtain ⟨-, -, -, -, -, hNew⟩ := blanks
      omega

/-- Who was told something in a run was told it at one of its moments. -/
theorem Run.tells {start last : World} {moments : List Moment} (run : Run start moments last)
    {kind : Notification}
    (hTold : (told start.journal.callbackEvents id).count kind <
      (told last.journal.callbackEvents id).count kind) :
    ∃ telling ∈ moments, telling.Tells kind id := by
  induction run with
  | nil => exact absurd hTold (Nat.lt_irrefl _)
  | @snoc moments before after event run step ih =>
      by_cases hEarlier : (told start.journal.callbackEvents id).count kind <
          (told before.journal.callbackEvents id).count kind
      · obtain ⟨telling, hMem, hTells⟩ := ih hEarlier
        exact ⟨telling, List.mem_append_left _ hMem, hTells⟩
      · refine ⟨⟨before, event, after⟩, List.mem_append_right _ List.mem_cons_self, ?_⟩
        exact Nat.lt_of_le_of_lt (Nat.le_of_not_lt hEarlier) hTold

/-! ## The course -/

/-- What registrations were told of the cover in a run, and when. -/
structure BlankedInCourse (moments : List Moment) (last : World) : Prop where
  /-- A registration is told that the display is covered at most once. -/
  once : ∀ id, (told last.journal.callbackEvents id).count .displayBlanked ≤ 1
  /-- It is finished only after that. -/
  first : ∀ id later earlier,
    told last.journal.callbackEvents id = later ++ .finished :: earlier →
    .displayBlanked ∈ earlier
  /-- If its transition blanks the display, then only the commit of the black frame drawn for that
  tells it. -/
  displayed : ∀ id earlier telling later, moments = earlier ++ telling :: later →
    telling.Tells .displayBlanked id → ∀ entering ∈ moments, entering.BlanksFor id →
    telling.event = .host (.task .pendingFrame) ∧ ∃ before since,
      earlier = before ++ entering :: since ∧
      (∀ moment ∈ since, ¬moment.before.Enters moment.event) ∧
      Displayed (entering :: since) telling.before

theorem Run.blankedInCourse {settings : Settings} {options : SimulationOptions}
    {first : Simulation} (created : Simulation.create settings options = .ok first) {last : World}
    {moments : List Moment} (run : Run first.world moments last) :
    BlankedInCourse moments last := by
  have hAttuned := run.attuned (attuned_create created)
  refine ⟨fun id => ?_, fun id later earlier hTold => ?_, ?_⟩
  · exact (hAttuned.faithful.course id).count_le_one fun earlier hAllowed => hAllowed.1 rfl
  · exact (unfolds_iff.mp (hAttuned.faithful.course id) later .finished earlier hTold).2 rfl
  · intro id earlier telling later hMoments tells entering hEntering blanks
    rw [hMoments] at run hEntering
    exact run.displayed created tells hEntering blanks

end World

namespace Simulation

open World

/-- Calls on a simulation make a run, and in every run from a fresh simulation registrations are
told of the cover in course: at most once, before they are finished, and, if their transition
blanks the display, by the commit of the black frame drawn for it. -/
theorem display_blanked_in_course {settings : Settings} {options : SimulationOptions} :
    (∀ simulation, Reached settings options simulation →
      ∃ first, create settings options = .ok first ∧ Leads first.world simulation.world) ∧
    ∀ first moments last, create settings options = .ok first → Run first.world moments last →
      BlankedInCourse moments last := by
  constructor
  · intro simulation h
    exact h.reachable
  · intro first moments last created run
    exact run.blankedInCourse created

set_option maxRecDepth 100000 in
/-- A display that is blanked before it dozes: the doze is told once its black frame had 32 ms. -/
theorem display_blanked_in_course_of_blankedDoze : ∃ first entering since last,
    create blankedDoze {} = .ok first ∧ Run first.world (entering :: since) last ∧
    entering.BlanksFor 0 ∧ BlankedInCourse (entering :: since) last ∧
    ∃ telling ∈ entering :: since, telling.Tells .displayBlanked 0 ∧
      telling.event = .host (.task .pendingFrame) := by
  have hCreated : (create blankedDoze {}).toOption.any (fun first =>
      (State.aod ≠ first.world.controller.state && first.world.blanksInto .aod &&
        first.world.controller.registry.next = 0) &&
      (first.world.undergo (.request (.transition .aod (some ⟨0, "doze"⟩)))).any fun entered =>
        ({ first with world := entered }.advance (Time.ofMillis 40)).any
          fun last : Simulation => decide
            ((told first.world.journal.callbackEvents 0).count Notification.displayBlanked <
              (told last.world.journal.callbackEvents 0).count Notification.displayBlanked)) =
        true := by
    decide +kernel
  obtain ⟨first, hCreate, hFacts⟩ := exists_of_any_create hCreated
  obtain ⟨hFresh, hEnters⟩ := Bool.and_eq_true_iff.mp hFacts
  simp only [Bool.and_eq_true, decide_eq_true_eq] at hFresh
  obtain ⟨⟨hOther, hBlank⟩, hNext⟩ := hFresh
  obtain ⟨entered, hEnter, hAdvances⟩ := (Option.any_eq_true _ _).mp hEnters
  obtain ⟨last, hAdvance, hLast⟩ := (Option.any_eq_true _ _).mp hAdvances
  have hTold := of_decide_eq_true hLast
  obtain ⟨since, hSince⟩ := (unasked_advance hAdvance).leads
  have hRun := (Run.nil.snoc (step_iff_undergo.mpr hEnter)).append hSince
  have hCourse := display_blanked_in_course.2 first _ last.world hCreate hRun
  have hBlanks : Moment.BlanksFor ⟨first.world, .request (.transition .aod (some ⟨0, "doze"⟩)),
      entered⟩ 0 := ⟨.aod, ⟨0, "doze"⟩, rfl, hOther, hBlank, hNext⟩
  obtain ⟨telling, hMem, hTells⟩ := hRun.tells hTold
  obtain ⟨earlier, later, hMoments⟩ := List.append_of_mem hMem
  have hDisplayed := hCourse.displayed 0 earlier telling later hMoments hTells _
    List.mem_cons_self hBlanks
  exact ⟨first, _, since, last.world, hCreate, hRun, hBlanks, hCourse, telling, hMem, hTells,
    hDisplayed.1⟩

end Simulation

end Scrim
