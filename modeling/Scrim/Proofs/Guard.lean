import Scrim.Proofs.Driven

/-!
# The wake lock in a run

The wake lock is taken, let go of, or wired up, and nothing else happens to it. What each of
these keeps (`WakeGuard.Kept`) therefore holds in every run (`World.Reachable.guard`). Two such
facts are needed: a lock that was wired from the start stays, and the calls on it come in
rounds, acquired and then released.
-/

namespace Scrim

namespace WakeGuard

/-- A statement about a guard and the calls made so far that every request to the guard keeps. -/
structure Kept (Inv : WakeGuard Unit → List LockCall → Prop) : Prop where
  hold : ∀ guard calls, Inv guard calls → Inv guard.hold.1 (guard.hold.2.calls ++ calls)
  release : ∀ guard calls, Inv guard calls → Inv guard.release.1 (guard.release.2.calls ++ calls)
  wire : ∀ guard calls, Inv guard calls → Inv (guard.setLock ()) calls

variable {Inv : WakeGuard Unit → List LockCall → Prop} {agenda after : Agenda}

namespace Kept

theorem updated (kept : Kept Inv) (h : Inv agenda.wakeGuard agenda.lockCalls)
    (update : agenda.Updated after) : Inv after.wakeGuard after.lockCalls := by
  cases update with
  | held pending => exact h
  | blanked idle blank => exact h
  | moving idle clear holders attached moves => exact h
  | settled idle clear => exact kept.release _ _ h

theorem requested (kept : Kept Inv) {updates : Bool} (h : Inv agenda.wakeGuard agenda.lockCalls)
    (request : agenda.Requested updates after) : Inv after.wakeGuard after.lockCalls := by
  cases request with
  | same => exact h
  | wired => exact kept.wire _ _ h
  | scheduled => exact h
  | awake => exact kept.hold _ _ h
  | posted => exact h
  | updated update => exact kept.updated h update
  | revealed phase update =>
      have hRevealed : Inv agenda.expedite.reveal.wakeGuard agenda.expedite.reveal.lockCalls := h
      exact kept.updated hRevealed update

theorem entered (kept : Kept Inv) {lowPower : Bool} (h : Inv agenda.wakeGuard agenda.lockCalls)
    (entered : agenda.Entered lowPower after) : Inv after.wakeGuard after.lockCalls := by
  have hEnter : ∀ callback blank task,
      Inv (agenda.enter lowPower callback blank task).wakeGuard
        (agenda.enter lowPower callback blank task).lockCalls := by
    intro callback blank task
    unfold Agenda.enter
    split
    · exact kept.hold _ _ h
    · exact h
  cases entered with
  | deferred callback blank task => exact hEnter callback blank task
  | applied callback blank task update =>
      have hReady : Inv (agenda.enter lowPower callback blank task).unschedule.wakeGuard
          (agenda.enter lowPower callback blank task).unschedule.lockCalls :=
        hEnter callback blank task
      exact kept.updated hReady update

theorem delivered (kept : Kept Inv) {task : Task} (h : Inv agenda.wakeGuard agenda.lockCalls)
    (delivered : agenda.Delivered task after) : Inv after.wakeGuard after.lockCalls := by
  cases delivered with
  | stray commit reveal => exact h
  | committed phase delay => exact h
  | revealed phase update =>
      have hRevealed : Inv agenda.reveal.wakeGuard agenda.reveal.lockCalls := h
      exact kept.updated hRevealed update

theorem framed (kept : Kept Inv) (h : Inv agenda.wakeGuard agenda.lockCalls)
    (framed : agenda.Framed after) : Inv after.wakeGuard after.lockCalls := by
  cases framed with
  | still still => exact h
  | moving kept moves => exact h
  | settled ended carried => exact kept.release _ _ h

theorem stepped (kept : Kept Inv) {world : World} {event : Event}
    (h : Inv world.agenda.wakeGuard world.agenda.lockCalls)
    (stepped : world.Stepped event after) : Inv after.wakeGuard after.lockCalls := by
  cases stepped with
  | requested other request => exact kept.requested h request
  | confirmed active => exact h
  | entered other entered => exact kept.entered h entered
  | clock time => exact h
  | alarm =>
      split
      · exact kept.hold _ _ h
      · exact h
  | @task task scheduler _ due delivered =>
      have hTaken : Inv (world.agenda.onScheduler scheduler).wakeGuard
          (world.agenda.onScheduler scheduler).lockCalls := h
      exact kept.delivered hTaken delivered
  | animationFrame framed =>
      have hAnswered : Inv world.agenda.answer.wakeGuard world.agenda.answer.lockCalls := h
      exact kept.framed hAnswered framed
  | preDraw update =>
      have hReady : Inv world.agenda.unschedule.wakeGuard world.agenda.unschedule.lockCalls := h
      exact kept.updated hReady update

end Kept

end WakeGuard

/-- What every request to the guard keeps holds in every run. -/
theorem World.Reachable.guard {settings : Settings} {options : SimulationOptions} {world : World}
    (h : Reachable settings options world) {Inv : WakeGuard Unit → List LockCall → Prop}
    (kept : WakeGuard.Kept Inv)
    (fresh : Inv { lock := if options.wakeLock then some () else none } []) :
    Inv world.controller.wakeGuard world.journal.lockCalls := by
  refine h.agenda_invariant (fun agenda => Inv agenda.wakeGuard agenda.lockCalls)
    (fun agenda update => ?_) fun _ _ _ _ stepped hBefore => kept.stepped hBefore stepped
  have hFresh : Inv (Agenda.fresh options).wakeGuard (Agenda.fresh options).lockCalls := fresh
  exact kept.updated hFresh update

/-! ## The lock stays wired -/

theorem WakeGuard.kept_lock : Kept fun guard _ => guard.lock.isSome = true where
  hold guard calls h := by
    unfold hold
    split
    · exact h
    · split
      · exact h
      · exact h
  release guard calls h := by
    unfold release
    split
    · exact h
    · exact h
  wire _ _ _ := rfl

/-! ## The calls come in rounds -/

def LockCall.rounds (count : Nat) : List LockCall :=
  (List.replicate count [.acquire, .release]).flatten

theorem LockCall.rounds_succ (count : Nat) :
    rounds (count + 1) = rounds count ++ [.acquire, .release] := by
  simp [rounds, List.replicate_succ']

/-- The calls on the wake lock are complete rounds, and the first half of another while the lock
is held. A lock that is held is there. -/
structure WakeGuard.Paired (guard : WakeGuard Unit) (calls : List LockCall) : Prop where
  wired : guard.held = true → guard.lock.isSome = true
  calls : ∃ rounds, calls.reverse =
    LockCall.rounds rounds ++ if guard.held then [.acquire] else []

theorem WakeGuard.kept_paired : Kept Paired where
  hold guard calls h := by
    obtain ⟨rounds, hCalls⟩ := h.calls
    unfold hold
    cases hHeld : guard.held with
    | true => exact ⟨h.wired, rounds, hCalls⟩
    | false =>
        cases hLock : guard.lock with
        | none => exact ⟨h.wired, rounds, hCalls⟩
        | some lock =>
            refine ⟨fun _ => rfl, rounds, ?_⟩
            rw [hHeld] at hCalls
            simpa [GuardResult.calls] using hCalls
  release guard calls h := by
    obtain ⟨rounds, hCalls⟩ := h.calls
    unfold release
    cases hHeld : guard.held with
    | true =>
        obtain ⟨lock, hLock⟩ := Option.isSome_iff_exists.mp (h.wired hHeld)
        refine ⟨fun hHeld => absurd hHeld Bool.false_ne_true, rounds + 1, ?_⟩
        rw [hHeld] at hCalls
        simp [hLock, GuardResult.calls, hCalls, LockCall.rounds_succ]
    | false => exact ⟨h.wired, rounds, hCalls⟩
  wire guard calls h := ⟨fun _ => rfl, h.calls⟩

theorem World.Reachable.paired {settings : Settings} {options : SimulationOptions} {world : World}
    (h : Reachable settings options world) :
    world.controller.wakeGuard.Paired world.journal.lockCalls :=
  h.guard WakeGuard.kept_paired ⟨nofun, 0, rfl⟩

/-- A lock wired from the start is there in every run. -/
theorem World.Reachable.wired {settings : Settings} {options : SimulationOptions} {world : World}
    (h : Reachable settings options world) (hWired : options.wakeLock = true) :
    world.controller.wakeGuard.lock.isSome = true :=
  h.guard WakeGuard.kept_lock (by rw [hWired]; rfl)

end Scrim
