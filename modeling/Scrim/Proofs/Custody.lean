import Mathlib.Data.List.Chain
import Scrim.Proofs.Guard

/-!
# Custody of wake locks

A guard remembers one flag and may be given another lock at any time, so the lock that it took
and the lock that it would let go of can come apart: it is then *estranged*. Every lock is
acquired and released by turns, and the flag tells which one is held, exactly as long as no
estranged guard is asked to let go and none is left behind (`Custody.faithful_iff`).

What carries this is that up to the first such request the calls on every lock are complete
rounds, but for the lock called last, which is acquired while the guard holds
(`Custody.Orderly`).
-/

namespace Scrim

/-! ## The calls on one lock -/

namespace LockCall

/-- Acquired and released by turns, and acquired first. -/
def Alternates (calls : List LockCall) : Prop :=
  calls.head? ≠ some .release ∧ calls.IsChain (· ≠ ·)

def Unmatched (calls : List LockCall) : Prop :=
  calls.count .release < calls.count .acquire

variable {calls more : List LockCall}

/-- What alternates has always done so. -/
theorem Alternates.of_append (h : Alternates (calls ++ more)) : Alternates calls := by
  constructor
  · intro hFirst
    apply h.1
    rw [List.head?_append, hFirst]
    rfl
  · exact h.2.left_of_append

theorem count_rounds (count : Nat) (call : LockCall) : (rounds count).count call = count := by
  induction count with
  | zero => simp [rounds]
  | succ count ih =>
      rw [rounds_succ, List.count_append, ih]
      cases call <;> simp

theorem not_unmatched_rounds (count : Nat) : ¬Unmatched (rounds count) := by
  simp [Unmatched, count_rounds]

theorem unmatched_rounds_acquire (count : Nat) : Unmatched (rounds count ++ [.acquire]) := by
  simp [Unmatched, count_rounds]

theorem alternates_rounds_acquire (count : Nat) : Alternates (rounds count ++ [.acquire]) := by
  induction count with
  | zero => simp [rounds, Alternates]
  | succ count ih =>
      constructor
      · simp [rounds, List.replicate_succ]
      · have hSplit : rounds (count + 1) ++ [.acquire] =
            (rounds count ++ [.acquire]) ++ [.release, .acquire] := by
          simp [rounds_succ]
        rw [hSplit, List.isChain_append]
        exact ⟨ih.2, by simp, by simp⟩

theorem alternates_rounds (count : Nat) : Alternates (rounds count) :=
  (alternates_rounds_acquire count).of_append

/-- Complete rounds end with a release, so another one does not alternate. -/
theorem not_alternates_rounds_release (count : Nat) :
    ¬Alternates (rounds count ++ [.release]) := by
  intro h
  cases count with
  | zero => simp [rounds, Alternates] at h
  | succ count =>
      rw [rounds_succ, List.append_assoc] at h
      simpa using h.2.right_of_append

end LockCall

/-! ## Requests to a guard -/

inductive WakeGuard.Request (Lock : Type) where
  | hold
  | release
  | setLock (lock : Lock)

/-- A guard and the calls that it has made, oldest first, each with its lock. -/
structure Custody (Lock : Type) where
  guard : WakeGuard Lock
  calls : List (Lock × LockCall) := []

variable {Lock : Type}

def GuardResult.made : GuardResult Lock → List (Lock × LockCall)
  | .called lock call => [(lock, call)]
  | _ => []

namespace Custody

def ask (custody : Custody Lock) (request : WakeGuard.Request Lock) : Custody Lock :=
  match request with
  | .hold =>
    let (guard, result) := custody.guard.hold
    ⟨guard, custody.calls ++ result.made⟩
  | .release =>
    let (guard, result) := custody.guard.release
    ⟨guard, custody.calls ++ result.made⟩
  | .setLock lock => { custody with guard := custody.guard.setLock lock }

def serve (lock : Option Lock) (requests : List (WakeGuard.Request Lock)) : Custody Lock :=
  requests.foldl ask { guard := { lock } }

theorem serve_snoc (lock : Option Lock) (requests : List (WakeGuard.Request Lock))
    (request : WakeGuard.Request Lock) :
    serve lock (requests ++ [request]) = (serve lock requests).ask request := by
  unfold serve
  rw [List.foldl_append]
  rfl

/-- The guard holds, but the lock that is in place is not the one it called last. -/
def Estranged (custody : Custody Lock) : Prop :=
  custody.guard.held = true ∧ custody.calls.getLast?.map Prod.fst ≠ custody.guard.lock

/-- No estranged guard is asked to let go. -/
def Loyal (lock : Option Lock) (requests : List (WakeGuard.Request Lock)) : Prop :=
  ∀ before, before ++ [.release] <+: requests → ¬(serve lock before).Estranged

theorem loyal_snoc_iff {lock : Option Lock} {requests : List (WakeGuard.Request Lock)}
    {request : WakeGuard.Request Lock} : Loyal lock (requests ++ [request]) ↔
      Loyal lock requests ∧ (request = .release → ¬(serve lock requests).Estranged) := by
  constructor
  · intro h
    constructor
    · intro before hPrefix
      exact h before (hPrefix.trans (List.prefix_append _ _))
    · rintro rfl
      exact h requests List.prefix_rfl
  · rintro ⟨hLoyal, hLast⟩ before hPrefix
    rcases List.prefix_concat_iff.mp hPrefix with hSame | hPrefix
    · obtain ⟨rfl, hRelease⟩ := List.append_inj' hSame rfl
      exact hLast (List.singleton_inj.mp hRelease).symm
    · exact hLoyal before hPrefix

variable [DecidableEq Lock]

def callsOn (custody : Custody Lock) (lock : Lock) : List LockCall :=
  (custody.calls.filter (·.1 = lock)).map Prod.snd

/-- Every lock is acquired and released by turns, and the guard holds exactly if the lock in
place has an acquisition left to match, and no other lock has one. -/
structure Faithful (custody : Custody Lock) : Prop where
  alternates : ∀ lock, LockCall.Alternates (custody.callsOn lock)
  held : custody.guard.held = true ↔ ∃ lock, custody.guard.lock = some lock ∧
    LockCall.Unmatched (custody.callsOn lock) ∧
    ∀ other, other ≠ lock → ¬LockCall.Unmatched (custody.callsOn other)

/-! ## Up to the first stray release -/

section Calls

variable {custody : Custody Lock} {guard : WakeGuard Lock} {lock other : Lock} {call : LockCall}

theorem callsOn_append (more : List (Lock × LockCall)) :
    callsOn ⟨guard, custody.calls ++ more⟩ lock =
      custody.callsOn lock ++ (more.filter (·.1 = lock)).map Prod.snd := by
  simp [callsOn]

theorem callsOn_called_self :
    callsOn ⟨guard, custody.calls ++ [(lock, call)]⟩ lock = custody.callsOn lock ++ [call] := by
  simp [callsOn_append]

theorem callsOn_called_of_ne (h : other ≠ lock) :
    callsOn ⟨guard, custody.calls ++ [(lock, call)]⟩ other = custody.callsOn other := by
  simp [callsOn_append, Ne.symm h]

theorem alternates_of_ask {request : WakeGuard.Request Lock}
    (h : LockCall.Alternates ((custody.ask request).callsOn lock)) :
    LockCall.Alternates (custody.callsOn lock) := by
  cases request with
  | hold =>
      simp only [ask, callsOn_append] at h
      exact h.of_append
  | release =>
      simp only [ask, callsOn_append] at h
      exact h.of_append
  | setLock other => exact h

end Calls

variable {custody : Custody Lock}

/-- The calls on every lock are complete rounds, but for the lock called last while the guard
holds: that one is acquired. -/
inductive Orderly (custody : Custody Lock) : Prop where
  | free (free : custody.guard.held = false)
      (rounds : ∀ lock, ∃ count, custody.callsOn lock = LockCall.rounds count)
  | held (held : custody.guard.held = true) (wired : custody.guard.lock.isSome = true) (last : Lock)
      (called : custody.calls.getLast?.map Prod.fst = some last)
      (acquired : ∃ count, custody.callsOn last = LockCall.rounds count ++ [.acquire])
      (rounds : ∀ lock, lock ≠ last → ∃ count, custody.callsOn lock = LockCall.rounds count)

namespace Orderly

theorem hold (h : custody.Orderly) : (custody.ask .hold).Orderly := by
  cases h with
  | held held wired last called acquired rounds =>
      have hSame : custody.ask .hold = custody := by
        simp [ask, WakeGuard.hold, held, GuardResult.made]
      rw [hSame]
      exact .held held wired last called acquired rounds
  | free free rounds =>
      cases hLock : custody.guard.lock with
      | none =>
          have hSame : custody.ask .hold = custody := by
            simp [ask, WakeGuard.hold, free, hLock, GuardResult.made]
          rw [hSame]
          exact .free free rounds
      | some lock =>
          have hCalled : custody.ask .hold =
              ⟨{ custody.guard with held := true }, custody.calls ++ [(lock, .acquire)]⟩ := by
            simp [ask, WakeGuard.hold, free, hLock, GuardResult.made]
          rw [hCalled]
          refine .held rfl (by simp [hLock]) lock (by simp) ?_ ?_
          · obtain ⟨count, hRounds⟩ := rounds lock
            exact ⟨count, by rw [callsOn_called_self, hRounds]⟩
          · intro other hOther
            rw [callsOn_called_of_ne hOther]
            exact rounds other

/-- A guard lets go of the lock that it took, unless it is estranged. -/
theorem release (h : custody.Orderly) (hLoyal : ¬custody.Estranged) :
    (custody.ask .release).Orderly := by
  cases h with
  | free free rounds =>
      have hSame : custody.ask .release = custody := by
        simp [ask, WakeGuard.release, free, GuardResult.made]
      rw [hSame]
      exact .free free rounds
  | held held wired last called acquired rounds =>
      have hLock : custody.guard.lock = some last := by
        by_contra hOther
        exact hLoyal ⟨held, fun hSame => hOther (hSame.symm.trans called)⟩
      have hCalled : custody.ask .release =
          ⟨{ custody.guard with held := false }, custody.calls ++ [(last, .release)]⟩ := by
        simp [ask, WakeGuard.release, held, hLock, GuardResult.made]
      rw [hCalled]
      refine .free rfl fun lock => ?_
      by_cases hLast : lock = last
      · subst hLast
        obtain ⟨count, hAcquired⟩ := acquired
        refine ⟨count + 1, ?_⟩
        rw [callsOn_called_self, hAcquired, LockCall.rounds_succ]
        simp
      · rw [callsOn_called_of_ne hLast]
        exact rounds lock hLast

theorem ask (h : custody.Orderly) (request : WakeGuard.Request Lock)
    (hLoyal : request = .release → ¬custody.Estranged) : (custody.ask request).Orderly := by
  cases request with
  | hold => exact h.hold
  | release => exact h.release (hLoyal rfl)
  | setLock lock =>
      cases h with
      | free free rounds => exact .free free rounds
      | held held wired last called acquired rounds =>
          exact .held held rfl last called acquired rounds

theorem alternates (h : custody.Orderly) (lock : Lock) :
    LockCall.Alternates (custody.callsOn lock) := by
  have hSettled (hRounds : ∃ count, custody.callsOn lock = LockCall.rounds count) :
      LockCall.Alternates (custody.callsOn lock) := by
    obtain ⟨count, hRounds⟩ := hRounds
    rw [hRounds]
    exact LockCall.alternates_rounds count
  cases h with
  | free free rounds => exact hSettled (rounds lock)
  | held held wired last called acquired rounds =>
      by_cases hLast : lock = last
      · obtain ⟨count, hAcquired⟩ := acquired
        rw [hLast, hAcquired]
        exact LockCall.alternates_rounds_acquire count
      · exact hSettled (rounds lock hLast)

theorem exists_called (h : custody.Orderly) (hHeld : custody.guard.held = true) :
    ∃ last, custody.calls.getLast?.map Prod.fst = some last := by
  cases h with
  | free free rounds => exact absurd (free.symm.trans hHeld) Bool.false_ne_true
  | held held wired last called acquired rounds => exact ⟨last, called⟩

/-- The only lock with an acquisition left to match is the one that a guard that holds called
last. -/
theorem unmatched_iff (h : custody.Orderly) {lock : Lock} :
    LockCall.Unmatched (custody.callsOn lock) ↔
      custody.guard.held = true ∧ custody.calls.getLast?.map Prod.fst = some lock := by
  have hSettled (hRounds : ∃ count, custody.callsOn lock = LockCall.rounds count) :
      ¬LockCall.Unmatched (custody.callsOn lock) := by
    obtain ⟨count, hRounds⟩ := hRounds
    rw [hRounds]
    exact LockCall.not_unmatched_rounds count
  cases h with
  | free free rounds =>
      simp [hSettled (rounds lock), free]
  | held held wired last called acquired rounds =>
      by_cases hLast : lock = last
      · subst hLast
        obtain ⟨count, hAcquired⟩ := acquired
        simp [held, called, hAcquired, LockCall.unmatched_rounds_acquire]
      · simp [hSettled (rounds lock hLast), called, Ne.symm hLast]

/-- A stray release reaches a lock that is not acquired. -/
theorem exists_not_alternates (h : custody.Orderly) (hEstranged : custody.Estranged) :
    ∃ lock, ¬LockCall.Alternates ((custody.ask .release).callsOn lock) := by
  obtain ⟨hHeld, hApart⟩ := hEstranged
  cases h with
  | free free rounds => exact absurd (free.symm.trans hHeld) Bool.false_ne_true
  | held held wired last called acquired rounds =>
      obtain ⟨lock, hLock⟩ := Option.isSome_iff_exists.mp wired
      have hOther : lock ≠ last := by
        rintro rfl
        exact hApart (called.trans hLock.symm)
      have hCalled : custody.ask .release =
          ⟨{ custody.guard with held := false }, custody.calls ++ [(lock, .release)]⟩ := by
        simp [Custody.ask, WakeGuard.release, held, hLock, GuardResult.made]
      obtain ⟨count, hRounds⟩ := rounds lock hOther
      refine ⟨lock, ?_⟩
      rw [hCalled, callsOn_called_self, hRounds]
      exact LockCall.not_alternates_rounds_release count

end Orderly

/-! ## All requests -/

variable {lock : Option Lock} {requests : List (WakeGuard.Request Lock)}

theorem Loyal.orderly (h : Loyal lock requests) : (serve lock requests).Orderly := by
  induction requests using List.reverseRecOn with
  | nil => exact .free rfl fun _ => ⟨0, rfl⟩
  | append_singleton requests request ih =>
      obtain ⟨hLoyal, hLast⟩ := loyal_snoc_iff.mp h
      rw [serve_snoc]
      exact (ih hLoyal).ask request hLast

/-- If every lock alternates, then no release was stray. -/
theorem loyal_of_alternates
    (h : ∀ other, LockCall.Alternates ((serve lock requests).callsOn other)) :
    Loyal lock requests := by
  induction requests using List.reverseRecOn with
  | nil =>
      intro before hPrefix
      simp at hPrefix
  | append_singleton requests request ih =>
      rw [serve_snoc] at h
      have hLoyal := ih fun other => alternates_of_ask (h other)
      refine loyal_snoc_iff.mpr ⟨hLoyal, ?_⟩
      rintro rfl hEstranged
      obtain ⟨other, hStray⟩ := hLoyal.orderly.exists_not_alternates hEstranged
      exact hStray (h other)

/-- Every lock that a guard was ever given is acquired and released by turns, and the guard says
truly which one is held, exactly if no release came while another lock was in place than the one
it took, and none is in place now. -/
theorem faithful_iff (lock : Option Lock) (requests : List (WakeGuard.Request Lock)) :
    (serve lock requests).Faithful ↔
      Loyal lock requests ∧ ¬(serve lock requests).Estranged := by
  constructor
  · intro h
    have hLoyal := loyal_of_alternates h.alternates
    refine ⟨hLoyal, ?_⟩
    rintro ⟨hHeld, hApart⟩
    obtain ⟨current, hLock, hUnmatched, -⟩ := h.held.mp hHeld
    have hCalled := (hLoyal.orderly.unmatched_iff.mp hUnmatched).2
    exact hApart (hCalled.trans hLock.symm)
  · rintro ⟨hLoyal, hEnd⟩
    have hOrderly := hLoyal.orderly
    refine ⟨hOrderly.alternates, ?_, ?_⟩
    · intro hHeld
      obtain ⟨last, hLast⟩ := hOrderly.exists_called hHeld
      refine ⟨last, ?_, hOrderly.unmatched_iff.mpr ⟨hHeld, hLast⟩, ?_⟩
      · by_contra hApart
        exact hEnd ⟨hHeld, fun hSame => hApart (hSame.symm.trans hLast)⟩
      · intro other hOther hUnmatched
        have hCalled := (hOrderly.unmatched_iff.mp hUnmatched).2
        exact hOther (Option.some.inj (hCalled.symm.trans hLast))
    · rintro ⟨current, -, hUnmatched, -⟩
      exact (hOrderly.unmatched_iff.mp hUnmatched).1

/-- A lock that takes over while another is held is released without having been acquired, and
the other is never released. -/
theorem held_lock_lost : ¬(serve (some 0) [.hold, .setLock 1, .release]).Faithful := by
  intro h
  have hCalls : (serve (some 0) [.hold, .setLock 1, .release]).callsOn 1 = [.release] := by
    decide
  have hAlternates := h.alternates 1
  rw [hCalls] at hAlternates
  exact hAlternates.1 rfl

end Custody

end Scrim
