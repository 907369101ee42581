import Scrim.Log

/-!
# Wake locks

Taking a wake lock is expensive, so the controller goes through a `WakeGuard`, which
remembers whether it holds the lock and makes each call only when it changes something. The
lock may be wired up late, or replaced. A hold without a lock is reported and skipped.
-/

namespace Scrim

inductive LockCall where
  | acquire
  | release
deriving DecidableEq, Repr

def LockCall.key : LockCall → String
  | .acquire => "acquire"
  | .release => "release"

/-- The tag under which the controller calls its wake lock. -/
def wakeLockTag : String := "ScrimController"

/-- The holder of one wake lock. -/
structure WakeGuard (Lock : Type) where
  lock : Option Lock
  held : Bool := false
deriving Repr

inductive GuardResult (Lock : Type) where
  /-- The request changed nothing. -/
  | nothing
  /-- There is no lock to hold. -/
  | missing
  | called (lock : Lock) (call : LockCall)
deriving Repr

variable {Lock : Type}

def GuardResult.calls : GuardResult Lock → List LockCall
  | .called _ call => [call]
  | _ => []

namespace WakeGuard

def setLock (guard : WakeGuard Lock) (lock : Lock) : WakeGuard Lock :=
  { guard with lock := some lock }

def hold (guard : WakeGuard Lock) : WakeGuard Lock × GuardResult Lock :=
  if guard.held then (guard, .nothing)
  else match guard.lock with
    | none => (guard, .missing)
    | some lock => ({ guard with held := true }, .called lock .acquire)

def release (guard : WakeGuard Lock) : WakeGuard Lock × GuardResult Lock :=
  if guard.held then
    ({ guard with held := false },
      match guard.lock with
      | none => .nothing
      | some lock => .called lock .release)
  else (guard, .nothing)

def lines : GuardResult Lock → List Log.Line
  | .nothing => []
  | .missing => [⟨.warning, "Cannot hold wake lock, it has not been set yet"⟩]
  | .called _ .acquire => [⟨.debug, "Wake lock acquired"⟩]
  | .called _ .release => [⟨.debug, "Wake lock released"⟩]

def describe (guard : WakeGuard Lock) : String :=
  s!"WakeLockGuard \x7b configured: {guard.lock.isSome}, held: {guard.held} \x7d"

end WakeGuard

end Scrim
