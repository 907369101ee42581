/-!
# Transition callbacks

A caller may pass a callback with a transition and is then told how the transition goes.
Every transition into another state *registers* its callback anew, and a registration ends
with one terminal notification, finished or cancelled; after that nothing reaches the caller
through it. The `Registry` keeps which registrations have ended, so copies of a registration,
such as those that running animations hold, always agree. The main statement is that a
registration ends once.
-/

namespace Scrim

/-- What a transition reports to its caller. -/
inductive Notification where
  /-- The deferred update of the transition is about to run. -/
  | start
  /-- The display is covered, so its power mode may change. -/
  | displayBlanked
  /-- Every animation of the transition has settled. -/
  | finished
  /-- Another transition took over. -/
  | cancelled
deriving DecidableEq, Repr

/-- A caller's callback. Two callbacks are the same exactly if their numbers agree; labels
may repeat. -/
structure Callback where
  id : Nat
  label : String
deriving DecidableEq, Repr

/-- One registration of a callback; registering a callback twice gives two of them. -/
structure Registration where
  id : Nat
  callback : Callback
deriving DecidableEq, Repr

def Registration.wraps (registration : Registration) (callback : Callback) : Bool :=
  registration.callback.id = callback.id

structure Registry where
  /-- The number of the next registration. -/
  next : Nat := 0
  /-- The numbers of the registrations that have ended. -/
  ended : List Nat := []
deriving Repr

namespace Registry

def register (registry : Registry) (callback : Callback) : Registration × Registry :=
  (⟨registry.next, callback⟩, { registry with next := registry.next + 1 })

def isTerminated (registry : Registry) (registration : Registration) : Bool :=
  registry.ended.contains registration.id

/-- Ends a registration. The flag says whether it was still open, so that its terminal
notification is due. -/
def terminate (registry : Registry) (registration : Registration) : Registry × Bool :=
  if registry.isTerminated registration then (registry, false)
  else ({ registry with ended := registration.id :: registry.ended }, true)

def describe (registry : Registry) (registration : Registration) : String :=
  s!"CallbackHandle \x7b terminated: {registry.isTerminated registration} \x7d"

theorem isTerminated_terminate (registry : Registry) (registration : Registration) :
    (registry.terminate registration).1.isTerminated registration = true := by
  unfold terminate
  split
  · assumption
  · simp [isTerminated]

/-- A registration ends once. -/
theorem terminate_terminate (registry : Registry) (registration : Registration) :
    ((registry.terminate registration).1.terminate registration).2 = false := by
  rw [terminate, if_pos (isTerminated_terminate registry registration)]

end Registry

end Scrim
