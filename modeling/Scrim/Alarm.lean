import Scrim.Time

/-!
# The alarm

The one-shot alarm that fades an ambient wallpaper away after its time in the always-on
display. Its deadline is an instant of the scheduler's clock.
-/

namespace Scrim

inductive ArmMode where
  /-- Replace the deadline. -/
  | replace
  /-- Keep the deadline. -/
  | keep
deriving DecidableEq, Repr

structure Alarm where
  deadline : Option Nat := none
  /-- How many times the alarm was actually armed. -/
  scheduleCount : Nat := 0
deriving DecidableEq, Repr

namespace Alarm

def isScheduled (alarm : Alarm) : Bool :=
  alarm.deadline.isSome

def schedule (alarm : Alarm) (now delay : Nat) (mode : ArmMode) : Alarm × Bool :=
  if mode = .keep && alarm.isScheduled then (alarm, false)
  else (⟨some (now + delay), alarm.scheduleCount + 1⟩, true)

def cancel (alarm : Alarm) : Alarm :=
  { alarm with deadline := none }

def isDue (alarm : Alarm) (now : Nat) : Bool :=
  match alarm.deadline with
  | some deadline => deadline ≤ now
  | none => false

/-- Disarms an alarm whose deadline has passed. The flag says whether it had. -/
def fireIfDue (alarm : Alarm) (now : Nat) : Alarm × Bool :=
  if alarm.isDue now then (alarm.cancel, true) else (alarm, false)

theorem isDue_fireIfDue (alarm : Alarm) (now : Nat) :
    (alarm.fireIfDue now).1.isDue now = false := by
  unfold fireIfDue
  split
  · rfl
  · simpa using ‹¬alarm.isDue now = true›

end Alarm

end Scrim
