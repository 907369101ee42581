import Scrim.Scheduler

/-!
# Blanking the display

Some panels show artifacts when they switch power mode. The controller then draws an opaque
black front layer and waits twice before it shows the new state: first until the black frame
is on the display, then until the power mode has changed. The second wait is short when the
screen is on, and turning the screen on cuts a long one short.
-/

namespace Scrim

/-- How far a blanking has come. -/
inductive Blanking where
  | idle
  /-- The black frame has been drawn but may not be on the display yet. -/
  | awaitingFrame
  /-- The black frame is on the display and the power mode is changing. -/
  | awaitingReveal
deriving DecidableEq, Repr, Inhabited

namespace Blanking

def key : Blanking → String
  | .idle => "idle"
  | .awaitingFrame => "awaiting_frame"
  | .awaitingReveal => "awaiting_reveal"

/-- How long a frame takes to reach the display. -/
def frameDelay : Nat := Time.ofMillis 32

/-- How long the power mode takes to change. -/
def revealDelay (screenOn : Bool) : Nat :=
  if screenOn then Time.ofMillis 32 else Time.ofMillis 500

def isPending (phase : Blanking) : Bool :=
  phase ≠ .idle

/-- Starts to wait for a black frame that has just been drawn. -/
def begin (scheduler : Scheduler) : Blanking × Scheduler :=
  (.awaitingFrame, scheduler.postDelayed .pendingFrame frameDelay)

/-- The black frame is on the display: waits for the reveal. Answers the wait, or nothing if
no frame was awaited. -/
def commitFrame (phase : Blanking) (scheduler : Scheduler) (screenOn : Bool) :
    Blanking × Scheduler × Option Nat :=
  if phase = .awaitingFrame then
    let delay := revealDelay screenOn
    (.awaitingReveal, scheduler.postDelayed .blankingTransition delay, some delay)
  else (phase, scheduler, none)

/-- Ends the blanking if a reveal is awaited. The flag says whether one was. -/
def reveal (phase : Blanking) : Blanking × Bool :=
  if phase = .awaitingReveal then (.idle, true) else (phase, false)

/-- Takes an awaited reveal out of the queue, so that the caller makes it now. The flag says
whether there was one. -/
def expediteReveal (phase : Blanking) (scheduler : Scheduler) : Scheduler × Bool :=
  if phase = .awaitingReveal && scheduler.hasPending .blankingTransition then
    (scheduler.cancel .blankingTransition, true)
  else (scheduler, false)

def cancel (scheduler : Scheduler) : Blanking × Scheduler :=
  (.idle, (scheduler.cancel .pendingFrame).cancel .blankingTransition)

end Blanking

end Scrim
