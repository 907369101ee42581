import Scrim.Config.Limits
import Scrim.Files
import Scrim.Scenario.Replay

/-!
# Failures of a command

What went wrong at the bottom, and what was being done when it did. The message puts the
outermost context first.
-/

namespace Scrim

inductive Cause where
  /-- A text does not have the form asked for. -/
  | unreadable
  | file (error : FileError)
  | configuration (error : ConfigError)
  | configurationMissing (path : String)
  | noConfigurationDirectory
  /-- A scenario returns to the starting state. -/
  | uninitializedStep (atMs : Nat)
  | controller (error : Error)
deriving Repr

/-- The words for a cause; an unreadable text is described by its contexts alone. -/
def Cause.message? : Cause → Option String
  | .unreadable => none
  | .file error => some error.message
  | .configuration error => some error.message
  | .configurationMissing path => some s!"Configuration file not found: {path}"
  | .noConfigurationDirectory => some "Could not determine config directory"
  | .uninitializedStep atMs =>
    some s!"Scenario step at {atMs} ms transitions to the uninitialized state"
  | .controller error => some error.message

/-- A cause with what was being done, outermost first. -/
structure Failure where
  contexts : List String := []
  cause : Cause
deriving Repr

namespace Failure

/-- Adds what was being done around a failure. -/
def within (failure : Failure) (context : String) : Failure :=
  { failure with contexts := context :: failure.contexts }

def message (failure : Failure) : String :=
  ": ".intercalate (failure.contexts ++ failure.cause.message?.toList)

def ofStep (step : StepFailure) : Failure :=
  ⟨[s!"Scenario step {step.number} at {step.atMs} ms failed"], .controller step.error⟩

end Failure

end Scrim
