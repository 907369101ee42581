import Scrim.Json
import Scrim.Simulation

/-!
# Simulation reports

What a finished simulation has to show: the collapsed trace, and everything that the host was
told. A report is written as data or as log lines.
-/

namespace Scrim

/-! ## Frames -/

namespace TraceFrame

def toJson (frame : TraceFrame) : Json :=
  .object
    [("time_ms", .natural frame.timeMs),
      ("state", .string frame.state.key),
      ("layers", .array (frame.layers.map fun sample => .object
        [("layer", .string sample.layer.key),
          ("alpha", .float sample.alpha),
          ("tint", .natural sample.tint.argb.toNat)])),
      ("visibility", match frame.visibility with
        | none => .null
        | some visibility => .string visibility.key),
      ("wake_lock_held", .boolean frame.wakeLockHeld)]

end TraceFrame

/-- A time in milliseconds, in at least six columns. -/
def Time.column (ms : Nat) : String :=
  let digits := toString ms
  "t=" ++ "".pushn ' ' (6 - digits.length) ++ digits ++ "ms"

def LayerSample.text (sample : LayerSample) : String :=
  s!"{sample.layer.shortName}={Decimal.fixed 3 (.ofFloat32 sample.alpha)}/{sample.tint.hex}"

def TraceFrame.text (frame : TraceFrame) : String :=
  let layers := " ".intercalate (frame.layers.map LayerSample.text)
  let visibility := (frame.visibility.map Visibility.name).getD "-"
  s!"{Time.column frame.timeMs} {frame.state.name} {layers} [{visibility}]"
    ++ if frame.wakeLockHeld then " wake" else ""

/-! ## Notifications -/

def Notification.key : Notification → String
  | .start => "start"
  | .displayBlanked => "display_blanked"
  | .finished => "finished"
  | .cancelled => "cancelled"

def Notification.name : Notification → String
  | .start => "Start"
  | .displayBlanked => "DisplayBlanked"
  | .finished => "Finished"
  | .cancelled => "Cancelled"

def CallbackEvent.toJson (event : CallbackEvent) : Json :=
  .object
    [("time_ms", .natural event.timeMs),
      ("label", .string event.label),
      ("kind", .string event.kind.key)]

def CallbackEvent.text (event : CallbackEvent) : String :=
  s!"{Time.column event.timeMs} {event.label} {event.kind.name}"

def Dispatch.toJson (dispatch : Dispatch) : Json :=
  .object
    [("time_ms", .natural dispatch.timeMs),
      ("state", .string dispatch.state.key),
      ("behind_alpha", .float dispatch.behindAlpha)]

/-! ## The report -/

structure Report where
  finalState : State
  frames : List TraceFrame
  callbackEvents : List CallbackEvent
  dispatches : List Dispatch
  visibilityChanges : List Visibility
  lockCalls : List LockCall
deriving Repr

def Simulation.report (simulation : Simulation) : Report :=
  let journal := simulation.world.journal
  { finalState := simulation.world.controller.state
    frames := TraceFrame.collapse simulation.trace.reverse
    callbackEvents := journal.callbackEvents.reverse
    dispatches := journal.dispatches.reverse
    visibilityChanges := journal.visibilityChanges.reverse
    lockCalls := journal.lockCalls.reverse }

namespace Report

def toJson (report : Report) : Json :=
  .object
    [("final_state", .string report.finalState.key),
      ("frames", .array (report.frames.map TraceFrame.toJson)),
      ("callbacks", .array (report.callbackEvents.map CallbackEvent.toJson)),
      ("state_dispatches", .array (report.dispatches.map Dispatch.toJson)),
      ("visibility_changes", .array (report.visibilityChanges.map fun seen => .string seen.key)),
      ("wake_lock", .array (report.lockCalls.map fun call => .string call.key))]

/-- The lines about callbacks; without any there is not even a title. -/
def callbackLines (report : Report) : List Log.Line :=
  if report.callbackEvents.isEmpty then []
  else ⟨.blockStart, "Callbacks:"⟩
    :: report.callbackEvents.map fun event => ⟨.indented, event.text⟩

def lines (report : Report) : List Log.Line :=
  let acquired := report.lockCalls.count .acquire
  let released := report.lockCalls.length - acquired
  ⟨.blockStart, "Frames:"⟩ :: (report.frames.map fun frame => ⟨.indented, frame.text⟩)
    ++ report.callbackLines
    ++ [⟨.blockStart, s!"Final state: {report.finalState.name}"⟩,
      ⟨.indented, s!"Wake lock acquired {acquired} times, released {released} times"⟩]
    ++ (report.visibilityChanges.getLast?.map fun seen =>
      ⟨.indented, s!"Scrims are {seen.name}"⟩).toList

end Report

end Scrim
