import Scrim.Controller.Operation

/-!
# Scenarios

A scenario is a script of timed requests to the controller, with the set-up of the host and
how long to keep running after the last step.
-/

namespace Scrim

inductive ScenarioEvent where
  | transition (state : State)
  | panelExpansion (fraction : Float32)
  | quickSettings (fraction : Float32) (bottomY : Int)
  | trackingStarted (canDismissLockScreen : Bool)
  | expandingFinished
  | screenOn
  | screenOff
  | aodFrontAlpha (alpha : Float32)
  | screenSensor (active : Bool)
  | backdrop (visible : Bool)
  | ambientWallpaper (supported : Bool)
  | keyguardOccluded (occluded : Bool)
  | expansionAffectsAlpha (affects : Bool)
  | keyguardFadingAway (fadingAway : Bool) (durationMs : Nat)
  | launchingAffordance (withPreview : Bool)
  | docked (inDock : Bool)
  | alwaysOn (enabled : Bool)
  | slowUnlock (enabled : Bool)
  | themeChanged
deriving Repr

structure ScenarioStep where
  atMs : Nat
  event : ScenarioEvent
deriving Repr

structure Scenario where
  auxiliary : Bool := true
  screenOn : Bool := true
  /-- How long to keep running after the last step. -/
  settleMs : Nat := 2000
  steps : List ScenarioStep := []
deriving Repr

namespace ScenarioEvent

def operation (callback : Callback) : ScenarioEvent → Operation
  | .transition state => .transition state (some callback)
  | .panelExpansion fraction => .panelExpansion fraction
  | .quickSettings fraction bottomY => .quickSettings fraction bottomY
  | .trackingStarted canDismiss => .trackingStarted canDismiss
  | .expandingFinished => .expandingFinished
  | .screenOn => .screenOn
  | .screenOff => .screenOff
  | .aodFrontAlpha alpha => .aodFrontAlpha alpha
  | .screenSensor active => .screenSensor active
  | .backdrop visible => .backdrop visible
  | .ambientWallpaper supported => .ambientWallpaper supported
  | .keyguardOccluded occluded => .keyguardOccluded occluded
  | .expansionAffectsAlpha affects => .expansionAffectsAlpha affects
  | .keyguardFadingAway fadingAway durationMs =>
    .keyguardFadingAway fadingAway (Time.ofMillis durationMs)
  | .launchingAffordance withPreview => .launchingAffordance withPreview
  | .docked inDock => .docked inDock
  | .alwaysOn enabled => .alwaysOn enabled
  | .slowUnlock enabled => .slowUnlock enabled
  | .themeChanged => .themeChanged

def record (name : String) (fields : List (String × String)) : String :=
  let shown := fields.map fun (field, value) => s!"{field}: {value}"
  s!"{name} \x7b " ++ ", ".intercalate shown ++ " \x7d"

def describe : ScenarioEvent → String
  | .transition state => record "Transition" [("state", state.eventName)]
  | .panelExpansion fraction => record "PanelExpansion" [("fraction", eventText fraction)]
  | .quickSettings fraction bottomY =>
    record "QsPosition" [("fraction", eventText fraction), ("bottom_y", toString bottomY)]
  | .trackingStarted canDismiss =>
    record "TrackingStarted" [("can_dismiss_lock_screen", toString canDismiss)]
  | .expandingFinished => "ExpandingFinished"
  | .screenOn => "ScreenOn"
  | .screenOff => "ScreenOff"
  | .aodFrontAlpha alpha => record "AodFrontAlpha" [("alpha", eventText alpha)]
  | .screenSensor active => record "WakeLockScreenSensor" [("active", toString active)]
  | .backdrop visible => record "Backdrop" [("visible", toString visible)]
  | .ambientWallpaper supported => record "AmbientWallpaper" [("supported", toString supported)]
  | .keyguardOccluded occluded => record "KeyguardOccluded" [("occluded", toString occluded)]
  | .expansionAffectsAlpha affects =>
    record "ExpansionAffectsAlpha" [("affects", toString affects)]
  | .keyguardFadingAway fadingAway durationMs =>
    record "KeyguardFadingAway"
      [("fading_away", toString fadingAway), ("duration_ms", toString durationMs)]
  | .launchingAffordance withPreview =>
    record "LaunchingAffordance" [("with_preview", toString withPreview)]
  | .docked inDock => record "Docked" [("docked", toString inDock)]
  | .alwaysOn enabled => record "AlwaysOn" [("enabled", toString enabled)]
  | .slowUnlock enabled => record "SlowUnlock" [("enabled", toString enabled)]
  | .themeChanged => "ThemeChanged"

end ScenarioEvent

/-- The first step that would return to the starting state, which nothing can. -/
def Scenario.badStep? (scenario : Scenario) : Option ScenarioStep :=
  scenario.steps.find? fun step =>
    match step.event with
    | .transition .uninitialized => true
    | _ => false

end Scrim
