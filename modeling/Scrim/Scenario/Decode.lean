import Scrim.Failure
import Scrim.Toml.Decode

/-!
# Reading a scenario

A scenario text is a TOML document with the set-up and a list of steps. An event is a table
with its type and its fields, or a list of these in order.
-/

namespace Scrim

/-- Where the fields of an event come from: by name, or in order. -/
inductive EventFields where
  | named (entries : Toml.Entries)
  | ordered (items : List Toml.Node)

namespace EventFields

def one {α : Type} (fields : EventFields) (name : String) (decode : Toml.Node → Option α) :
    Option α :=
  match fields with
  | .named entries => entries.required name decode
  | .ordered [item] => decode item
  | .ordered _ => none

def two {α β : Type} (fields : EventFields) (first : String) (decodeFirst : Toml.Node → Option α)
    (second : String) (decodeSecond : Toml.Node → Option β) : Option (α × β) := do
  match fields with
  | .named entries =>
    return (← entries.required first decodeFirst, ← entries.required second decodeSecond)
  | .ordered [a, b] => return (← decodeFirst a, ← decodeSecond b)
  | .ordered _ => none

/-- An event without fields; named ones are ignored. -/
def none {α : Type} (fields : EventFields) (event : α) : Option α :=
  match fields with
  | .named _ => some event
  | .ordered [] => some event
  | .ordered _ => Option.none

end EventFields

namespace ScenarioEvent

def ofFields? (type : String) (fields : EventFields) : Option ScenarioEvent :=
  let flag (name : String) := fields.one name Toml.Node.boolean?
  match type with
  | "transition" =>
    (fields.one "state" fun node => node.word?.bind State.ofKey?).map .transition
  | "panel_expansion" => (fields.one "fraction" Toml.Node.float32?).map .panelExpansion
  | "qs_position" =>
    (fields.two "fraction" Toml.Node.float32? "bottom_y" Toml.Node.int32?).map fun (f, y) =>
      .quickSettings f y
  | "tracking_started" => (flag "can_dismiss_lock_screen").map .trackingStarted
  | "expanding_finished" => fields.none .expandingFinished
  | "screen_on" => fields.none .screenOn
  | "screen_off" => fields.none .screenOff
  | "aod_front_alpha" => (fields.one "alpha" Toml.Node.float32?).map .aodFrontAlpha
  | "wake_lock_screen_sensor" => (flag "active").map .screenSensor
  | "backdrop" => (flag "visible").map .backdrop
  | "ambient_wallpaper" => (flag "supported").map .ambientWallpaper
  | "keyguard_occluded" => (flag "occluded").map .keyguardOccluded
  | "expansion_affects_alpha" => (flag "affects").map .expansionAffectsAlpha
  | "keyguard_fading_away" =>
    (fields.two "fading_away" Toml.Node.boolean? "duration_ms" Toml.Node.natural?).map
      fun (fading, ms) => .keyguardFadingAway fading ms
  | "launching_affordance" => (flag "with_preview").map .launchingAffordance
  | "docked" => (flag "docked").map .docked
  | "always_on" => (flag "enabled").map .alwaysOn
  | "slow_unlock" => (flag "enabled").map .slowUnlock
  | "theme_changed" => fields.none .themeChanged
  | _ => none

def ofNode? (node : Toml.Node) : Option ScenarioEvent :=
  match node.items? with
  | some (.string type :: items) => ofFields? type (.ordered items)
  | some _ => none
  | none => do
    let entries ← node.fields?
    match entries.find? "type" with
    | some (.string type) => ofFields? type (.named entries)
    | _ => none

end ScenarioEvent

namespace ScenarioStep

/-- A step by name, or its parts in order; what follows them is ignored. -/
def ofNode? (node : Toml.Node) : Option ScenarioStep :=
  match node.items? with
  | some (atMs :: event :: _) => do
    return ⟨← atMs.natural?, ← ScenarioEvent.ofNode? event⟩
  | some _ => none
  | none => do
    let fields ← node.fields?
    return ⟨← fields.required "at_ms" Toml.Node.natural?,
      ← fields.required "event" ScenarioEvent.ofNode?⟩

end ScenarioStep

namespace Scenario

def ofEntries? (fields : Toml.Entries) : Option Scenario := do
  let auxiliary ← fields.optional "auxiliary" Toml.Node.boolean?
  let screenOn ← fields.optional "screen_on" Toml.Node.boolean?
  let settleMs ← fields.optional "settle_ms" Toml.Node.natural?
  let steps ← fields.optional "step" fun node => do
    let items ← node.items?
    items.mapM ScenarioStep.ofNode?
  return {
    auxiliary := auxiliary.getD true
    screenOn := screenOn.getD true
    settleMs := settleMs.getD 2000
    steps := steps.getD [] }

/-- Accepts a scenario that never returns to the starting state. -/
def check (scenario : Scenario) : Except Failure Scenario :=
  match scenario.badStep? with
  | some step => .error { cause := .uninitializedStep step.atMs }
  | none => .ok scenario

def parse (text : String) : Except Failure Scenario :=
  match (Toml.parse? text).bind ofEntries? with
  | none => .error ⟨["Failed to parse scenario"], .unreadable⟩
  | some scenario => scenario.check

def load (files : Files) (path : String) : Except Failure Scenario :=
  match files.read path with
  | .error error => .error ⟨[s!"Failed to read scenario file: {path}"], .file error⟩
  | .ok text => (parse text).mapError (·.within s!"Invalid scenario: {path}")

end Scenario

end Scrim
