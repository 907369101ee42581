/-!
# States

The named situations of the display that the controller can show. They form three groups:
the lock-screen family, the two low-power states, and the unlocked family. `uninitialized` is
where a controller starts; nothing returns to it.
-/

namespace Scrim

inductive State where
  /-- Before the first transition. -/
  | uninitialized
  /-- On the lock screen. -/
  | keyguard
  /-- Entering a credential on the lock screen. -/
  | bouncer
  /-- Entering a credential over a surface that covers the lock screen. -/
  | bouncerScrimmed
  /-- The shade is expanded over the lock screen. -/
  | shadeLocked
  /-- Only the brightness slider is visible. -/
  | brightnessMirror
  /-- The always-on display. -/
  | aod
  /-- A notification pulses while dozing. -/
  | pulsing
  /-- Unlocked; the shade is collapsed or being dragged. -/
  | unlocked
  /-- An auxiliary surface is expanded. -/
  | auxiliaryExpanded
deriving DecidableEq, Repr, Inhabited

namespace State

/-- Every state, the starting one included. -/
def all : List State :=
  [.uninitialized, .keyguard, .bouncer, .bouncerScrimmed, .shadeLocked, .brightnessMirror,
    .aod, .pulsing, .unlocked, .auxiliaryExpanded]

theorem mem_all (state : State) : state ∈ all := by
  cases state <;> simp [all]

def key : State → String
  | .uninitialized => "uninitialized"
  | .keyguard => "keyguard"
  | .bouncer => "bouncer"
  | .bouncerScrimmed => "bouncer_scrimmed"
  | .shadeLocked => "shade_locked"
  | .brightnessMirror => "brightness_mirror"
  | .aod => "aod"
  | .pulsing => "pulsing"
  | .unlocked => "unlocked"
  | .auxiliaryExpanded => "auxiliary_expanded"

def ofKey? (word : String) : Option State :=
  all.find? fun state => state.key = word

def name : State → String
  | .uninitialized => "UNINITIALIZED"
  | .keyguard => "KEYGUARD"
  | .bouncer => "BOUNCER"
  | .bouncerScrimmed => "BOUNCER_SCRIMMED"
  | .shadeLocked => "SHADE_LOCKED"
  | .brightnessMirror => "BRIGHTNESS_MIRROR"
  | .aod => "AOD"
  | .pulsing => "PULSING"
  | .unlocked => "UNLOCKED"
  | .auxiliaryExpanded => "AUXILIARY_EXPANDED"

def eventName : State → String
  | .uninitialized => "Uninitialized"
  | .keyguard => "Keyguard"
  | .bouncer => "Bouncer"
  | .bouncerScrimmed => "BouncerScrimmed"
  | .shadeLocked => "ShadeLocked"
  | .brightnessMirror => "BrightnessMirror"
  | .aod => "Aod"
  | .pulsing => "Pulsing"
  | .unlocked => "Unlocked"
  | .auxiliaryExpanded => "AuxiliaryExpanded"

theorem ofKey?_key (state : State) : ofKey? state.key = some state := by
  cases state <;> decide

/-- States in which the device may sleep while the display runs on little power. -/
def isLowPower : State → Bool
  | .aod | .pulsing => true
  | _ => false

/-- States whose behind layer darkens as the shade is pulled down. -/
def darkens : State → Bool
  | .unlocked | .auxiliaryExpanded => true
  | _ => false

/-- States whose behind layer is revealed as the shade is pulled. -/
def reveals : State → Bool
  | .keyguard | .shadeLocked | .pulsing => true
  | _ => false

def tracksPanel (state : State) : Bool :=
  state.darkens || state.reveals

def tracksQuickSettings : State → Bool
  | .shadeLocked | .keyguard | .pulsing | .auxiliaryExpanded => true
  | _ => false

end State

end Scrim
