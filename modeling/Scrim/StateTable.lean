import Scrim.Config
import Scrim.Json
import Scrim.Log

/-!
# The state table

What every state resolves to under a configuration. A state is listed as entered from its
usual predecessor; a second row follows where entering it from the always-on display resolves
differently.
-/

namespace Scrim

structure StateRow where
  state : State
  previous : State
  frontAlpha : Float32
  behindAlpha : Float32
  auxiliaryAlpha : Float32
  frontTint : Color
  behindTint : Color
  durationMs : Nat
  animates : Bool
  blanksScreen : Bool
  lowPower : Bool
deriving Repr

namespace StateRow

def ofDescriptor (descriptor : Descriptor) (previous : State) : StateRow where
  state := descriptor.state
  previous := previous
  frontAlpha := descriptor.alpha.front
  behindAlpha := descriptor.alpha.behind
  auxiliaryAlpha := descriptor.alpha.auxiliary
  frontTint := descriptor.tint.front
  behindTint := descriptor.tint.behind
  durationMs := Time.millis descriptor.duration
  animates := descriptor.animates
  blanksScreen := descriptor.blanksScreen
  lowPower := descriptor.lowPower

def toJson (row : StateRow) : Json :=
  .object
    [("state", .string row.state.key),
      ("from", .string row.previous.key),
      ("front_alpha", .float row.frontAlpha),
      ("behind_alpha", .float row.behindAlpha),
      ("auxiliary_alpha", .float row.auxiliaryAlpha),
      ("front_tint", .natural row.frontTint.argb.toNat),
      ("behind_tint", .natural row.behindTint.argb.toNat),
      ("duration_ms", .natural row.durationMs),
      ("animate", .boolean row.animates),
      ("blanks_screen", .boolean row.blanksScreen),
      ("low_power", .boolean row.lowPower)]

/-- The state of a row; only the always-on display is worth naming as a predecessor. -/
def title (row : StateRow) : String :=
  if row.previous = .aod then s!"{row.state.name} (from {row.previous.name})" else row.state.name

def layersText (row : StateRow) : String :=
  let alpha (value : Float32) := Decimal.fixed 2 (.ofFloat32 value)
  s!"front {alpha row.frontAlpha} {row.frontTint.hex}"
    ++ s!"  behind {alpha row.behindAlpha} {row.behindTint.hex}"
    ++ s!"  auxiliary {alpha row.auxiliaryAlpha}"

def changeText (row : StateRow) : String :=
  let flags := [(!row.animates, "instant"), (row.blanksScreen, "blanks screen"),
    (row.lowPower, "low power")]
  ", ".intercalate (s!"{row.durationMs}ms" :: (flags.filter (·.1)).map (·.2))

def lines (row : StateRow) : List Log.Line :=
  [⟨.pipe, ""⟩, ⟨.decorated, row.title⟩, ⟨.indented, row.layersText⟩, ⟨.indented, row.changeText⟩]

end StateRow

/-- The state that a state is usually entered from. -/
def State.usualPrevious : State → State
  | .unlocked => .keyguard
  | _ => .unlocked

namespace Config

def catalog (config : Config) : Catalog :=
  let settings := config.settings
  ⟨settings.defaultAlpha, settings.keyguardAlpha, settings.doze, {}⟩

def rowsOf (config : Config) (state : State) : List StateRow :=
  let usual := config.catalog.descriptor state state.usualPrevious
  let fromAod := config.catalog.descriptor state .aod
  .ofDescriptor usual state.usualPrevious ::
    if state ≠ .aod && fromAod != usual then [.ofDescriptor fromAod .aod] else []

def stateRows (config : Config) : List StateRow :=
  (State.all.filter (· ≠ .uninitialized)).flatMap config.rowsOf

end Config

end Scrim
