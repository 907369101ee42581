import Scrim.Failure
import Scrim.Toml.Decode

/-!
# Reading a configuration

A configuration text is a TOML document whose settings have the types of `Config`, and within
the limits.
-/

namespace Scrim

namespace DozeConfig

def ofFields? (fields : Toml.Entries) : Option DozeConfig := do
  return {
    alwaysOn := ← fields.optional "always_on" Toml.Node.boolean?
    displayNeedsBlanking := ← fields.optional "display_needs_blanking" Toml.Node.boolean?
    controlsScreenOff := ← fields.optional "controls_screen_off" Toml.Node.boolean?
    wallpaperAodDurationMs := ← fields.optional "wallpaper_aod_duration_ms" Toml.Node.natural?
    wallpaperFadeOutDurationMs :=
      ← fields.optional "wallpaper_fade_out_duration_ms" Toml.Node.natural? }

/-- The settings in order; none of them may be left out, and what follows them is ignored. -/
def ofItems? : List Toml.Node → Option DozeConfig
  | alwaysOn :: needsBlanking :: controls :: aod :: fadeOut :: _ => do
    return {
      alwaysOn := some (← alwaysOn.boolean?)
      displayNeedsBlanking := some (← needsBlanking.boolean?)
      controlsScreenOff := some (← controls.boolean?)
      wallpaperAodDurationMs := some (← aod.natural?)
      wallpaperFadeOutDurationMs := some (← fadeOut.natural?) }
  | _ => none

def ofNode? (node : Toml.Node) : Option DozeConfig :=
  match node.items? with
  | some items => ofItems? items
  | none => node.fields?.bind ofFields?

end DozeConfig

namespace Config

def ofEntries? (fields : Toml.Entries) : Option Config := do
  let solidShade ← fields.optional "shade_opaque" Toml.Node.boolean?
  let keyguardBehindAlpha ← fields.optional "keyguard_behind_alpha" Toml.Node.float32?
  let darkenWhileDragging ← fields.optional "darken_while_dragging" Toml.Node.boolean?
  let frameIntervalMs ← fields.optional "frame_interval_ms" Toml.Node.natural?
  let doze ← fields.optional "doze" DozeConfig.ofNode?
  return {
    solidShade := solidShade
    keyguardBehindAlpha := keyguardBehindAlpha
    darkenWhileDragging := darkenWhileDragging
    frameIntervalMs := frameIntervalMs
    doze := doze.getD {} }

def parse (text : String) : Except Failure Config :=
  match (Toml.parse? text).bind ofEntries? with
  | none => .error ⟨["Failed to parse config"], .unreadable⟩
  | some config =>
    match config.validate with
    | .ok () => .ok config
    | .error error => .error { cause := .configuration error }

end Config

end Scrim
