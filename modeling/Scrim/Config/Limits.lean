import Scrim.Config

/-!
# The limits of a configuration

The limits of the settings. They are checked in a fixed order and the first violation counts.
-/

namespace Scrim

inductive ConfigError where
  | keyguardBehindAlpha (alpha : Float32)
  | frameInterval (ms : Nat)
  | wallpaperAodDuration (ms : Nat)
  | wallpaperFadeOutDuration (ms : Nat)
deriving Repr

namespace Config

def leastFrameIntervalMs : Nat := 1

def greatestFrameIntervalMs : Nat := 1000

def greatestWallpaperAodMs : Nat := 3600000

def greatestWallpaperFadeOutMs : Nat := 10000

/-- An opacity lies between zero and one; NaN does not. -/
def alphaError? (alpha : Float32) : Option ConfigError :=
  if 0 ≤ alpha && alpha ≤ 1 then none else some (.keyguardBehindAlpha alpha)

def frameIntervalError? (ms : Nat) : Option ConfigError :=
  if leastFrameIntervalMs ≤ ms && ms ≤ greatestFrameIntervalMs then none
  else some (.frameInterval ms)

def wallpaperAodError? (ms : Nat) : Option ConfigError :=
  if ms ≤ greatestWallpaperAodMs then none else some (.wallpaperAodDuration ms)

def wallpaperFadeOutError? (ms : Nat) : Option ConfigError :=
  if ms ≤ greatestWallpaperFadeOutMs then none else some (.wallpaperFadeOutDuration ms)

/-- The first violation among the settings that are given. -/
def error? (config : Config) : Option ConfigError :=
  config.keyguardBehindAlpha.bind alphaError?
    <|> config.frameIntervalMs.bind frameIntervalError?
    <|> config.doze.wallpaperAodDurationMs.bind wallpaperAodError?
    <|> config.doze.wallpaperFadeOutDurationMs.bind wallpaperFadeOutError?

def validate (config : Config) : Except ConfigError Unit :=
  match config.error? with
  | none => .ok ()
  | some error => .error error

end Config

def ConfigError.message : ConfigError → String
  | .keyguardBehindAlpha alpha =>
    s!"keyguard_behind_alpha ({plainText alpha}) must be between 0.0 and 1.0"
  | .frameInterval ms =>
    let least := Config.leastFrameIntervalMs
    let greatest := Config.greatestFrameIntervalMs
    s!"frame_interval_ms ({ms} ms) must be between {least} and {greatest} milliseconds"
  | .wallpaperAodDuration ms =>
    let greatest := Config.greatestWallpaperAodMs
    s!"doze.wallpaper_aod_duration_ms ({ms} ms) must not exceed {greatest} milliseconds"
  | .wallpaperFadeOutDuration ms =>
    let greatest := Config.greatestWallpaperFadeOutMs
    s!"doze.wallpaper_fade_out_duration_ms ({ms} ms) must not exceed {greatest} milliseconds"

end Scrim
