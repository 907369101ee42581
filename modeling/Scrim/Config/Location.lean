import Scrim.Config.Decode
import Scrim.Log

/-!
# Where the configuration lies

The configuration file lies in the directory named on the command line, or else in the user's
configuration directory. Without a file the defaults hold.
-/

namespace Scrim

/-- The user's directory for configuration files: `XDG_CONFIG_HOME` if it is an absolute path,
or else `.config` at home. -/
def userConfigDirectory? (configHome home : Option String) : Option String :=
  configHome.filter (fun directory => directory.startsWith "/")
    <|> (home.filter (fun directory => !directory.isEmpty)).map (filePath · ".config")

structure Environment where
  /-- The user's directory for configuration files. -/
  configDirectory : Option String
  files : Files

namespace Config

def fileName : String := "scrimctl.toml"

/-- Where the configuration file is looked for, with the directory named on the command
line. -/
def path? (environment : Environment) (named : Option String) : Option String :=
  match named with
  | some directory => some (filePath directory fileName)
  | none => environment.configDirectory.map fun directory =>
      filePath (filePath directory "scrimctl") fileName

/-- Reads a configuration file, which has to be there. -/
def loadFrom (files : Files) (path : String) : Except Failure Config :=
  if files.lacks path then .error { cause := .configurationMissing path }
  else match files.read path with
    | .error error => .error ⟨[s!"Failed to read config from {path}"], .file error⟩
    | .ok text => (parse text).mapError (·.within s!"Invalid config in {path}")

/-- Reads the file at a path. Without one the defaults hold, and debug output says so. -/
def loadOrDefault (files : Files) (path : String) : List Log.Line × Except Failure Config :=
  if files.lacks path then
    ([⟨.debug, s!"No configuration at {path}, using defaults"⟩], .ok {})
  else
    ([], (loadFrom files path).mapError (·.within s!"Failed to load configuration from {path}"))

def lines (config : Config) (source : String) : List Log.Line :=
  let settings := config.settings
  let doze := settings.doze
  let needsBlanking := doze.displayNeedsBlanking
  let aod := Time.millis doze.wallpaperAodDuration
  let fadeOut := Time.millis doze.wallpaperFadeOutDuration
  [⟨.blockStart, s!"Loaded configuration ({source})"⟩,
    ⟨.indented, s!"Shade scrim alpha: {plainText settings.defaultAlpha}"⟩,
    ⟨.indented, s!"Keyguard behind alpha: {plainText settings.keyguardAlpha}"⟩,
    ⟨.indented, s!"Darken while dragging: {settings.darkenWhileDragging}"⟩,
    ⟨.indented, s!"Frame interval: {Time.millis config.frameInterval}ms"⟩,
    ⟨.indented, s!"Doze: always_on={doze.alwaysOn}, display_needs_blanking={needsBlanking}, "
      ++ s!"controls_screen_off={doze.controlsScreenOff}"⟩,
    ⟨.indented, s!"Ambient wallpaper: {aod}ms in AOD, {fadeOut}ms fade"⟩]

def load (environment : Environment) (named : Option String) (debug : Bool) :
    List Log.Line × Except Failure Config :=
  match path? environment named with
  | none => ([], .error ⟨["Failed to load configuration"], .noConfigurationDirectory⟩)
  | some path =>
    match loadOrDefault environment.files path with
    | (said, .error failure) => (said, .error (failure.within "Failed to load configuration"))
    | (said, .ok config) => (said ++ (if debug then config.lines path else []), .ok config)

end Config

end Scrim
