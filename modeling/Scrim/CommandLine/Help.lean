import Scrim.Log

/-!
# Help texts

What the program says about itself and its commands.
-/

namespace Scrim.CommandLine

structure Section where
  title : String
  details : List String := []

def Section.lines (part : Section) : List Log.Line :=
  ⟨.blockStart, part.title⟩ :: part.details.map fun detail =>
    if detail.isEmpty then ⟨.pipe, ""⟩ else ⟨.indented, detail⟩

/-- Sections between the header and the last line of a run. -/
def page (sections : List Section) : List Log.Line :=
  ⟨.version, ""⟩ :: sections.flatMap Section.lines ++ [⟨.closing, ""⟩]

def purpose : String :=
  "Scrim compositing state controller for lock screen, shade and always-on display overlays"

def commandList : List String :=
  ["simulate, sim <file>   Replay a scenario and print the frame trace",
    "states, st             Print the resolved targets of every state",
    "help [COMMAND]         Show detailed help for a command"]

def versionPage : List Log.Line :=
  [⟨.version, ""⟩, ⟨.pipe, ""⟩, ⟨.indented, purpose⟩, ⟨.closing, ""⟩]

def helpPage : List Log.Line :=
  page
    [⟨purpose, []⟩,
      ⟨"Usage:", ["scrimctl [OPTIONS] <COMMAND>"]⟩,
      ⟨"Options:",
        ["-c, --config <dir>     Use custom configuration directory",
          "-d, --debug            Enable detailed debug output",
          "-j, --json             Print machine-readable JSON",
          "-l, --log <file>       Also write output to a log file",
          "-h, --help             Print help information",
          "-V, --version          Print version information"]⟩,
      ⟨"Commands:", commandList⟩]

def commandsPage : List Log.Line :=
  [⟨.version, ""⟩] ++ Section.lines ⟨"Available Commands:", commandList⟩
    ++ [⟨.pipe, ""⟩,
      ⟨.info, "Use 'scrimctl help <command>' to see detailed help for a specific command."⟩,
      ⟨.indented, "Use 'scrimctl --help' to see all options and general usage."⟩,
      ⟨.closing, ""⟩]

def simulatePage : List Log.Line :=
  page
    [⟨"simulate - Replay a scripted scenario", []⟩,
      ⟨"Usage: scrimctl simulate <scenario.toml> [--json] [--log <file>]", []⟩,
      ⟨"Scenario format:",
        ["settle_ms = 2000       # Keep running after the last step",
          "auxiliary = true       # Attach the auxiliary layer",
          "screen_on = true       # Screen is on before the first step",
          "",
          "[[step]]",
          "at_ms = 0",
          "event = \x7b type = \"transition\", state = \"keyguard\" \x7d"]⟩,
      ⟨"Events:",
        ["transition, panel_expansion, qs_position, tracking_started,",
          "expanding_finished, screen_on, screen_off, aod_front_alpha,",
          "wake_lock_screen_sensor, backdrop, ambient_wallpaper,",
          "keyguard_occluded, expansion_affects_alpha, keyguard_fading_away,",
          "launching_affordance, docked, always_on, slow_unlock, theme_changed"]⟩]

def statesPage : List Log.Line :=
  page
    [⟨"states - Print the resolved targets of every state", []⟩,
      ⟨"Usage: scrimctl states [--json] [--config <dir>]", []⟩,
      ⟨"Description:",
        ["Shows per-layer opacity and tint, animation duration and flags",
          "for each state using the active configuration. Entering a state",
          "from AOD is listed separately when it differs."]⟩]

def helpCommandPage : List Log.Line :=
  page
    [⟨"help - Display help information", []⟩,
      ⟨"Usage: scrimctl help [COMMAND]", []⟩,
      ⟨"Examples:", ["scrimctl help", "scrimctl help simulate"]⟩]

def pageOn : Option String → List Log.Line
  | none => commandsPage
  | some "simulate" | some "sim" => simulatePage
  | some "states" | some "st" => statesPage
  | some "help" => helpCommandPage
  | some other => ⟨.warning, s!"Unknown command: {other}"⟩ :: commandsPage

end Scrim.CommandLine
