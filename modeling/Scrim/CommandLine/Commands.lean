import Scrim.CommandLine.Arguments
import Scrim.CommandLine.Help
import Scrim.Config.Location
import Scrim.Report
import Scrim.Scenario.Decode
import Scrim.StateTable

/-!
# Commands

What the two commands do. Each loads the configuration itself. With JSON output nothing is
logged, so that the document stands alone.
-/

namespace Scrim.CommandLine

structure Result where
  lines : List Log.Line := []
  document : Option Json := none
  /-- Why the command stopped early. -/
  failure : Option Failure := none

def Result.ofJson : Except Failure Json → Result
  | .ok document => { document }
  | .error failure => { failure }

def simulationOptions (config : Config) (scenario : Scenario) : SimulationOptions where
  frameInterval := config.frameInterval
  auxiliary := scenario.auxiliary
  screenOn := scenario.screenOn

/-- Replays a scenario under a configuration. The lines are those logged on the way. -/
def replay (config : Config) (scenario : Scenario) :
    Option (List Log.Line × Except Failure Report) :=
  match Simulation.create config.settings (simulationOptions config scenario) with
  | .error error =>
    some ([], .error ⟨["Failed to attach the scrim controller"], .controller error⟩)
  | .ok simulation =>
    (simulation.replay scenario).map fun (played, refused) =>
      (played.world.journal.log.reverse, match refused with
        | none => .ok played.report
        | some step => .error (.ofStep step))

def runScenario (environment : Environment) (named : Option String) (debug : Bool)
    (scenario : Scenario) : Option (List Log.Line × Except Failure Report) :=
  match Config.load environment named debug with
  | (said, .error failure) => some (said, .error failure)
  | (said, .ok config) =>
    (replay config scenario).map fun (logged, outcome) => (said ++ logged, outcome)

def simulationTitle (path : String) (scenario : Scenario) : List Log.Line :=
  [⟨.version, ""⟩, ⟨.blockStart, s!"Simulating {path}"⟩,
    ⟨.indented, s!"{scenario.steps.length} steps, settling for {scenario.settleMs}ms"⟩]

def simulationResult (options : Options) (path : String) (scenario : Scenario)
    (said : List Log.Line) (outcome : Except Failure Report) : Result :=
  if options.json then .ofJson (outcome.map Report.toJson)
  else
    let opening := simulationTitle path scenario ++ said
    match outcome with
    | .error failure => { lines := opening, failure }
    | .ok report => { lines := opening ++ report.lines ++ [⟨.closing, ""⟩] }

/-- Replays a scenario file. There is no result if the replay has no end. -/
def simulateFile (environment : Environment) (options : Options) (path : String) :
    Option Result :=
  match Scenario.load environment.files path with
  | .error failure => some { failure }
  | .ok scenario =>
    (runScenario environment options.configDirectory options.debug scenario).map
      fun (said, outcome) => simulationResult options path scenario said outcome

def showStates (environment : Environment) (options : Options) : Result :=
  let (said, outcome) := Config.load environment options.configDirectory options.debug
  let rows := outcome.map Config.stateRows
  if options.json then .ofJson (rows.map fun rows => .array (rows.map StateRow.toJson))
  else
    let opening := ⟨.version, ""⟩ :: said
    match rows with
    | .error failure => { lines := opening, failure }
    | .ok rows =>
      { lines := opening ++ [⟨.blockStart, "State catalog:"⟩] ++ rows.flatMap StateRow.lines
          ++ [⟨.closing, ""⟩] }

end Scrim.CommandLine
