import Scrim.CommandLine.Arguments
import Scrim.CommandLine.Commands

/-!
# A run of the program

From the arguments to what is printed, written to the log file, and given back as exit code.
Log lines go to the log file if there is one, without colors and each with the time; only a
JSON document is printed then, and an error that ends the run is not told anywhere.
-/

namespace Scrim.CommandLine

namespace Action

def perform (environment : Environment) : Action → Option Result
  | .simulate options scenario _ => simulateFile environment options scenario
  | .states options => some (showStates environment options)
  | .explain command => some { lines := pageOn command }
  | .help | .misuse => some { lines := helpPage }
  | .version => some { lines := versionPage }

def switches : Action → Log.Switches
  | .simulate options .. | .states options => { debug := options.debug }
  | _ => {}

def logFile? : Action → Option String
  | .simulate _ _ logFile => logFile
  | _ => none

def exitCode : Action → Nat
  | .misuse => 2
  | _ => 0

def paths (environment : Environment) : Action → List String
  | .simulate options scenario _ =>
    scenario :: (Config.path? environment options.configDirectory).toList
  | .states options => (Config.path? environment options.configDirectory).toList
  | _ => []

end Action

def Result.failureLines (result : Result) : List Log.Line :=
  match result.failure with
  | none => []
  | some failure => [⟨.errorExit, failure.message⟩, ⟨.closing, ""⟩]

def Result.documentText (result : Result) : String :=
  match result.document with
  | none => ""
  | some document => document.pretty ++ "\n"

structure Finished where
  exitCode : Nat
  printed : String
  /-- The path of the log file with its text. -/
  logFile : Option (String × String) := none
deriving DecidableEq, Repr

/-- The text of a log file; every row of a line starts with the time. -/
def logText (switches : Log.Switches) (time : String) (lines : List Log.Line) : String :=
  String.join ((lines.filter switches.shows).map fun line => Log.plain (line.render time))

def Request.finish (request : Request) (result : Result) (time : String) : Finished :=
  let switches := request.action.switches
  let warned := Log.Switches.render {} "" request.lines
  let exitCode := if result.failure.isSome then 1 else request.action.exitCode
  match request.action.logFile? with
  | none =>
    { exitCode
      printed := warned ++ switches.render "" result.lines ++ result.documentText
        ++ switches.render "" result.failureLines }
  | some path =>
    { exitCode
      printed := warned ++ result.documentText
      logFile := some (path, logText switches time result.lines) }

def run (environment : Environment) (time : String) (tokens : List String) : Option Finished :=
  let request := Request.parse tokens
  (request.action.perform environment).map fun result => request.finish result time

end Scrim.CommandLine
