import Scrim.Log

/-!
# Arguments

The arguments are read in two steps. First they are taken one by one, an option together with
the argument after it, whatever that is. Then it is decided what they ask for: an option that
lacks its value counts before all else, then the version, then help, then an unknown flag, and
only then the command.
-/

namespace Scrim.CommandLine

/-- A flag that stands alone. -/
inductive Flag where
  | help
  | version
  | debug
  | json
deriving DecidableEq, Repr

def Flag.ofToken? : String → Option Flag
  | "--help" | "-h" => some .help
  | "--version" | "-V" | "-v" => some .version
  | "--debug" | "-d" => some .debug
  | "--json" | "-j" => some .json
  | _ => none

/-- An option that takes a value. -/
inductive Setting where
  /-- The directory of the configuration file. -/
  | config
  /-- The log file. -/
  | log
deriving DecidableEq, Repr

def Setting.ofToken? : String → Option Setting
  | "--config" | "-c" => some .config
  | "--log" | "-l" => some .log
  | _ => none

inductive Argument where
  | flag (flag : Flag)
  | setting (setting : Setting) (value : String)
  /-- A dash that starts nothing known. -/
  | unknown (token : String)
  | word (word : String)
deriving DecidableEq, Repr

structure Scan where
  arguments : List Argument
  /-- The last token, if it is an option and so lacks its value. -/
  incomplete : Option String := none
deriving DecidableEq, Repr

def Scan.cons (argument : Argument) (scan : Scan) : Scan :=
  { scan with arguments := argument :: scan.arguments }

def Argument.ofToken (token : String) : Argument :=
  match Flag.ofToken? token with
  | some known => .flag known
  | none => if token.startsWith "-" then .unknown token else .word token

def scan : List String → Scan
  | [] => { arguments := [] }
  | token :: rest =>
    match Setting.ofToken? token with
    | none => (scan rest).cons (.ofToken token)
    | some setting =>
      match rest with
      | [] => { arguments := [], incomplete := some token }
      | value :: rest => (scan rest).cons (.setting setting value)

/-! ## What is asked for -/

structure Options where
  debug : Bool
  /-- Where to look for the configuration file. -/
  configDirectory : Option String
  json : Bool
deriving DecidableEq, Repr

inductive Action where
  /-- Replay a scenario file. -/
  | simulate (options : Options) (scenario : String) (logFile : Option String)
  /-- Show the state table. -/
  | states (options : Options)
  /-- Explain a command, or list the commands. -/
  | explain (command : Option String)
  | help
  | version
  /-- Show the help because the arguments make no sense. -/
  | misuse
deriving DecidableEq, Repr

structure Request where
  action : Action
  warnings : List String := []
deriving DecidableEq, Repr

namespace Scan

def hasFlag (scan : Scan) (flag : Flag) : Bool :=
  scan.arguments.contains (.flag flag)

def values (scan : Scan) (setting : Setting) : List String :=
  scan.arguments.filterMap fun
    | .setting given value => if given = setting then some value else none
    | _ => none

def words (scan : Scan) : List String :=
  scan.arguments.filterMap fun
    | .word word => some word
    | _ => none

def unknown? (scan : Scan) : Option String :=
  scan.arguments.findSome? fun
    | .unknown token => some token
    | _ => none

/-- The options; of several values for one, the last counts. -/
def options (scan : Scan) : Options where
  debug := scan.hasFlag .debug
  configDirectory := (scan.values .config).getLast?
  json := scan.hasFlag .json

/-- An action, unless there is a word too many. -/
def settle (action : Action) (warnings : List String) : List String → Request
  | [] => ⟨action, warnings⟩
  | extra :: _ => ⟨.misuse, warnings ++ [s!"Unexpected argument: {extra}"]⟩

def command (scan : Scan) : Request :=
  match scan.words with
  | [] => ⟨.help, []⟩
  | name :: rest =>
    match name with
    | "simulate" | "sim" =>
      match rest with
      | [] => ⟨.misuse, ["Missing scenario file. Usage: scrimctl simulate <scenario.toml>"]⟩
      | scenario :: rest =>
        settle (.simulate scan.options scenario (scan.values .log).getLast?) [] rest
    | "states" | "st" => settle (.states scan.options) [] rest
    | "help" => ⟨.explain rest.head?, []⟩
    | _ => settle .misuse [s!"Unknown command: {name}"] rest

def request (scan : Scan) : Request :=
  let strange := scan.unknown?.toList.map fun token => s!"Unknown argument: {token}"
  match scan.incomplete with
  | some token => ⟨.misuse, strange ++ [s!"Missing value for {token}"]⟩
  | none =>
    if scan.hasFlag .version then ⟨.version, strange⟩
    else if scan.hasFlag .help then ⟨.help, strange⟩
    else if scan.unknown?.isSome then ⟨.misuse, strange⟩
    else scan.command

end Scan

namespace Request

def parse (tokens : List String) : Request :=
  (scan tokens).request

def lines (request : Request) : List Log.Line :=
  request.warnings.map fun warning => ⟨.warning, warning⟩

end Request

end Scrim.CommandLine
