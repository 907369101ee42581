/-!
# Log lines

Output is drawn as a tree: blocks open with `┣`, details hang under `┃`, and the four levels
carry a colored tag. A `Line` is a message with a style; two switches decide which lines show
at all. Color codes are taken out of whatever goes to a file.
-/

namespace Scrim.Log

inductive Style where
  /-- Opens a block: a spacer, then the message. -/
  | blockStart
  /-- A line of the current block. -/
  | decorated
  /-- A detail under the current block. -/
  | indented
  /-- A spacer. -/
  | pipe
  /-- The header of a run. -/
  | version
  /-- The last line of a run. -/
  | closing
  | info
  | warning
  | error
  /-- An error that ends the run. -/
  | errorExit
  /-- Shown only while debug output is on. -/
  | debug
deriving DecidableEq, Repr

namespace Style

def all : List Style :=
  [.blockStart, .decorated, .indented, .pipe, .version, .closing, .info, .warning, .error,
    .errorExit, .debug]

def key : Style → String
  | .blockStart => "block_start"
  | .decorated => "decorated"
  | .indented => "indented"
  | .pipe => "pipe"
  | .version => "version"
  | .closing => "end"
  | .info => "info"
  | .warning => "warning"
  | .error => "error"
  | .errorExit => "error_exit"
  | .debug => "debug"

def ofKey? (word : String) : Option Style :=
  all.find? fun style => style.key = word

def level? : Style → Option (String × String)
  | .info => some ("32", "INFO")
  | .warning => some ("33", "WARNING")
  | .error | .errorExit => some ("31", "ERROR")
  | .debug => some ("36", "DEBUG")
  | _ => none

end Style

structure Line where
  style : Style
  message : String
deriving DecidableEq, Repr

def programVersion : String := "0.3.0"

def levelTag (color word : String) : String :=
  s!"[\x1b[{color}m{word}\x1b[0m]"

def Line.render (line : Line) (lead : String) : String :=
  match line.style.level? with
  | some (color, word) =>
    let corner :=
      if line.style = .errorExit then s!"{lead}┃\n{lead}┗" else s!"{lead}┣"
    s!"{corner}{levelTag color word} {line.message}\n"
  | none =>
    match line.style with
    | .blockStart => s!"{lead}┃\n{lead}┣ {line.message}\n"
    | .decorated => s!"{lead}┣ {line.message}\n"
    | .indented => s!"{lead}┃   {line.message}\n"
    | .pipe => s!"{lead}┃\n"
    | .version => s!"{lead}┏ scrimctl v{programVersion} ━━╸\n"
    | _ => s!"{lead}╹\n"

structure Switches where
  enabled : Bool := true
  debug : Bool := false
deriving DecidableEq, Repr

/-- Debug lines need both switches. -/
def Switches.showsDebug (switches : Switches) : Bool :=
  switches.enabled && switches.debug

def Switches.shows (switches : Switches) (line : Line) : Bool :=
  if line.style = .debug then switches.showsDebug else switches.enabled

def Switches.render (switches : Switches) (lead : String) (lines : List Line) : String :=
  String.join ((lines.filter switches.shows).map fun line => line.render lead)

/-- Removes color codes: from an escape before a bracket up to the next `m`, or to the end if
there is none. -/
def stripColors : List Char → List Char
  | [] => []
  | [c] => [c]
  | c :: d :: rest =>
    if c = '\x1b' ∧ d = '[' then stripColors ((rest.dropWhile (· ≠ 'm')).drop 1)
    else c :: stripColors (d :: rest)
termination_by text => text.length
decreasing_by
  · have := (List.dropWhile_suffix (l := rest) (· ≠ 'm')).length_le
    simp only [List.length_drop, List.length_cons]
    omega
  · simp

def plain (text : String) : String :=
  String.ofList (stripColors text.toList)

end Scrim.Log
