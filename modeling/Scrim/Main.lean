import Scrim.CommandLine.Run
import Std.Time.Zoned

/-!
# The program

Reads the files that a run asks for, and prints and writes what it leaves behind.
-/

namespace Scrim.CommandLine

/-- Whether a code is an error number, which a failed call gives as it is or negated. -/
def isErrorNumber (number code : UInt32) : Bool :=
  code = number || code = 0 - number

def fileError : IO.Error → FileError
  | .noFileOrDirectory .. => .missing
  | .permissionDenied .. => .permissionDenied
  | error@(.inappropriateType _ code _) =>
    if isErrorNumber 20 code then .notDirectory
    else if isErrorNumber 21 code then .isDirectory
    else .other (toString error)
  | error@(.invalidArgument _ code _) =>
    if isErrorNumber 36 code then .nameTooLong else .other (toString error)
  | error => .other (toString error)

def readText (path : String) : IO (Except FileError String) := do
  try
    let bytes ← IO.FS.readBinFile path
    match String.fromUTF8? bytes with
    | some text => return .ok text
    | none => return .error .notText
  catch error => return .error (fileError error)

def padded (width : Nat) (number : Int) : String :=
  let digits := toString number
  "".pushn '0' (width - digits.length) ++ digits

def clock : IO String := do
  let now ← Std.Time.PlainDateTime.now
  let day := s!"{padded 2 now.hour.val}:{padded 2 now.minute.val}:{padded 2 now.second.val}"
  return s!"[{day}.{padded 3 (now.nanosecond.val / 1000000)}] "

/-- Runs the program on the arguments after its name and gives its exit code, which is that of
a breakdown if the run has no end. -/
def execute (tokens : List String) : IO UInt32 := do
  let directory := userConfigDirectory? (← IO.getEnv "XDG_CONFIG_HOME") (← IO.getEnv "HOME")
  let action := (Request.parse tokens).action
  let texts ← (action.paths ⟨directory, {}⟩).mapM fun path => return (path, ← readText path)
  let time ← if action.logFile?.isSome then clock else pure ""
  let some finished := run ⟨directory, ⟨texts⟩⟩ time tokens | return 101
  IO.print finished.printed
  (← IO.getStdout).flush
  if let some (path, text) := finished.logFile then
    try IO.FS.writeFile path text catch _ => pure ()
  return finished.exitCode.toUInt32

end Scrim.CommandLine

def main (tokens : List String) : IO UInt32 :=
  Scrim.CommandLine.execute tokens
