/-!
# Files

The files that a run reads, each under the path it is asked for, with its text or the reason
why there is none.
-/

namespace Scrim

inductive FileError where
  | missing
  | isDirectory
  | notDirectory
  | nameTooLong
  | permissionDenied
  | notText
  | other (message : String)
deriving DecidableEq, Repr

def FileError.message : FileError → String
  | .missing => "No such file or directory (os error 2)"
  | .isDirectory => "Is a directory (os error 21)"
  | .notDirectory => "Not a directory (os error 20)"
  | .nameTooLong => "File name too long (os error 36)"
  | .permissionDenied => "Permission denied (os error 13)"
  | .notText => "stream did not contain valid UTF-8"
  | .other message => message

/-- Nothing is there, or nothing could be. -/
def FileError.isAbsence : FileError → Bool
  | .missing | .notDirectory | .nameTooLong => true
  | _ => false

structure Files where
  entries : List (String × Except FileError String) := []

/-- The text under a path; a path that is not listed leads nowhere. -/
def Files.read (files : Files) (path : String) : Except FileError String :=
  match files.entries.lookup path with
  | some outcome => outcome
  | none => .error .missing

def Files.lacks (files : Files) (path : String) : Bool :=
  match files.read path with
  | .ok _ => false
  | .error error => error.isAbsence

def filePath (directory file : String) : String :=
  if directory.isEmpty || directory.endsWith "/" then directory ++ file
  else s!"{directory}/{file}"

end Scrim
