import Scrim.Files

/-!
# File trees

A file tree held in memory, so that a run can be tried without a disk. A path is followed name by
name: every name but the last has to lead to a directory, two dots lead to the directory around
the one they stand in, and the outermost directory is around itself. There are no links.
-/

namespace Scrim

/-- The names that lead from the outermost directory to a place. -/
abbrev Place := List String

/-- The files of a tree, each with its text, and the directory in which relative paths start. -/
structure FileTree where
  working : Place
  texts : List (Place × String)

inductive FileTree.Node where
  | directory
  | file (text : String)
deriving DecidableEq, Repr

namespace FileTree

def longestPath : Nat := 4095

def longestName : Nat := 255

/-- The directories that every tree has. -/
def commonDirectories : List Place :=
  [["bin"], ["boot"], ["dev"], ["etc"], ["home"], ["lib"], ["media"], ["mnt"], ["opt"], ["proc"],
    ["root"], ["run"], ["sbin"], ["srv"], ["sys"], ["tmp"], ["usr"], ["var"]]

/-- The files that every tree has. They are empty, and stay empty when they are written. -/
def emptyDevices : List Place := [["dev", "null"], ["dev", "stdin"]]

/-- The names on a path. A slash at the end asks for a directory, as a dot after it does. -/
def names (path : String) : List String :=
  ((if path.endsWith "/" then path ++ "." else path).splitOn "/").filter (· ≠ "")

/-- The tree of the files in a working directory, each under its path from there. -/
def ofFiles (working : String) (files : List (String × String)) : FileTree where
  working := names working
  texts := files.map fun (path, text) => (names working ++ (names path).filter (· ≠ "."), text)

/-- Whether a directory is at a place: it holds the working directory, or a file. -/
def hasDirectory (tree : FileTree) (place : Place) : Bool :=
  place.isPrefixOf tree.working || commonDirectories.contains place ||
    tree.texts.any fun (file, _) => file ≠ place && place.isPrefixOf file

def node? (tree : FileTree) (place : Place) : Option Node :=
  if tree.hasDirectory place then some .directory
  else if emptyDevices.contains place then some (.file "")
  else (tree.texts.lookup place).map .file

/-- Follows one more name. There need not be anything at the place it leads to. -/
def step (tree : FileTree) (place : Place) (name : String) : Except FileError Place :=
  match tree.node? place with
  | none => .error .missing
  | some (.file _) => .error .notDirectory
  | some .directory =>
    if name = "." then .ok place
    else if name = ".." then .ok place.dropLast
    else if name.utf8ByteSize > longestName then .error .nameTooLong
    else .ok (place ++ [name])

def place (tree : FileTree) (path : String) : Except FileError Place :=
  if path.isEmpty then .error .missing
  else if path.utf8ByteSize > longestPath then .error .nameTooLong
  else (names path).foldlM tree.step (if path.startsWith "/" then [] else tree.working)

def read (tree : FileTree) (path : String) : Except FileError String := do
  match tree.node? (← tree.place path) with
  | none => .error .missing
  | some .directory => .error .isDirectory
  | some (.file text) => .ok text

/-- Writes a file, over what it held before. A path that leads to none leaves the tree alone. -/
def write (tree : FileTree) (path text : String) : FileTree :=
  match tree.place path with
  | .error _ => tree
  | .ok place =>
    if tree.hasDirectory place || emptyDevices.contains place then tree
    else { tree with texts := (place, text) :: tree.texts }

def files (tree : FileTree) (paths : List String) : Files :=
  ⟨paths.map fun path => (path, tree.read path)⟩

end FileTree

end Scrim
