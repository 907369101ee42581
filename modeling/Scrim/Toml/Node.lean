/-!
# Configuration trees

The data that a TOML text stands for. A table remembers how it came about, because that
decides what may still be added to it: a table with a header of its own is complete, one that
only lies on the path of another header may get its header later, one built by dotted keys
grows with them, and one written in braces is closed. Tables written under double brackets
form a list whose last element is the open one.
-/

namespace Scrim.Toml

/-- How a table came about. -/
inductive Origin where
  /-- It has a header of its own, or is the whole text. -/
  | header
  /-- It lies on the path of another header. -/
  | path
  /-- It lies on the path of a dotted key. -/
  | dotted
  /-- It is written in braces. -/
  | braces
deriving DecidableEq, Repr

inductive Node where
  | string (text : String)
  | integer (value : Int)
  | float (value : Float)
  | boolean (value : Bool)
  /-- A date, a time or both; no setting is one, so its content does not matter. -/
  | moment
  | array (items : List Node)
  | table (origin : Origin) (entries : List (String × Node))
  /-- Tables under double brackets, oldest first. -/
  | tables (elements : List (List (String × Node)))
deriving Inhabited, Repr

/-- The entries of a table in the order in which they were written. -/
abbrev Entries := List (String × Node)

namespace Entries

def find? (entries : Entries) (key : String) : Option Node :=
  entries.lookup key

/-- Puts a value under a key, in place of the one there or at the end. -/
def put (entries : Entries) (key : String) (node : Node) : Entries :=
  if entries.any fun entry => entry.1 = key then
    entries.map fun entry => if entry.1 = key then (key, node) else entry
  else entries ++ [(key, node)]

def remove (entries : Entries) (key : String) : Entries :=
  entries.filter fun entry => entry.1 ≠ key

/-- Changes the table at the end of a path, and answers what the change says. A missing table
is made, of origin `fresh`. The way leads through open tables and through the last of several
tables under double brackets; on the path of a dotted key it leads through no table with a
header. -/
def changeAt {α : Type} (fresh : Origin) (change : Origin → Entries → Option (α × Entries))
    (origin : Origin) : List String → Entries → Option (α × Entries)
  | [], entries => change origin entries
  | key :: rest, entries =>
    match entries.find? key with
    | none => do
      let (answer, inner) ← changeAt fresh change fresh rest []
      return (answer, entries.put key (.table fresh inner))
    | some (.table .braces _) => none
    | some (.table kind inner) =>
      if fresh = .dotted && kind = .header then none
      else do
        let (answer, inner) ← changeAt fresh change kind rest inner
        return (answer, entries.put key (.table kind inner))
    | some (.tables elements) =>
      match elements.getLast? with
      | none => none
      | some last => do
        let (answer, inner) ← changeAt fresh change .header rest last
        return (answer, entries.put key (.tables (elements.dropLast ++ [inner])))
    | some _ => none

/-- Adds a value under a key that is not taken. A dotted key adds only to a table built by
dotted keys, and a plain key to any other table. -/
def addNew (dotted : Bool) (key : String) (node : Node) (origin : Origin) (entries : Entries) :
    Option (Unit × Entries) :=
  if decide (origin = .dotted) = dotted && (entries.find? key).isNone then
    some ((), entries.put key node)
  else none

/-- Adds a value under a dotted key to the open table. -/
def addDotted (entries : Entries) (path : List String) (key : String) (node : Node) :
    Option Entries :=
  (changeAt .dotted (addNew (!path.isEmpty) key node) .header path entries).map (·.2)

/-- Adds a value under a dotted key inside braces, where only tables built by dotted keys of
the same braces are open. -/
def addInBraces (key : String) (node : Node) : List String → Entries → Option Entries
  | [], entries => if (entries.find? key).isNone then some (entries.put key node) else none
  | part :: rest, entries =>
    match entries.find? part with
    | none => do
      let inner ← addInBraces key node rest []
      return entries.put part (.table .dotted inner)
    | some (.table .dotted inner) => do
      let inner ← addInBraces key node rest inner
      return entries.put part (.table .dotted inner)
    | some _ => none

end Entries

end Scrim.Toml
