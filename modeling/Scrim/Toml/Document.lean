import Scrim.Toml.Node

/-!
# Building a document

A document is built header by header. The keys after a header go to the open table, which is
put in its place when the next header comes or the text ends.
-/

namespace Scrim.Toml

structure Document where
  /-- Everything but the open table. -/
  root : Entries := []
  /-- The open table. -/
  current : Entries := []
  /-- Where the open table belongs; nowhere for the keys before the first header. -/
  place : List String := []
  /-- The open table is under double brackets. -/
  doubled : Bool := false

namespace Document

def insertTable (key : String) (table : Entries) (doubled : Bool) (entries : Entries) :
    Option (Unit × Entries) :=
  match doubled, entries.find? key with
  | false, none => some ((), entries.put key (.table .header table))
  | true, none => some ((), entries.put key (.tables [table]))
  | true, some (.tables elements) => some ((), entries.put key (.tables (elements ++ [table])))
  | _, some _ => none

/-- Takes a table out, so that it can be opened. Only one that so far lay on the path of
other headers is there to be taken; what it holds is kept. -/
def takeTable (key : String) (entries : Entries) : Option (Entries × Entries) :=
  match entries.find? key with
  | none => some ([], entries)
  | some (.table .path inner) => some (inner, entries.remove key)
  | some _ => none

/-- The whole document, with the open table in its place. -/
def close (document : Document) : Option Entries :=
  match document.place.getLast? with
  | none => some document.current
  | some key =>
    (Entries.changeAt .path (fun _ => insertTable key document.current document.doubled) .header
      document.place.dropLast document.root).map (·.2)

def openTable (document : Document) (place : List String) : Option Document := do
  let key ← place.getLast?
  let closed ← document.close
  let (inner, root) ← Entries.changeAt .path (fun _ => takeTable key) .header place.dropLast closed
  return { root, current := inner, place }

/-- Opens a new table of a header in double brackets. -/
def openElement (document : Document) (place : List String) : Option Document := do
  let closed ← document.close
  return { root := closed, place, doubled := true }

def add (document : Document) (path : List String) (key : String) (node : Node) :
    Option Document := do
  let current ← document.current.addDotted path key node
  return { document with current }

end Document

end Scrim.Toml
