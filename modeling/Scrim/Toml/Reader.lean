import Scrim.Toml.Document
import Scrim.Toml.Moment
import Scrim.Toml.Quoted

/-!
# Reading TOML

The grammar of values and documents. Numbers and dates are tried longest form first; readers
that nest take a bound on the characters left. The main definition is `parse?`, the entries of
a text.
-/

namespace Scrim.Toml

/-! ## Values -/

def readNumeric : Reader Node := fun text =>
  readMoment text <|> readDecimal text <|> readSpecial text <|> readInteger text

def readWord (word : String) (node : Node) : Reader Node := fun text =>
  if word.toList.isPrefixOf text then some (node, text.drop word.length) else none

mutual

/-- A value; `depth` counts the brackets and braces around it. -/
def readValue (depth : Nat) : Nat → Reader Node
  | 0, _ => none
  | _ + 1, [] => none
  | fuel + 1, c :: rest =>
    if c = '"' || c = '\'' then do
      let (text, rest) ← readString (c :: rest)
      return (.string text, rest)
    else if c = '[' then
      if nestingLimit ≤ depth + 1 then none
      else do
        let (items, rest) ← readItems (depth + 1) fuel rest
        return (.array items, rest)
    else if c = '\x7b' then
      if nestingLimit ≤ depth + 1 then none
      else
        match skipBlanks rest with
        | '\x7d' :: rest => some (.table .braces [], rest)
        | rest => do
          let (entries, rest) ← readEntries (depth + 1) fuel [] rest
          return (.table .braces entries, rest)
    else if isDigit c || c = '+' || c = '-' then readNumeric (c :: rest)
    else if c = 't' then readWord "true" (.boolean true) (c :: rest)
    else if c = 'f' then readWord "false" (.boolean false) (c :: rest)
    else if c = 'i' || c = 'n' then readSpecial (c :: rest)
    else none

/-- The items of an array after its opening bracket; a comma may end them. -/
def readItems (depth : Nat) : Nat → Reader (List Node)
  | 0, _ => none
  | fuel + 1, text => do
    match ← skipLines text.length text with
    | ']' :: rest => return ([], rest)
    | start =>
      let (item, rest) ← readValue depth fuel start
      match ← skipLines rest.length rest with
      | ']' :: rest => return ([item], rest)
      | ',' :: rest =>
        let (items, rest) ← readItems depth fuel rest
        return (item :: items, rest)
      | _ => none

/-- The entries between braces, at least one of them. -/
def readEntries (depth : Nat) : Nat → Entries → Reader Entries
  | 0, _, _ => none
  | fuel + 1, entries, text => do
    let ((path, key), rest) ← readKey text
    let (node, rest) ← readValue depth fuel (skipBlanks (← readMark '=' rest))
    let entries ← Entries.addInBraces key node path entries
    match skipBlanks rest with
    | '\x7d' :: rest => return (entries, rest)
    | ',' :: rest => readEntries depth fuel entries rest
    | _ => none

end

/-! ## Documents -/

def readKeyLine (document : Document) (text : List Char) : Option (Document × List Char) := do
  let ((path, key), rest) ← readKey text
  let start := skipBlanks (← readMark '=' rest)
  let (node, rest) ← readValue 0 (2 * start.length + 2) start
  let document ← document.add path key node
  return (document, ← lineEnd? rest)

def readHeaderLine (document : Document) : List Char → Option (Document × List Char)
  | '[' :: text => do
    let ((path, key), rest) ← readKey text
    let rest ← readMark ']' (← readMark ']' rest)
    let document ← document.openElement (path ++ [key])
    return (document, ← lineEnd? rest)
  | text => do
    let ((path, key), rest) ← readKey text
    let rest ← readMark ']' rest
    let document ← document.openTable (path ++ [key])
    return (document, ← lineEnd? rest)

def readLines : Nat → Document → List Char → Option Document
  | 0, _, _ => none
  | fuel + 1, document, text =>
    match skipBlanks text with
    | [] => some document
    | '#' :: rest => do
      readLines fuel document (← lineEnd? ('#' :: rest))
    | '[' :: rest => do
      let (document, rest) ← readHeaderLine document rest
      readLines fuel document rest
    | rest =>
      match newline? rest with
      | some next => readLines fuel document next
      | none => do
        let (document, rest) ← readKeyLine document rest
        readLines fuel document rest

/-- The entries of a TOML text, which may start with a byte order mark. -/
def parse? (text : String) : Option Entries := do
  let chars := match text.toList with
    | '\ufeff' :: rest => rest
    | chars => chars
  let document ← readLines (chars.length + 1) {} chars
  document.close

end Scrim.Toml
