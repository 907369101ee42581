import Scrim.Toml.Blank

/-!
# Strings and keys

The four kinds of strings: in double quotes with escapes or in single quotes without, on one
line or over several. A key is one or more parts between points, each of them bare or a string
on one line.
-/

namespace Scrim.Toml

/-! ## Strings -/

def readHex : Nat → Nat → Reader Nat
  | 0, value, text => some (value, text)
  | count + 1, value, c :: rest => do
    let digit ← hexValue? c
    readHex count (16 * value + digit) rest
  | _ + 1, _, [] => none

def readScalar (count : Nat) : Reader Char := fun text => do
  let (value, rest) ← readHex count 0 text
  if value.isValidChar then some (Char.ofNat value, rest) else none

def readEscape : Reader Char
  | 'b' :: rest => some ('\x08', rest)
  | 't' :: rest => some ('\t', rest)
  | 'n' :: rest => some ('\n', rest)
  | 'f' :: rest => some ('\x0c', rest)
  | 'r' :: rest => some ('\r', rest)
  | '"' :: rest => some ('"', rest)
  | '\\' :: rest => some ('\\', rest)
  | 'u' :: rest => readScalar 4 rest
  | 'U' :: rest => readScalar 8 rest
  | _ => none

/-- The rest of a string in double quotes. -/
def readBasic : Nat → Reader (List Char)
  | 0, _ => none
  | _ + 1, '"' :: rest => some ([], rest)
  | fuel + 1, '\\' :: rest => do
    let (c, rest) ← readEscape rest
    let (tail, rest) ← readBasic fuel rest
    return (c :: tail, rest)
  | fuel + 1, c :: rest =>
    if isPlain c then do
      let (tail, rest) ← readBasic fuel rest
      return (c :: tail, rest)
    else none
  | _ + 1, [] => none

/-- The rest of a string in single quotes, which has no escapes. -/
def readLiteral (text : List Char) : Option (List Char × List Char) :=
  match text.span fun c => isPlain c && c ≠ '\'' with
  | (body, '\'' :: rest) => some (body, rest)
  | _ => none

/-- The text after a backslash at the end of a line: the line end and all blank space behind
it. -/
def continuation? (text : List Char) : Option (List Char) := do
  let rest ← newline? (skipBlanks text)
  return rest.dropWhile fun c => isBlank c || c = '\n'

/-- The rest of a string over several lines, closed by three of `quote`. Up to two more
before them belong to the string. -/
def readMultiline (quote : Char) (escapes : Bool) : Nat → Reader (List Char)
  | 0, _ => none
  | _ + 1, [] => none
  | fuel + 1, c :: rest =>
    if c = quote then
      let run := rest.takeWhile (· = quote)
      if 2 ≤ run.length then
        let extra := min (run.length - 2) 2
        some (List.replicate extra quote, rest.drop (2 + extra))
      else do
        let (tail, rest) ← readMultiline quote escapes fuel (rest.drop run.length)
        return (quote :: run ++ tail, rest)
    else if c = '\\' && escapes then
      match continuation? rest with
      | some next => readMultiline quote escapes fuel (skipReturns fuel next)
      | none => do
        let (d, rest) ← readEscape rest
        let (tail, rest) ← readMultiline quote escapes fuel rest
        return (d :: tail, rest)
    else
      match newline? (c :: rest) with
      | some next => do
        let (tail, rest) ← readMultiline quote escapes fuel next
        return ('\n' :: tail, rest)
      | none =>
        if isPlain c then do
          let (tail, rest) ← readMultiline quote escapes fuel rest
          return (c :: tail, rest)
        else none
where
  /-- Skips blank space that holds line ends of two characters. -/
  skipReturns : Nat → List Char → List Char
    | 0, text => text
    | fuel + 1, text =>
      match newline? (skipBlanks text) with
      | some next => skipReturns fuel next
      | none => skipBlanks text

/-- Skips the line end right after an opening delimiter. -/
def afterOpening (text : List Char) : List Char :=
  (newline? text).getD text

/-- A string of any of the four kinds. -/
def readString : Reader String
  | '"' :: '"' :: '"' :: rest => do
    let (body, rest) ← readMultiline '"' true (rest.length + 1) (afterOpening rest)
    return (String.ofList body, rest)
  | '\'' :: '\'' :: '\'' :: rest => do
    let (body, rest) ← readMultiline '\'' false (rest.length + 1) (afterOpening rest)
    return (String.ofList body, rest)
  | '"' :: rest => do
    let (body, rest) ← readBasic (rest.length + 1) rest
    return (String.ofList body, rest)
  | '\'' :: rest => do
    let (body, rest) ← readLiteral rest
    return (String.ofList body, rest)
  | _ => none

/-! ## Keys -/

def readKeyPart : Reader String
  | '"' :: rest => do
    let (body, rest) ← readBasic (rest.length + 1) rest
    return (String.ofList body, rest)
  | '\'' :: rest => do
    let (body, rest) ← readLiteral rest
    return (String.ofList body, rest)
  | text =>
    match text.span isBareKey with
    | ([], _) => none
    | (body, rest) => some (String.ofList body, rest)

def readKeyParts : Nat → Reader (List String)
  | 0, _ => none
  | fuel + 1, text => do
    let (part, rest) ← readKeyPart (skipBlanks text)
    match skipBlanks rest with
    | '.' :: rest =>
      let (parts, rest) ← readKeyParts fuel rest
      return (part :: parts, rest)
    | rest => return ([part], rest)

/-- A key: the path to a table and the key in it. -/
def readKey : Reader (List String × String) := fun text => do
  let (parts, rest) ← readKeyParts (nestingLimit - 1) text
  let key ← parts.getLast?
  return ((parts.dropLast, key), rest)

end Scrim.Toml
