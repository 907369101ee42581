/-!
# Characters, blanks and lines

Which characters TOML tells apart, and what lies between its lexemes: blanks, comments and
line ends. A `Reader` takes characters off the front of a text and answers what it read with
the rest, or nothing if the text does not have that form.
-/

namespace Scrim.Toml

abbrev Reader (α : Type) := List Char → Option (α × List Char)

/-- How deep arrays, braces and dotted keys may nest. -/
def nestingLimit : Nat := 80

/-! ## Characters -/

def isBlank (c : Char) : Bool := c = ' ' || c = '\t'

def isDigit (c : Char) : Bool := '0' ≤ c && c ≤ '9'

/-- Characters that need no escape anywhere: blanks, printable ASCII, and all beyond it. -/
def isPlain (c : Char) : Bool := c = '\t' || (0x20 ≤ c.toNat && c.toNat ≠ 0x7f)

def isBareKey (c : Char) : Bool :=
  isDigit c || ('a' ≤ c && c ≤ 'z') || ('A' ≤ c && c ≤ 'Z') || c = '_' || c = '-'

def hexValue? (c : Char) : Option Nat :=
  if isDigit c then some (c.toNat - 48)
  else if 'a' ≤ c && c ≤ 'f' then some (c.toNat - 87)
  else if 'A' ≤ c && c ≤ 'F' then some (c.toNat - 55)
  else none

def readMark (mark : Char) : List Char → Option (List Char)
  | c :: rest => if c = mark then some rest else none
  | [] => none

/-! ## Blanks and line ends -/

def skipBlanks (text : List Char) : List Char := text.dropWhile isBlank

def skipComment : List Char → List Char
  | '#' :: rest => rest.dropWhile isPlain
  | text => text

def newline? : List Char → Option (List Char)
  | '\n' :: rest => some rest
  | '\r' :: '\n' :: rest => some rest
  | _ => none

/-- The text after the rest of a line, which holds at most a comment. -/
def lineEnd? (text : List Char) : Option (List Char) :=
  match skipComment (skipBlanks text) with
  | [] => some []
  | rest => newline? rest

/-- Skips blanks, comments and line ends. A comment has to end with its line. -/
def skipLines : Nat → List Char → Option (List Char)
  | 0, text => some text
  | fuel + 1, text =>
    match skipBlanks text with
    | '#' :: rest => do
      let next ← newline? (rest.dropWhile isPlain)
      skipLines fuel next
    | rest =>
      match newline? rest with
      | some next => skipLines fuel next
      | none => some rest

end Scrim.Toml
