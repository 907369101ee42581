import Scrim.Toml.Number

/-!
# Dates and times

A moment is a date, a time of day or both, with an offset from universal time if both are
given. Only its form and its limits are checked, since no setting holds a moment.
-/

namespace Scrim.Toml

def readFixedDigits (count : Nat) : Reader Nat := fun text =>
  let digits := text.take count
  if digits.length = count && digits.all isDigit then
    some (digitsValue 10 digits, text.drop count)
  else none

def readPart (low high : Nat) : Reader Nat := fun text => do
  let (value, rest) ← readFixedDigits 2 text
  if low ≤ value && value ≤ high then some (value, rest) else none

def daysInMonth (year month : Nat) : Nat :=
  if month = 2 then
    if year % 4 = 0 && (year % 100 ≠ 0 || year % 400 = 0) then 29 else 28
  else if [4, 6, 9, 11].contains month then 30
  else 31

def date? (text : List Char) : Option (List Char) := do
  let (year, rest) ← readFixedDigits 4 text
  let (month, rest) ← readPart 1 12 (← readMark '-' rest)
  let (_, rest) ← readPart 1 (daysInMonth year month) (← readMark '-' rest)
  return rest

def time? (text : List Char) : Option (List Char) := do
  let (_, rest) ← readPart 0 23 text
  let (_, rest) ← readPart 0 59 (← readMark ':' rest)
  let (_, rest) ← readPart 0 60 (← readMark ':' rest)
  match rest with
  | '.' :: next =>
    match next.span isDigit with
    | ([], _) => return rest
    | (_, next) => return next
  | rest => return rest

/-- The text after an offset from universal time, if there is one. -/
def offset? (text : List Char) : Option (List Char) :=
  match text with
  | 'Z' :: rest | 'z' :: rest => some rest
  | '+' :: rest | '-' :: rest => do
    let (_, rest) ← readPart 0 23 rest
    let (_, rest) ← readPart 0 59 (← readMark ':' rest)
    return rest
  | rest => some rest

def readMoment : Reader Node := fun text =>
  match date? text with
  | none => do
    let rest ← time? text
    return (.moment, rest)
  | some rest =>
    match rest with
    | [] => some (.moment, rest)
    | mark :: next =>
      if mark = 'T' || mark = 't' || mark = ' ' then
        match time? next with
        | none => some (.moment, rest)
        | some next => do
          let next ← offset? next
          return (.moment, next)
      else some (.moment, rest)

end Scrim.Toml
