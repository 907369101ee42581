import Scrim.Toml.Blank
import Scrim.Toml.Node

/-!
# Numbers

Whole numbers of base 10, 16, 8 or 2 that fit 64 bits, and decimal numbers, infinities and
NaN as doubles. Single underscores may stand between digits.
-/

namespace Scrim.Toml

/-! ## Digits -/

/-- Digits with single underscores between them, the underscores left out. -/
def readDigits (isDigit : Char → Bool) : Nat → Reader (List Char)
  | 0, _ => none
  | fuel + 1, c :: rest =>
    if isDigit c then
      match rest with
      | '_' :: next => do
        let (digits, rest) ← readDigits isDigit fuel next
        return (c :: digits, rest)
      | next =>
        match readDigits isDigit fuel next with
        | some (digits, rest) => some (c :: digits, rest)
        | none => if next.head?.any isDigit then none else some ([c], next)
    else none
  | _ + 1, [] => none

def readDecimalDigits : Reader (List Char) := fun text =>
  readDigits isDigit (text.length + 1) text

/-- The digits of a whole number, which has no zero in front. -/
def readUnsigned : Reader (List Char)
  | '0' :: rest => some (['0'], rest)
  | text => readDecimalDigits text

def readSign : List Char → Bool × List Char
  | '+' :: rest => (false, rest)
  | '-' :: rest => (true, rest)
  | text => (false, text)

def digitsValue (base : Nat) (digits : List Char) : Nat :=
  digits.foldl (fun value c => base * value + (hexValue? c).getD 0) 0

/-! ## Whole numbers -/

/-- Whole numbers have 64 bits. -/
def integerInRange? (value : Int) : Option Node :=
  if -0x8000000000000000 ≤ value && value < 0x8000000000000000 then some (.integer value)
  else none

/-- A whole number of base 16, 8 or 2, after its mark. -/
def readBased (base : Nat) : Reader Node := fun text => do
  let isDigitOfBase (c : Char) : Bool := (hexValue? c).any (· < base)
  let (digits, rest) ← readDigits isDigitOfBase (text.length + 1) text
  let node ← integerInRange? (digitsValue base digits)
  return (node, rest)

def readInteger : Reader Node
  | '0' :: 'x' :: rest => readBased 16 rest
  | '0' :: 'o' :: rest => readBased 8 rest
  | '0' :: 'b' :: rest => readBased 2 rest
  | text => do
    let (negative, rest) := readSign text
    let (digits, rest) ← readUnsigned rest
    let value : Int := digitsValue 10 digits
    let node ← integerInRange? (if negative then -value else value)
    return (node, rest)

/-! ## Decimal numbers -/

def decimalValue (negative : Bool) (digits : List Char) (exponent : Int) : Float :=
  let mantissa := digitsValue 10 digits
  let top := (toString mantissa).length + exponent
  let size :=
    if mantissa = 0 || top < -400 then 0
    else if 400 < top then 1 / 0
    else Float.ofScientific mantissa (exponent < 0) exponent.natAbs
  if negative then -size else size

def readExponent : Reader Int
  | c :: rest =>
    if c = 'e' || c = 'E' then do
      let (negative, rest) := readSign rest
      let (digits, rest) ← readDecimalDigits rest
      let value : Int := digitsValue 10 digits
      return (if negative then -value else value, rest)
    else none
  | [] => none

/-- A decimal number with a fraction, an exponent, or both. It may not round to infinity. -/
def readDecimal : Reader Node := fun text => do
  let (negative, rest) := readSign text
  let (whole, rest) ← readUnsigned rest
  let (fraction, exponent, rest) ← match rest with
    | '.' :: rest => do
      let (fraction, rest) ← readDecimalDigits rest
      match rest with
      | 'e' :: _ | 'E' :: _ =>
        let (exponent, rest) ← readExponent rest
        pure (fraction, exponent, rest)
      | rest => pure (fraction, 0, rest)
    | rest => do
      let (exponent, rest) ← readExponent rest
      pure ([], exponent, rest)
  let value := decimalValue negative (whole ++ fraction) (exponent - fraction.length)
  if value == 1 / 0 then none else some (.float value, rest)

def readSpecial : Reader Node := fun text =>
  let (negative, rest) := readSign text
  let signed (value : Float) : Node := .float (if negative then -value else value)
  match rest with
  | 'i' :: 'n' :: 'f' :: rest => some (signed (1 / 0), rest)
  | 'n' :: 'a' :: 'n' :: rest => some (signed (0 / 0), rest)
  | _ => none

end Scrim.Toml
