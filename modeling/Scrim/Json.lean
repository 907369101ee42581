import Scrim.Decimal.Layout

/-!
# JSON documents

Machine-readable output: values with their fields in order, written on one line or indented
by two spaces a level.
-/

namespace Scrim

inductive Json where
  | null
  | boolean (value : Bool)
  | natural (value : Nat)
  /-- A number, or null where JSON has none to offer. -/
  | float (value : Float32)
  | string (text : String)
  | array (elements : List Json)
  /-- Named fields, in order. -/
  | object (fields : List (String × Json))

namespace Json

def escape (c : Char) : String :=
  if c = '"' then "\\\""
  else if c = '\\' then "\\\\"
  else if c = '\n' then "\\n"
  else if c = '\r' then "\\r"
  else if c = '\t' then "\\t"
  else if c = '\x08' then "\\b"
  else if c = '\x0c' then "\\f"
  else if c.toNat < 32 then
    "\\u00" ++ String.ofList [Nat.digitChar (c.toNat / 16), Nat.digitChar (c.toNat % 16)]
  else c.toString

def quote (text : String) : String :=
  "\"" ++ String.join (text.toList.map escape) ++ "\""

/-- A finite number has a decimal point or an exponent. -/
def number (value : Float32) : String :=
  match Decimal.Reading.ofFloat32 value with
  | .finite negative magnitude => Decimal.Layout.json.write (.finite negative magnitude)
  | _ => "null"

mutual

def compact : Json → String
  | .null => "null"
  | .boolean value => toString value
  | .natural value => toString value
  | .float value => number value
  | .string text => quote text
  | .array elements => "[" ++ ",".intercalate (compactElements elements) ++ "]"
  | .object fields => "\x7b" ++ ",".intercalate (compactFields fields) ++ "\x7d"

def compactElements : List Json → List String
  | [] => []
  | element :: rest => element.compact :: compactElements rest

def compactFields : List (String × Json) → List String
  | [] => []
  | (key, value) :: rest => (quote key ++ ":" ++ value.compact) :: compactFields rest

end

/-- Items between brackets, each on a line of its own. -/
def block (opening closing margin : String) (items : List String) : String :=
  if items.isEmpty then opening ++ closing
  else
    let lines := items.map fun item => margin ++ "  " ++ item
    opening ++ "\n" ++ ",\n".intercalate lines ++ "\n" ++ margin ++ closing

mutual

/-- A value over several lines, of which all but the first start with `margin`. -/
def indented (margin : String) : Json → String
  | .array elements => block "[" "]" margin (indentedElements (margin ++ "  ") elements)
  | .object fields => block "\x7b" "\x7d" margin (indentedFields (margin ++ "  ") fields)
  | .null => "null"
  | .boolean value => toString value
  | .natural value => toString value
  | .float value => number value
  | .string text => quote text

def indentedElements (margin : String) : List Json → List String
  | [] => []
  | element :: rest => element.indented margin :: indentedElements margin rest

def indentedFields (margin : String) : List (String × Json) → List String
  | [] => []
  | (key, value) :: rest =>
    (quote key ++ ": " ++ value.indented margin) :: indentedFields margin rest

end

def pretty (value : Json) : String := value.indented ""

end Json

end Scrim
