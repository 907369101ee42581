import Scrim.Toml.Reader

/-!
# Decoding values

How the nodes of a document are taken as plain data. A record is a table with named fields,
of which unknown ones are ignored; a list of the fields in order does as well.
-/

namespace Scrim.Toml.Node

def boolean? : Node → Option Bool
  | .boolean value => some value
  | _ => none

def natural? : Node → Option Nat
  | .integer value => if 0 ≤ value then some value.toNat else none
  | _ => none

def int32? : Node → Option Int
  | .integer value => if -0x80000000 ≤ value && value < 0x80000000 then some value else none
  | _ => none

/-- The single-precision value nearest to a number. -/
def float32? : Node → Option Float32
  | .float value => some value.toFloat32
  | .integer value =>
    let size := Float32.ofNat value.natAbs
    some (if value < 0 then -size else size)
  | _ => none

def items? : Node → Option (List Node)
  | .array items => some items
  | .tables elements => some (elements.map (.table .header))
  | _ => none

/-- The named parts of a record. A date or time has parts as well, none with a name of ours. -/
def fields? : Node → Option Entries
  | .table _ entries => some entries
  | .moment => some []
  | _ => none

/-- The word of an enumerated value: a string, or a table whose one key holds an empty
table. -/
def word? : Node → Option String
  | .string word => some word
  | .table _ [(word, .table _ [])] => some word
  | _ => none

end Scrim.Toml.Node

namespace Scrim.Toml.Entries

/-- A field that may be left out. The outer option says whether what is there fits. -/
def optional {α : Type} (entries : Entries) (key : String) (decode : Node → Option α) :
    Option (Option α) :=
  match entries.find? key with
  | none => some none
  | some node => (decode node).map some

def required {α : Type} (entries : Entries) (key : String) (decode : Node → Option α) :
    Option α :=
  (entries.find? key).bind decode

end Scrim.Toml.Entries
