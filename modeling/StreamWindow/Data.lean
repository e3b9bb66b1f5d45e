import StreamWindow.Text.Decimal
import StreamWindow.Text.Quoted

/-! Values of a data document, before anything is known about what they should be. -/

namespace StreamWindow

inductive NumberKind
  | integer | float
  deriving DecidableEq, Repr

/-- A value; the entries of a map have different names. -/
inductive Data
  | null
  | boolean (flag : Bool)
  | integer (number : Int)
  | float (number : Float)
  | oversized (kind : NumberKind)
  | moment (written : String)
  | text (content : String)
  | sequence (items : List Data)
  | map (entries : List (String × Data))

namespace Data

inductive Step
  | entry (name : String)
  | item (index : Nat)
  deriving DecidableEq, Repr

structure Place where
  path : List Step := []
  atKey : Bool := false
  deriving DecidableEq, Repr

/-- The name of the only entry of a moment where a map is expected. -/
def momentField : String := "$__toml_private_datetime"

def integerDescription (number : Int) : String :=
  if -9223372036854775808 ≤ number ∧ number ≤ 18446744073709551615 then s!"integer `{number}`"
  else if number < 170141183460469231731687303715884105728 then s!"integer `{number}` as i128"
  else s!"integer `{number}` as u128"

def description : Data → String
  | null => "null"
  | boolean flag => s!"boolean `{flag}`"
  | integer number => integerDescription number
  | float number => s!"floating point `{Text.floatText number}`"
  | oversized .integer => "integer"
  | oversized .float => "floating point"
  | moment _ => "map"
  | text content => s!"string {Text.quoted content}"
  | sequence _ => "sequence"
  | map _ => "map"

def typeName : Data → String
  | null => "null"
  | boolean _ => "boolean"
  | integer _ => "integer"
  | float _ => "float"
  | oversized .integer => "integer"
  | oversized .float => "float"
  | moment _ => "datetime"
  | text _ => "string"
  | sequence _ => "array"
  | map _ => "table"

def entries? : Data → Option (List (String × Data))
  | map entries => some entries
  | moment written => some [(momentField, text written)]
  | _ => none

end Data

end StreamWindow
