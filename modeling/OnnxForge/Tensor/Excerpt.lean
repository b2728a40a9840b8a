import OnnxForge.Decimal.Positional
import OnnxForge.Tensor

/-!
# Excerpts

A short view of a payload for diagnostics: its representation and the elements from
the first on. After the seventh element the rest is left to an ellipsis.
-/

namespace OnnxForge.Payload

/-- The numerals and texts of the elements. -/
def items : Payload → List String
  | .float16 bits => bits.map Decimal.ofHalf
  | .float32 bits => bits.map Decimal.ofSingle
  | .float64 bits => bits.map Decimal.ofDouble
  | .int32 values => values.map fun value => Text.integer value.toInt
  | .int64 values => values.map fun value => Text.integer value.toInt
  | .bool values => values.map fun value => if value then "true" else "false"
  | .string values => values

/-- The name of the representation. -/
def representation : Payload → String
  | .float16 _ => "Float16"
  | .float32 _ => "Float32"
  | .float64 _ => "Float64"
  | .int32 _ => "Int32"
  | .int64 _ => "Int64"
  | .bool _ => "Bool"
  | .string _ => "String"

/-- The number of elements after which an excerpt stops. -/
def excerptLimit : Nat := 7

/-- The items of an excerpt from the one at an index on. Where it stops, an ellipsis follows,
whether or not there are more elements. -/
def excerptItemsFrom (index : Nat) : List String → List String
  | [] => []
  | item :: rest =>
    if index + 1 < excerptLimit then item :: excerptItemsFrom (index + 1) rest
    else [item, "..."]

/-- The items of an excerpt. -/
def excerptItems (items : List String) : List String :=
  excerptItemsFrom 0 items

def excerpt (payload : Payload) : String :=
  payload.representation ++ "(" ++ Text.bracketed (excerptItems payload.items) ++ ")"

end OnnxForge.Payload
