import OnnxForge.Decimal.Positional
import OnnxForge.Network
import OnnxForge.Source.Token

/-!
# Literals

The code of numbers, lists of numbers and tensors. Elements carry a suffix for their type,
so that the code keeps it. A minus sign is a token of its own before the magnitude; a value
without a magnitude of its type is the constant of its name.
-/

namespace OnnxForge.Network

open Source Token

/-- The code of a number. -/
def naturalCode (n : Nat) : Token :=
  word (Text.natural n)

def naturalsCode (numbers : List Nat) : List Token :=
  brackets (commaSeparated (numbers.map fun n => [naturalCode n]))

def constantOf (type name : String) : List Token :=
  [word type, mark ':', mark ':', word name]

def signed (negative : Bool) (magnitude : String) : List Token :=
  if negative then [mark '-', word magnitude] else [word magnitude]

/-- The code of an integer of a type whose least value is `-2 ^ bits`. That value has no
magnitude within the type. -/
def integerCode (type : String) (bits : Nat) (value : Int) : List Token :=
  if value = -(Nat.pow 2 bits : Nat) then constantOf type "MIN"
  else signed (decide (value < 0)) (Text.natural value.natAbs ++ type)

/-- The code of a floating point number of a type. -/
def floatCode (type : String) (format : Ieee.Format) (bits : Nat) : List Token :=
  match format.value bits with
  | .nan => constantOf type "NAN"
  | .infinite negative => constantOf type (if negative then "NEG_INFINITY" else "INFINITY")
  | .finite negative significand exponent =>
    signed negative (Decimal.magnitude format significand exponent ++ type)

/-- The code of a truth value. -/
def boolCode (value : Bool) : List Token :=
  [word (if value then "true" else "false")]

/-- The code of each element. Numbers of half precision are written in single precision. -/
def elementCodes : Payload → List (List Token)
  | .float16 bits => bits.map fun half =>
    floatCode "f32" Ieee.single (Ieee.singleOfHalf half).toNat
  | .float32 bits => bits.map fun single => floatCode "f32" Ieee.single single.toNat
  | .float64 bits => bits.map fun double => floatCode "f64" Ieee.double double.toNat
  | .int32 values => values.map fun value => integerCode "i32" 31 value.toInt
  | .int64 values => values.map fun value => integerCode "i64" 63 value.toInt
  | .bool values => values.map boolCode
  | .string values => values.map fun value => [quoted value]

/-- The elements with their shape. -/
def dataCode (payload : Payload) (shape : Shape) : List Token :=
  scan "TensorData::new" ++
    parens (scan "vec!" ++ brackets (commaSeparated (elementCodes payload)) ++ [mark ','] ++
      naturalsCode (shape.map UInt64.toNat))

/-- The kind of a tensor as a type argument, which numbers do not need. -/
def kindCode : TensorKind → List Token
  | .int => scan ", Int"
  | .float => []
  | .bool => scan ", Bool"

/-- The arguments of the type of tensors of a rank and a kind. -/
def tensorArguments (rank : Nat) (kind : TensorKind) : List Token :=
  scan "<B," ++ naturalCode rank :: kindCode kind ++ [mark '>']

def typeCode (type : TensorType) : List Token :=
  word "Tensor" :: tensorArguments type.rank type.kind

/-- The shape under which generated code carries a tensor. -/
def carriedShape : Shape → Shape
  | [] => [1]
  | shape => shape

/-- The code that makes a tensor. -/
def tensorCode (tensor : Tensor) (kind : TensorKind) : List Token :=
  let shape := carriedShape tensor.shape
  scan "Tensor::" ++ tensorArguments shape.length kind ++ scan "::from_data" ++
    parens (dataCode tensor.payload shape ++ scan ", device")

end OnnxForge.Network
