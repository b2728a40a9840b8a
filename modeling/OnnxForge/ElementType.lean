/-!
# Element types

The element types that tensors may have here, their names and the codes by which
files refer to them. Files know more codes than there are element types.
-/

namespace OnnxForge

/-- The type of the elements of a tensor. -/
inductive ElementType
  | float16
  | float32
  | float64
  | int8
  | int16
  | int32
  | int64
  | uint8
  | uint16
  | bool
  | string
deriving DecidableEq

namespace ElementType

/-- Every element type. -/
def all : List ElementType :=
  [.float16, .float32, .float64, .int8, .int16, .int32, .int64, .uint8, .uint16, .bool, .string]

def name : ElementType → String
  | .float16 => "Float16"
  | .float32 => "Float32"
  | .float64 => "Float64"
  | .int8 => "Int8"
  | .int16 => "Int16"
  | .int32 => "Int32"
  | .int64 => "Int64"
  | .uint8 => "Uint8"
  | .uint16 => "Uint16"
  | .bool => "Bool"
  | .string => "String"

/-- The element type of that exact name. -/
def ofName? (name : String) : Option ElementType :=
  all.find? fun elementType => elementType.name == name

def code : ElementType → Int32
  | .float32 => 1
  | .uint8 => 2
  | .int8 => 3
  | .uint16 => 4
  | .int16 => 5
  | .int32 => 6
  | .int64 => 7
  | .string => 8
  | .bool => 9
  | .float16 => 10
  | .float64 => 11

/-- The element type of a code, if the code has one. -/
def ofCode? (code : Int32) : Option ElementType :=
  all.find? fun elementType => elementType.code == code

/-- Whether the elements are floating point numbers. -/
def isFloat : ElementType → Bool
  | .float16 | .float32 | .float64 => true
  | _ => false

/-- Whether the elements are whole numbers. -/
def isInt : ElementType → Bool
  | .int8 | .int16 | .int32 | .int64 | .uint8 | .uint16 => true
  | _ => false

end ElementType

end OnnxForge
