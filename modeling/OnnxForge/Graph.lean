import OnnxForge.AttributeType
import OnnxForge.Message
import OnnxForge.Table
import OnnxForge.Tensor

/-!
# Graphs

A graph as the generators use it: operations on named values, the tensors known in
advance, and what is declared of the types of values. A missing input of an
operation is an empty name.
-/

namespace OnnxForge

/-- The value of an attribute. Floating point numbers are bit patterns. -/
inductive AttributeValue
  | float (bits : UInt32)
  | int (value : Int64)
  | string (value : String)
  | tensor (value : Tensor)
  | graph (value : Message.Graph)
  | floats (values : List UInt32)
  | ints (values : List Int64)
  | strings (values : List String)
  | tensors (values : List Tensor)

namespace AttributeValue

def type : AttributeValue → AttributeType
  | .float _ => .float
  | .int _ => .int
  | .string _ => .string
  | .tensor _ => .tensor
  | .graph _ => .graph
  | .floats _ => .floats
  | .ints _ => .ints
  | .strings _ => .strings
  | .tensors _ => .tensors

/-- The integer, if the value is one. -/
def int? : AttributeValue → Option Int64
  | .int value => some value
  | _ => none

/-- The floating point number, if the value is one. -/
def float? : AttributeValue → Option UInt32
  | .float bits => some bits
  | _ => none

/-- The text, if the value is one. -/
def string? : AttributeValue → Option String
  | .string value => some value
  | _ => none

/-- The list of integers, if the value is one. -/
def ints? : AttributeValue → Option (List Int64)
  | .ints values => some values
  | _ => none

/-- The list of floating point numbers, if the value is one. -/
def floats? : AttributeValue → Option (List UInt32)
  | .floats values => some values
  | _ => none

/-- The tensor, if the value is one. -/
def tensor? : AttributeValue → Option Tensor
  | .tensor value => some value
  | _ => none

end AttributeValue

/-- The attributes of an operation by name. -/
abbrev Attributes := Table AttributeValue

/-- The extent of an axis: a size, or a parameter of that name. -/
inductive Extent
  | size (value : UInt64)
  | parameter (name : String)
deriving DecidableEq

/-- What is declared of a value. -/
structure ValueInfo where
  name : String
  elementType : Option ElementType
  extents : Option (List Extent)
deriving DecidableEq

namespace ValueInfo

/-- The number of axes, when a shape is declared. -/
def rank? (info : ValueInfo) : Option Nat :=
  info.extents.map List.length

/-- The size of an axis, if it is one. -/
def size? : Extent → Option UInt64
  | .size value => some value
  | .parameter _ => none

/-- The shape, when all its sizes are declared. -/
def shape? (info : ValueInfo) : Option Shape :=
  info.extents.bind fun extents => extents.mapM size?

end ValueInfo

/-- One operation of a graph. -/
structure Node where
  name : String
  opType : String
  domain : String
  inputs : List String
  outputs : List String
  attributes : Attributes

namespace Node

/-- The input at a position, unless it is missing there. -/
def input? (node : Node) (index : Nat) : Option String :=
  node.inputs[index]?.filter (· != "")

/-- The output at a position. -/
def output? (node : Node) (index : Nat) : Option String :=
  node.outputs[index]?

/-- The number of inputs that are not missing. -/
def presentInputs (node : Node) : Nat :=
  (node.inputs.filter (· != "")).length

end Node

structure Graph where
  name : String
  nodes : List Node
  /-- The inputs fed at run time; initializers are not among them. -/
  inputs : List ValueInfo
  outputs : List ValueInfo
  /-- What is declared of inputs, outputs and values between them. -/
  valueInfos : Table ValueInfo
  /-- The tensors known in advance. -/
  initializers : Table Tensor
  /-- The version of the default operator set. -/
  opsetVersion : Option Int64

end OnnxForge
