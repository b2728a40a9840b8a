/-!
# Attribute types

The types that attributes may be declared to have, their codes in files and their
names. Files use the code zero for an attribute without a type.
-/

namespace OnnxForge

inductive AttributeType
  | float
  | int
  | string
  | tensor
  | graph
  | floats
  | ints
  | strings
  | tensors
  | graphs
  | sparseTensor
  | sparseTensors
  | typeProto
  | typeProtos
deriving DecidableEq

namespace AttributeType

/-- Every attribute type. -/
def all : List AttributeType :=
  [.float, .int, .string, .tensor, .graph, .floats, .ints, .strings, .tensors, .graphs,
    .sparseTensor, .sparseTensors, .typeProto, .typeProtos]

def code : AttributeType → Int32
  | .float => 1
  | .int => 2
  | .string => 3
  | .tensor => 4
  | .graph => 5
  | .floats => 6
  | .ints => 7
  | .strings => 8
  | .tensors => 9
  | .graphs => 10
  | .sparseTensor => 11
  | .sparseTensors => 12
  | .typeProto => 13
  | .typeProtos => 14

/-- The attribute type of a code, if the code has one. -/
def ofCode? (code : Int32) : Option AttributeType :=
  all.find? fun type => type.code == code

/-- The name that catalogues use. -/
def name : AttributeType → String
  | .float => "float"
  | .int => "int"
  | .string => "string"
  | .tensor => "tensor"
  | .graph => "graph"
  | .floats => "floats"
  | .ints => "ints"
  | .strings => "strings"
  | .tensors => "tensors"
  | .graphs => "graphs"
  | .sparseTensor => "sparse_tensor"
  | .sparseTensors => "sparse_tensors"
  | .typeProto => "type_proto"
  | .typeProtos => "type_protos"

/-- The attribute type of that exact name. -/
def ofName? (name : String) : Option AttributeType :=
  all.find? fun type => type.name == name

/-- The name in capitals, as diagnostics have it. -/
def capitals (type : AttributeType) : String :=
  type.name.map Char.toUpper

end AttributeType

end OnnxForge
