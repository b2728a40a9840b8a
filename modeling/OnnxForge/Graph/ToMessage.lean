import OnnxForge.Graph
import OnnxForge.Message
import OnnxForge.Text.Utf8

/-!
# Messages of graphs

The messages in which tensors, attributes, operations and declarations are stored.
Half precision numbers, truth values and small integers go into the field of 32-bit
integers; raw octets are never written.
-/

namespace OnnxForge

namespace Tensor

def toMessage (name : String) (tensor : Tensor) : Message.Tensor :=
  let message : Message.Tensor :=
    { name, dims := tensor.shape.map UInt64.toInt64, dataType := tensor.elementType.code }
  match tensor.payload with
  | .float16 bits => { message with int32Data := bits.map fun b => Int32.ofNat b.toNat }
  | .float32 bits => { message with floatData := bits }
  | .float64 bits => { message with doubleData := bits }
  | .int32 values => { message with int32Data := values }
  | .int64 values => { message with int64Data := values }
  | .bool values => { message with int32Data := values.map fun b => if b then 1 else 0 }
  | .string values => { message with stringData := values.map Text.Utf8.encode }

@[simp]
theorem toMessage_name (name : String) (tensor : Tensor) :
    (tensor.toMessage name).name = name := by
  rw [toMessage]
  cases tensor.payload <;> rfl

end Tensor

namespace AttributeValue

def toMessage (name : String) (value : AttributeValue) : Message.Attribute :=
  let message : Message.Attribute := { name, type := value.type.code }
  match value with
  | .float bits => { message with float := bits }
  | .int value => { message with int := value }
  | .string value => { message with string := Text.Utf8.encode value }
  | .tensor value => { message with tensor := some (value.toMessage "") }
  | .graph value => { message with graph := some value }
  | .floats values => { message with floats := values }
  | .ints values => { message with ints := values }
  | .strings values => { message with strings := values.map Text.Utf8.encode }
  | .tensors values => { message with tensors := values.map (Tensor.toMessage "") }

end AttributeValue

namespace Node

/-- The message of an operation, its attributes in the order of their names. -/
def toMessage (node : Node) : Message.Node :=
  { inputs := node.inputs
    outputs := node.outputs
    name := node.name
    opType := node.opType
    domain := node.domain
    attributes := node.attributes.entries.map fun entry => entry.2.toMessage entry.1 }

end Node

namespace ValueInfo

/-- The axis of a size, as messages declare it. -/
def dimensionOf (size : UInt64) : Message.Dimension :=
  { extent := some (.size size.toInt64) }

/-- The message that declares a tensor of an element type and shape. -/
def tensorMessage (name : String) (elementType : ElementType) (shape : Shape) :
    Message.ValueInfo :=
  let tensor : Message.TensorType :=
    { elementType := elementType.code, shape := some (shape.map dimensionOf) }
  { name, type := some { tensor := some tensor } }

/-- The message that declares a name only. -/
def nameMessage (name : String) : Message.ValueInfo :=
  { name }

end ValueInfo

end OnnxForge
