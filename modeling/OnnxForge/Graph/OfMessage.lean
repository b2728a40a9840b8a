import OnnxForge.Domain
import OnnxForge.Graph
import OnnxForge.Message.Decode
import OnnxForge.ReadError

/-!
# Graphs of messages

The readers from messages to tensors, attributes, operations and graphs. Of several
faults the first is reported: initializers come before declarations, and these
before the nodes.
-/

namespace OnnxForge

def ElementType.ofCode (code : Int32) : Except ReadError ElementType :=
  match ofCode? code with
  | some elementType => .ok elementType
  | none => .error (.unsupportedDataType code)

namespace Payload

/-- The words of `width` octets that raw octets are made of. -/
def rawWords (width : Nat) (octets : Bytes) : Except TensorFault (List Nat) :=
  match Bytes.words? width octets with
  | some words => .ok words
  | none => .error (.unevenOctets octets.length width)

def ofRaw (elementType : ElementType) (octets : Bytes) : Except TensorFault Payload :=
  match elementType with
  | .float16 => (fun words => .float16 (words.map UInt16.ofNat)) <$> rawWords 2 octets
  | .float32 => (fun words => .float32 (words.map UInt32.ofNat)) <$> rawWords 4 octets
  | .float64 => (fun words => .float64 (words.map UInt64.ofNat)) <$> rawWords 8 octets
  | .int64 =>
    (fun words => .int64 (words.map fun word => (UInt64.ofNat word).toInt64)) <$>
      rawWords 8 octets
  | .int32 =>
    (fun words => .int32 (words.map fun word => (UInt32.ofNat word).toInt32)) <$>
      rawWords 4 octets
  | .int16 =>
    (fun words => .int32 (words.map fun word => (UInt16.ofNat word).toInt16.toInt32)) <$>
      rawWords 2 octets
  | .uint16 =>
    (fun words => .int32 (words.map fun word => Int32.ofNat word)) <$> rawWords 2 octets
  | .int8 => .ok (.int32 (octets.map fun octet => octet.toInt8.toInt32))
  | .uint8 => .ok (.int32 (octets.map fun octet => Int32.ofNat octet.toNat))
  | .bool => .ok (.bool (octets.map fun octet => octet != 0))
  | .string => .error .rawText

/-- The elements in the field of a message that suits their type. -/
def ofFields (elementType : ElementType) (message : Message.Tensor) :
    Except TensorFault Payload :=
  match elementType with
  | .float32 => .ok (.float32 message.floatData)
  | .float64 => .ok (.float64 message.doubleData)
  | .int64 => .ok (.int64 message.int64Data)
  | .float16 => .ok (.float16 (message.int32Data.map fun value => value.toUInt32.toUInt16))
  | .bool => .ok (.bool (message.int32Data.map fun value => value != 0))
  | .string =>
    match message.stringData.mapM Text.Utf8.decode with
    | .ok texts => .ok (.string texts)
    | .error fault => .error (.notText fault)
  | .int32 | .int16 | .int8 | .uint16 | .uint8 => .ok (.int32 message.int32Data)

end Payload

namespace Tensor

/-- The tensor, if it has as many elements as its shape asks for. -/
def checked (overflow : Overflow) (tensor : Tensor) : Except TensorFault Tensor :=
  match tensor.consistent? overflow with
  | some true => .ok tensor
  | some false => .error (.wrongLength tensor.shape tensor.payload.length)
  | none => .error .overflow

/-- The tensor in a message. Raw octets count before the other fields. -/
def read (overflow : Overflow) (message : Message.Tensor) : Except ReadError Tensor := do
  let elementType ← ElementType.ofCode message.dataType
  let contents : Except TensorFault Tensor := do
    if message.dims.any (· < 0) then throw (.negativeSizes message.dims)
    let payload ←
      if message.rawData.isEmpty then Payload.ofFields elementType message
      else Payload.ofRaw elementType message.rawData
    checked overflow ⟨elementType, message.dims.map Int64.toUInt64, payload⟩
  contents.mapError (.invalidTensor message.name)

/-- The tensor in a message, where the program stops at a product that is no word. -/
def ofMessage (message : Message.Tensor) : Except ReadError Tensor :=
  read .stops message

end Tensor

namespace AttributeValue

/-- The texts of an attribute. -/
def texts (name : String) (values : List Bytes) : Except ReadError (List String) :=
  (values.mapM Text.Utf8.decode).mapError fun fault => .invalidAttribute name (.notText fault)

/-- The value of an attribute in a message. A missing message counts as an empty one. -/
def ofMessage (message : Message.Attribute) : Except ReadError AttributeValue :=
  match AttributeType.ofCode? message.type with
  | none =>
    .error (.invalidAttribute message.name
      (if message.type = 0 then .noType else .unknownType message.type))
  | some .float => .ok (.float message.float)
  | some .int => .ok (.int message.int)
  | some .string =>
    match Text.Utf8.decode message.string with
    | .ok text => .ok (.string text)
    | .error fault => .error (.invalidAttribute message.name (.notText fault))
  | some .tensor => AttributeValue.tensor <$> Tensor.ofMessage (message.tensor.getD {})
  | some .graph => .ok (.graph (message.graph.getD {}))
  | some .floats => .ok (.floats message.floats)
  | some .ints => .ok (.ints message.ints)
  | some .strings => AttributeValue.strings <$> texts message.name message.strings
  | some .tensors => AttributeValue.tensors <$> message.tensors.mapM Tensor.ofMessage
  | some type => .error (.invalidAttribute message.name (.unhandledType type))

end AttributeValue

namespace ValueInfo

/-- The extent of an axis. An axis without one has a parameter without a name. -/
def extentOf (dimension : Message.Dimension) : Extent :=
  match dimension.extent with
  | some (.size value) => .size value.toUInt64
  | some (.parameter name) => .parameter name
  | none => .parameter ""

/-- What a message declares of a value. -/
def ofMessage (message : Message.ValueInfo) : Except ReadError ValueInfo :=
  match message.type.bind (·.tensor) with
  | none => .ok ⟨message.name, none, none⟩
  | some type => do
    let elementType ←
      if type.elementType = 0 then pure none
      else some <$> ElementType.ofCode type.elementType
    return ⟨message.name, elementType, type.shape.map (·.map extentOf)⟩

end ValueInfo

namespace Node

/-- The attribute in a message with its name. -/
def entryOf (message : Message.Attribute) : Except ReadError (String × AttributeValue) :=
  (fun value => (message.name, value)) <$> AttributeValue.ofMessage message

/-- The operation in a message. Of attributes with one name the last counts. -/
def ofMessage (message : Message.Node) : Except ReadError Node := do
  let attributes ← message.attributes.mapM entryOf
  return ⟨message.name, message.opType, message.domain, message.inputs, message.outputs,
    .ofList attributes⟩

end Node

namespace Graph

/-- The initializer in a message with its name. -/
def initializerOf (message : Message.Tensor) : Except ReadError (String × Tensor) :=
  (fun tensor => (message.name, tensor)) <$> Tensor.ofMessage message

/-- What a table holds of the values in messages. -/
def declared (infos : Table ValueInfo) (messages : List Message.ValueInfo) : List ValueInfo :=
  messages.filterMap fun message => infos.get? message.name

/-- The graph of a model. What is declared last of a name counts everywhere. -/
def ofMessage (model : Message.Model) : Except ReadError Graph := do
  let graph := model.graph.getD {}
  let initializers := Table.ofList (← graph.initializers.mapM initializerOf)
  let declarations ← (graph.inputs ++ graph.outputs ++ graph.valueInfos).mapM ValueInfo.ofMessage
  let valueInfos := Table.ofList (declarations.map fun info => (info.name, info))
  let nodes ← graph.nodes.mapM Node.ofMessage
  return {
    name := graph.name
    nodes
    inputs := declared valueInfos
      (graph.inputs.filter fun input => !initializers.contains input.name)
    outputs := declared valueInfos graph.outputs
    valueInfos
    initializers
    opsetVersion :=
      (model.opsetImport.find? fun opset => isDefaultDomain opset.domain).map (·.version) }

/-- The graph of a model file, given by its octets; none if it cannot be opened. -/
def ofFile (file : Option Bytes) : Except ReadError Graph :=
  match file with
  | none => .error .unreadable
  | some octets =>
    match Message.Model.decode octets with
    | none => .error .malformed
    | some model => ofMessage model

end Graph

end OnnxForge
