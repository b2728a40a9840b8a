import OnnxForge.Message
import OnnxForge.Text.Utf8
import OnnxForge.Wire

/-!
# Writing messages

The fields of each message in the order in which the format declares them. A field
that holds its default is left out, where a negative zero counts as zero; a message
that is present is written even when it is empty, and so is the extent of a
dimension. The numbers of a list are packed into one field.
-/

namespace OnnxForge.Message

/-! ## Single fields -/

/-- The field of a 64-bit integer. -/
def int64Field (number : Nat) (value : Int64) : List Wire.Field :=
  if value = 0 then [] else [⟨number, .varint value.toUInt64⟩]

/-- The field of a 32-bit integer, which is widened with its sign. -/
def int32Field (number : Nat) (value : Int32) : List Wire.Field :=
  if value = 0 then [] else [⟨number, .varint value.toInt64.toUInt64⟩]

/-- Whether a single precision pattern is one of the two zeros. -/
def isZero (bits : UInt32) : Bool :=
  bits == 0 || bits == 0x80000000

/-- The field of a single precision number. -/
def floatField (number : Nat) (bits : UInt32) : List Wire.Field :=
  if isZero bits then [] else [⟨number, .fixed32 bits⟩]

/-- The field of a string of octets. -/
def bytesField (number : Nat) (octets : Bytes) : List Wire.Field :=
  if octets.isEmpty then [] else [⟨number, .octets octets⟩]

def textField (number : Nat) (text : String) : List Wire.Field :=
  bytesField number (Text.Utf8.encode text)

/-- The field of a message with the given fields. -/
def messageField (number : Nat) (fields : List Wire.Field) : Wire.Field :=
  ⟨number, .octets (Wire.encode fields)⟩

/-! ## Lists -/

/-- One field for each string of octets. -/
def bytesFields (number : Nat) (values : List Bytes) : List Wire.Field :=
  values.map fun octets => ⟨number, .octets octets⟩

def textFields (number : Nat) (texts : List String) : List Wire.Field :=
  bytesFields number (texts.map Text.Utf8.encode)

/-- One field with all numbers, or none when there is no number. -/
def packedField {α : Type} (number : Nat) (write : α → Bytes) (values : List α) :
    List Wire.Field :=
  if values.isEmpty then [] else [⟨number, .octets (values.flatMap write)⟩]

/-- The field of a list of 64-bit integers. -/
def int64sField (number : Nat) (values : List Int64) : List Wire.Field :=
  packedField number (fun value => Wire.encodeVarint value.toUInt64.toNat) values

/-- The field of a list of 32-bit integers. -/
def int32sField (number : Nat) (values : List Int32) : List Wire.Field :=
  packedField number (fun value => Wire.encodeVarint value.toInt64.toUInt64.toNat) values

/-- The field of a list of unsigned 64-bit integers. -/
def uint64sField (number : Nat) (values : List UInt64) : List Wire.Field :=
  packedField number (fun value => Wire.encodeVarint value.toNat) values

/-- The field of a list of single precision numbers. -/
def floatsField (number : Nat) (values : List UInt32) : List Wire.Field :=
  packedField number (fun bits => Bytes.littleEndian 4 bits.toNat) values

/-- The field of a list of double precision numbers. -/
def doublesField (number : Nat) (values : List UInt64) : List Wire.Field :=
  packedField number (fun bits => Bytes.littleEndian 8 bits.toNat) values

/-! ## Messages -/

def Tensor.fields (tensor : Tensor) : List Wire.Field :=
  int64sField 1 tensor.dims ++ int32Field 2 tensor.dataType ++
    floatsField 4 tensor.floatData ++ int32sField 5 tensor.int32Data ++
    bytesFields 6 tensor.stringData ++ int64sField 7 tensor.int64Data ++
    textField 8 tensor.name ++ textField 12 tensor.docString ++
    bytesField 9 tensor.rawData ++ doublesField 10 tensor.doubleData ++
    uint64sField 11 tensor.uint64Data

/-- The field of the extent of an axis. -/
def Extent.fields : Extent → List Wire.Field
  | .size value => [⟨1, .varint value.toUInt64⟩]
  | .parameter name => [⟨2, .octets (Text.Utf8.encode name)⟩]

/-- The fields of an axis. -/
def Dimension.fields (dimension : Dimension) : List Wire.Field :=
  dimension.extent.elim [] Extent.fields ++ textField 3 dimension.denotation

def shapeFields (shape : List Dimension) : List Wire.Field :=
  shape.map fun dimension => messageField 1 dimension.fields

def TensorType.fields (type : TensorType) : List Wire.Field :=
  int32Field 1 type.elementType ++
    (type.shape.elim [] fun shape => [messageField 2 (shapeFields shape)])

def ValueType.fields (type : ValueType) : List Wire.Field :=
  (type.tensor.elim [] fun tensor => [messageField 1 tensor.fields]) ++
    textField 6 type.denotation

/-- The fields of a value with its type. -/
def ValueInfo.fields (info : ValueInfo) : List Wire.Field :=
  textField 1 info.name ++ (info.type.elim [] fun type => [messageField 2 type.fields]) ++
    textField 3 info.docString

/-- The fields of the version of an operator set. -/
def OperatorSet.fields (opset : OperatorSet) : List Wire.Field :=
  textField 1 opset.domain ++ int64Field 2 opset.version

mutual

def Attribute.fields : Attribute → List Wire.Field
  | ⟨name, refAttrName, docString, type, float, int, string, tensor, graph, floats, ints,
      strings, tensors, graphs⟩ =>
    textField 1 name ++ textField 21 refAttrName ++ textField 13 docString ++
      int32Field 20 type ++ floatField 2 float ++ int64Field 3 int ++ bytesField 4 string ++
      (tensor.elim [] fun tensor => [messageField 5 tensor.fields]) ++
      Graph.optionalField graph ++ floatsField 7 floats ++ int64sField 8 ints ++
      bytesFields 9 strings ++ tensors.map (fun tensor => messageField 10 tensor.fields) ++
      Graph.listFields graphs

/-- The field of the graph of an attribute. -/
def Graph.optionalField : Option Graph → List Wire.Field
  | none => []
  | some graph => [messageField 6 graph.fields]

/-- The fields of the list of graphs of an attribute. -/
def Graph.listFields : List Graph → List Wire.Field
  | [] => []
  | graph :: rest => messageField 11 graph.fields :: Graph.listFields rest

def Node.fields : Node → List Wire.Field
  | ⟨inputs, outputs, name, opType, domain, attributes, docString⟩ =>
    textFields 1 inputs ++ textFields 2 outputs ++ textField 3 name ++ textField 4 opType ++
      textField 7 domain ++ Attribute.listFields attributes ++ textField 6 docString

/-- The fields of the attributes of a node. -/
def Attribute.listFields : List Attribute → List Wire.Field
  | [] => []
  | first :: rest => messageField 5 first.fields :: Attribute.listFields rest

def Graph.fields : Graph → List Wire.Field
  | ⟨nodes, name, initializers, docString, inputs, outputs, valueInfos⟩ =>
    Node.listFields nodes ++ textField 2 name ++
      initializers.map (fun tensor => messageField 5 tensor.fields) ++ textField 10 docString ++
      inputs.map (fun info => messageField 11 info.fields) ++
      outputs.map (fun info => messageField 12 info.fields) ++
      valueInfos.map (fun info => messageField 13 info.fields)

/-- The fields of the nodes of a graph. -/
def Node.listFields : List Node → List Wire.Field
  | [] => []
  | node :: rest => messageField 1 node.fields :: Node.listFields rest

end

def Model.fields (model : Model) : List Wire.Field :=
  int64Field 1 model.irVersion ++
    model.opsetImport.map (fun opset => messageField 8 opset.fields) ++
    textField 2 model.producerName ++ textField 3 model.producerVersion ++
    textField 4 model.domain ++ int64Field 5 model.modelVersion ++
    textField 6 model.docString ++
    (model.graph.elim [] fun graph => [messageField 7 graph.fields])

/-- The octets of a model file. -/
def Model.encode (model : Model) : Bytes :=
  Wire.encode model.fields

end OnnxForge.Message
