import OnnxForge.Message
import OnnxForge.Text.Utf8
import OnnxForge.Wire

/-!
# Reading messages

A message is read field by field, each field into the message read so far. Of a
single value the last field counts, and a list gains from every field. A field whose
number or kind the message does not declare is passed over, provided that it is
complete. Messages, and groups in groups, may be nested to a fixed depth.
-/

namespace OnnxForge.Message

/-! ## Values -/

/-- The 32-bit integer of a number of 64 bits, which has to be in range. -/
def int32? (value : UInt64) : Option Int32 :=
  let n := value.toInt64.toInt
  if Int32.minValue.toInt ≤ n ∧ n ≤ Int32.maxValue.toInt then some (Int32.ofInt n) else none

/-- All octets of a value. Its length has to be a number of 32 bits, in at most five octets. -/
def complete? (content : Wire.Delimited) : Option Bytes :=
  if content.width ≤ 5 ∧ content.length < UInt32.size ∧
      content.octets.length = content.length then some content.octets
  else none

/-- A text, all of whose octets are there. -/
def text? (content : Wire.Delimited) : Option String :=
  (complete? content).bind Text.Utf8.decode?

/-- Passes over a field that the message does not declare. -/
def passOver {α : Type} (message : α) : Wire.Value → Option α
  | .delimited content => (complete? content).map fun _ => message
  | _ => some message

/-- Reads one packed 64-bit integer. -/
def packedInt64? (octets : Bytes) : Option (Int64 × Bytes) :=
  (Wire.varint? octets).map fun (value, rest) => (value.toInt64, rest)

/-- Reads one packed 32-bit integer. -/
def packedInt32? (octets : Bytes) : Option (Int32 × Bytes) :=
  (Wire.varint? octets).bind fun (value, rest) => (int32? value).map fun n => (n, rest)

/-- Reads one packed word of 32 bits. -/
def packedWord32? (octets : Bytes) : Option (UInt32 × Bytes) :=
  (Wire.word? 4 octets).map fun (value, rest) => (UInt32.ofNat value, rest)

/-- Reads one packed word of 64 bits. -/
def packedWord64? (octets : Bytes) : Option (UInt64 × Bytes) :=
  (Wire.word? 8 octets).map fun (value, rest) => (UInt64.ofNat value, rest)

/-! ## Fields -/

/-- A tensor with one more field. -/
def Tensor.add (tensor : Tensor) (field : Wire.Field) : Option Tensor :=
  match field.number, field.value with
  | 1, .varint value => some { tensor with dims := tensor.dims ++ [value.toInt64] }
  | 1, .delimited content => (Wire.packed? packedInt64? content.octets).map fun values =>
    { tensor with dims := tensor.dims ++ values }
  | 2, .varint value => (int32? value).map fun code => { tensor with dataType := code }
  | 4, .fixed32 bits => some { tensor with floatData := tensor.floatData ++ [bits] }
  | 4, .delimited content => (Wire.packed? packedWord32? content.octets).map fun values =>
    { tensor with floatData := tensor.floatData ++ values }
  | 5, .varint value => (int32? value).map fun n =>
    { tensor with int32Data := tensor.int32Data ++ [n] }
  | 5, .delimited content => (Wire.packed? packedInt32? content.octets).map fun values =>
    { tensor with int32Data := tensor.int32Data ++ values }
  | 6, .delimited content => (complete? content).map fun octets =>
    { tensor with stringData := tensor.stringData ++ [octets] }
  | 7, .varint value => some { tensor with int64Data := tensor.int64Data ++ [value.toInt64] }
  | 7, .delimited content => (Wire.packed? packedInt64? content.octets).map fun values =>
    { tensor with int64Data := tensor.int64Data ++ values }
  | 8, .delimited content => (text? content).map fun text =>
    { tensor with name := text }
  | 9, .delimited content => (complete? content).map fun octets =>
    { tensor with rawData := octets }
  | 10, .fixed64 bits => some { tensor with doubleData := tensor.doubleData ++ [bits] }
  | 10, .delimited content => (Wire.packed? packedWord64? content.octets).map fun values =>
    { tensor with doubleData := tensor.doubleData ++ values }
  | 11, .varint value => some { tensor with uint64Data := tensor.uint64Data ++ [value] }
  | 11, .delimited content => (Wire.packed? Wire.varint? content.octets).map fun values =>
    { tensor with uint64Data := tensor.uint64Data ++ values }
  | 12, .delimited content => (text? content).map fun text =>
    { tensor with docString := text }
  | _, value => passOver tensor value

/-- An axis with one more field. -/
def Dimension.add (dimension : Dimension) (field : Wire.Field) : Option Dimension :=
  match field.number, field.value with
  | 1, .varint value => some { dimension with extent := some (.size value.toInt64) }
  | 2, .delimited content => (text? content).map fun text =>
    { dimension with extent := some (.parameter text) }
  | 3, .delimited content => (text? content).map fun text =>
    { dimension with denotation := text }
  | _, value => passOver dimension value

/-- A reader of messages: the depth to which further messages and groups may be nested in
it, its declared length, and the octets of it that are there. -/
abbrev Reader (α : Type) := (depth : Nat) → (room : Nat) → Bytes → Option α

/-- Reads the fields of a message one after the other. -/
def readFields {α : Type} (depth : Nat) (empty : α) (add : α → Wire.Field → Option α)
    (room : Nat) (octets : Bytes) : Option α :=
  (Wire.fields? depth room octets).bind fun fields => fields.foldlM add empty

/-- Reads the message that is the content of a value. -/
def within {α : Type} (read : (room : Nat) → Bytes → Option α) (content : Wire.Delimited) :
    Option α :=
  read content.length content.octets

/-- Reads a message nested in one that leaves `depth` levels. -/
def nested? {α : Type} (read : Reader α) : (depth : Nat) → Wire.Delimited → Option α
  | 0, _ => none
  | depth + 1, content => within (read depth) content

def tensor? : Reader Tensor := fun depth => readFields depth {} Tensor.add

/-- Reads an axis. -/
def dimension? : Reader Dimension := fun depth => readFields depth {} Dimension.add

def shape? : Reader (List Dimension) := fun depth =>
  readFields depth [] fun shape field =>
    match field.number, field.value with
    | 1, .delimited content => (nested? dimension? depth content).map fun dimension =>
      shape ++ [dimension]
    | _, value => passOver shape value

def tensorType? : Reader TensorType := fun depth =>
  readFields depth {} fun type field =>
    match field.number, field.value with
    | 1, .varint value => (int32? value).map fun code => { type with elementType := code }
    | 2, .delimited content => (nested? shape? depth content).map fun shape =>
      { type with shape := some shape }
    | _, value => passOver type value

def valueType? : Reader ValueType := fun depth =>
  readFields depth {} fun type field =>
    match field.number, field.value with
    | 1, .delimited content => (nested? tensorType? depth content).map fun tensor =>
      { type with tensor := some tensor }
    | 6, .delimited content => (text? content).map fun text =>
      { type with denotation := text }
    | _, value => passOver type value

/-- Reads a value with its type. -/
def valueInfo? : Reader ValueInfo := fun depth =>
  readFields depth {} fun info field =>
    match field.number, field.value with
    | 1, .delimited content => (text? content).map fun text =>
      { info with name := text }
    | 2, .delimited content => (nested? valueType? depth content).map fun type =>
      { info with type := some type }
    | 3, .delimited content => (text? content).map fun text =>
      { info with docString := text }
    | _, value => passOver info value

/-- Reads the version of an operator set. -/
def operatorSet? : Reader OperatorSet := fun depth =>
  readFields depth {} fun opset field =>
    match field.number, field.value with
    | 1, .delimited content => (text? content).map fun text =>
      { opset with domain := text }
    | 2, .varint value => some { opset with version := value.toInt64 }
    | _, value => passOver opset value

/-- An attribute with one more field. The readers are those of the messages nested in it. -/
def Attribute.add (readTensor : Wire.Delimited → Option Tensor)
    (readGraph : Wire.Delimited → Option Graph) (attr : Attribute) (field : Wire.Field) :
    Option Attribute :=
  match field.number, field.value with
  | 1, .delimited content => (text? content).map fun text =>
    { attr with name := text }
  | 2, .fixed32 bits => some { attr with float := bits }
  | 3, .varint value => some { attr with int := value.toInt64 }
  | 4, .delimited content => (complete? content).map fun octets =>
    { attr with string := octets }
  | 5, .delimited content => (readTensor content).map fun tensor =>
    { attr with tensor := some tensor }
  | 6, .delimited content => (readGraph content).map fun graph =>
    { attr with graph := some graph }
  | 7, .fixed32 bits => some { attr with floats := attr.floats ++ [bits] }
  | 7, .delimited content => (Wire.packed? packedWord32? content.octets).map fun values =>
    { attr with floats := attr.floats ++ values }
  | 8, .varint value => some { attr with ints := attr.ints ++ [value.toInt64] }
  | 8, .delimited content => (Wire.packed? packedInt64? content.octets).map fun values =>
    { attr with ints := attr.ints ++ values }
  | 9, .delimited content => (complete? content).map fun octets =>
    { attr with strings := attr.strings ++ [octets] }
  | 10, .delimited content => (readTensor content).map fun tensor =>
    { attr with tensors := attr.tensors ++ [tensor] }
  | 11, .delimited content => (readGraph content).map fun graph =>
    { attr with graphs := attr.graphs ++ [graph] }
  | 13, .delimited content => (text? content).map fun text =>
    { attr with docString := text }
  | 20, .varint value => (int32? value).map fun code => { attr with type := code }
  | 21, .delimited content => (text? content).map fun text =>
    { attr with refAttrName := text }
  | _, value => passOver attr value

/-- A node with one more field. The reader is that of its attributes. -/
def Node.add (readAttribute : Wire.Delimited → Option Attribute) (node : Node)
    (field : Wire.Field) : Option Node :=
  match field.number, field.value with
  | 1, .delimited content => (text? content).map fun text =>
    { node with inputs := node.inputs ++ [text] }
  | 2, .delimited content => (text? content).map fun text =>
    { node with outputs := node.outputs ++ [text] }
  | 3, .delimited content => (text? content).map fun text =>
    { node with name := text }
  | 4, .delimited content => (text? content).map fun text =>
    { node with opType := text }
  | 5, .delimited content => (readAttribute content).map fun attr =>
    { node with attributes := node.attributes ++ [attr] }
  | 6, .delimited content => (text? content).map fun text =>
    { node with docString := text }
  | 7, .delimited content => (text? content).map fun text =>
    { node with domain := text }
  | _, value => passOver node value

/-- A graph with one more field. The readers are those of the messages nested in it. -/
def Graph.add (readNode : Wire.Delimited → Option Node)
    (readTensor : Wire.Delimited → Option Tensor)
    (readInfo : Wire.Delimited → Option ValueInfo) (graph : Graph) (field : Wire.Field) :
    Option Graph :=
  match field.number, field.value with
  | 1, .delimited content => (readNode content).map fun node =>
    { graph with nodes := graph.nodes ++ [node] }
  | 2, .delimited content => (text? content).map fun text =>
    { graph with name := text }
  | 5, .delimited content => (readTensor content).map fun tensor =>
    { graph with initializers := graph.initializers ++ [tensor] }
  | 10, .delimited content => (text? content).map fun text =>
    { graph with docString := text }
  | 11, .delimited content => (readInfo content).map fun info =>
    { graph with inputs := graph.inputs ++ [info] }
  | 12, .delimited content => (readInfo content).map fun info =>
    { graph with outputs := graph.outputs ++ [info] }
  | 13, .delimited content => (readInfo content).map fun info =>
    { graph with valueInfos := graph.valueInfos ++ [info] }
  | _, value => passOver graph value

/-- The reader of a message in which no further one may be nested. -/
def refuse {α : Type} (_content : Wire.Delimited) : Option α :=
  none

mutual

def attribute? : Reader Attribute
  | 0 => readFields 0 {} (Attribute.add refuse refuse)
  | depth + 1 =>
    readFields (depth + 1) {} (Attribute.add (within (tensor? depth)) (within (graph? depth)))

def node? : Reader Node
  | 0 => readFields 0 {} (Node.add refuse)
  | depth + 1 => readFields (depth + 1) {} (Node.add (within (attribute? depth)))

def graph? : Reader Graph
  | 0 => readFields 0 {} (Graph.add refuse refuse refuse)
  | depth + 1 =>
    readFields (depth + 1) {}
      (Graph.add (within (node? depth)) (within (tensor? depth)) (within (valueInfo? depth)))

end

def model? : Reader Model := fun depth =>
  readFields depth {} fun model field =>
    match field.number, field.value with
    | 1, .varint value => some { model with irVersion := value.toInt64 }
    | 2, .delimited content => (text? content).map fun text =>
      { model with producerName := text }
    | 3, .delimited content => (text? content).map fun text =>
      { model with producerVersion := text }
    | 4, .delimited content => (text? content).map fun text =>
      { model with domain := text }
    | 5, .varint value => some { model with modelVersion := value.toInt64 }
    | 6, .delimited content => (text? content).map fun text =>
      { model with docString := text }
    | 7, .delimited content => (nested? graph? depth content).map fun graph =>
      { model with graph := some graph }
    | 8, .delimited content => (nested? operatorSet? depth content).map fun opset =>
      { model with opsetImport := model.opsetImport ++ [opset] }
    | _, value => passOver model value

/-- The depth to which messages may be nested in a file. -/
def nestingLimit : Nat := 100

/-- The length that a file is taken to declare: more than any file has. -/
def fileRoom : Nat := UInt64.size - 1

/-- The model in a file, if the octets hold one. -/
def Model.decode (octets : Bytes) : Option Model :=
  model? nestingLimit fileRoom octets

end OnnxForge.Message
