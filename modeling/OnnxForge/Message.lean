import OnnxForge.Bytes

/-!
# Messages

A model file is one message with further messages inside. The types here are those
messages as the format declares them: every number and text has a default, a message
inside another may be missing, and the codes of enumerations may be any 32-bit
integer. Floating point numbers are bit patterns.
-/

namespace OnnxForge.Message

/-- A tensor: its elements are in the field that suits their type, or all in the raw
octets. -/
structure Tensor where
  dims : List Int64 := []
  dataType : Int32 := 0
  floatData : List UInt32 := []
  int32Data : List Int32 := []
  stringData : List Bytes := []
  int64Data : List Int64 := []
  name : String := ""
  docString : String := ""
  rawData : Bytes := []
  doubleData : List UInt64 := []
  uint64Data : List UInt64 := []
deriving DecidableEq

/-- The extent of one axis: a number or the name of a parameter. -/
inductive Extent
  | size (value : Int64)
  | parameter (name : String)
deriving DecidableEq

/-- One axis of a declared shape, which may leave its extent open. -/
structure Dimension where
  extent : Option Extent := none
  denotation : String := ""
deriving DecidableEq

/-- The type of a tensor. The code zero leaves the element type open. -/
structure TensorType where
  elementType : Int32 := 0
  shape : Option (List Dimension) := none
deriving DecidableEq

/-- The type of a value, of which only tensors are known. -/
structure ValueType where
  tensor : Option TensorType := none
  denotation : String := ""
deriving DecidableEq

/-- A named value of a graph with its type. -/
structure ValueInfo where
  name : String := ""
  type : Option ValueType := none
  docString : String := ""
deriving DecidableEq

/-- The version of an operator set that a model relies on. -/
structure OperatorSet where
  domain : String := ""
  version : Int64 := 0
deriving DecidableEq

mutual

/-- An attribute of a node. The code `type` says which of the values counts. -/
structure Attribute where
  name : String := ""
  refAttrName : String := ""
  docString : String := ""
  type : Int32 := 0
  float : UInt32 := 0
  int : Int64 := 0
  string : Bytes := []
  tensor : Option Tensor := none
  graph : Option Graph := none
  floats : List UInt32 := []
  ints : List Int64 := []
  strings : List Bytes := []
  tensors : List Tensor := []
  graphs : List Graph := []

/-- One operation of a graph. -/
structure Node where
  inputs : List String := []
  outputs : List String := []
  name : String := ""
  opType : String := ""
  domain : String := ""
  attributes : List Attribute := []
  docString : String := ""

/-- A graph of operations on named values. -/
structure Graph where
  nodes : List Node := []
  name : String := ""
  initializers : List Tensor := []
  docString : String := ""
  inputs : List ValueInfo := []
  outputs : List ValueInfo := []
  valueInfos : List ValueInfo := []

end

instance : Inhabited Attribute := ⟨{}⟩

instance : Inhabited Node := ⟨{}⟩

instance : Inhabited Graph := ⟨{}⟩

/-- A whole file. -/
structure Model where
  irVersion : Int64 := 0
  opsetImport : List OperatorSet := []
  producerName : String := ""
  producerVersion : String := ""
  domain : String := ""
  modelVersion : Int64 := 0
  docString : String := ""
  graph : Option Graph := none

end OnnxForge.Message
