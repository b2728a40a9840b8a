import OnnxForge.ReadError

/-!
# Faults of generation

Why no network can be generated from a graph, and the wording of each reason.
-/

namespace OnnxForge

namespace Network

/-- An input that an operator needs. -/
inductive Operand
  | data
  | indices
deriving DecidableEq

/-- The name of an input. -/
def Operand.name : Operand → String
  | .data => "data"
  | .indices => "indices"

/-- Why a node has no code. -/
inductive NodeFault
  | missingInput (operand : Operand)
  | missingOutput (index : Nat)
  /-- There are no tensors of texts in generated code. -/
  | textTensor (name : String)
  /-- The operator is handled for one input only. -/
  | inputCount (found : Nat)
  | axisNotInteger
  | axesNotIntegers
  /-- The axis does not count from either end within the rank. -/
  | axisOutOfRange (axis : Int) (rank : Nat)
  /-- The axis counts from the end, past the first. -/
  | axisBelowRange (axis : Int)
  /-- The indices of an embedding are no matrix. -/
  | indicesRank (found : Nat)
  | weightsNotMatrix
deriving DecidableEq

def NodeFault.message : NodeFault → String
  | .missingInput operand => "missing input " ++ operand.name
  | .missingOutput index => "missing output " ++ Text.natural index
  | .textTensor name => "string tensor '" ++ name ++ "' has no tensor counterpart"
  | .inputCount found => "only a single input is supported, got " ++ Text.natural found
  | .axisNotInteger => "axis must be an integer"
  | .axesNotIntegers => "axes must be integers"
  | .axisOutOfRange axis rank =>
    "axis " ++ Text.integer axis ++ " out of range for rank " ++ Text.natural rank
  | .axisBelowRange axis => "axis " ++ Text.integer axis ++ " out of range"
  | .indicesRank found => "embedding indices must have rank 2, got " ++ Text.natural found
  | .weightsNotMatrix => "embedding weights must be a float matrix"

end Network

/-- Why no network can be generated. -/
inductive NetworkError
  | unsupportedOperator (operator : String)
  /-- The tensor is computed, but has to be known in advance. -/
  | unresolved (node tensor : String)
  /-- The rank of the tensor is not known. -/
  | missingValueInfo (tensor : String)
  | invalidNode (node : String) (fault : Network.NodeFault)
  /-- The data of a tensor are not of the type they need to be. -/
  | unread (fault : ReadError)
deriving DecidableEq

def NetworkError.message : NetworkError → String
  | .unsupportedOperator operator => "Unsupported operator: " ++ operator
  | .unresolved node tensor =>
    "Node (" ++ node ++ "): '" ++ tensor ++ "' must be a constant initializer"
  | .missingValueInfo tensor => "Missing value info for '" ++ tensor ++ "'"
  | .invalidNode node fault => "Node (" ++ node ++ "): " ++ fault.message
  | .unread fault => "Parse error: " ++ fault.message

end OnnxForge
