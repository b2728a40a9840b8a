import OnnxForge.Attempt
import OnnxForge.Graph
import OnnxForge.Network
import OnnxForge.Network.Embedding
import OnnxForge.Network.Error
import OnnxForge.Network.Naming
import OnnxForge.Network.Uses

/-!
# Generation

What the generators of nodes know and share. The graph and the embeddings stay as they
are. Identifiers, uses, constants, and the ranks and types of the values generated so far
change along the way, and what changed before a fault stays changed.
-/

namespace OnnxForge.Network

structure Setting where
  graph : Graph
  embeddings : Embeddings

/-- What is known of a generated value. -/
structure Inferred where
  rank : Option Nat
  elementType : Option ElementType
deriving DecidableEq

/-- How far a generation has come. -/
structure Progress where
  naming : Naming
  uses : Uses
  /-- The constants read so far, in the order of their first reads. -/
  constants : List Constant
  inferred : Table Inferred
  /-- The position of the node that is being generated. -/
  position : Nat

/-- The progress before the first node. -/
def Progress.start : Progress := ⟨.empty, .empty, [], .empty, 0⟩

/-- A step of a generation. -/
abbrev Generation := Attempt NetworkError Progress

/-! ## What is known of values -/

namespace Setting

/-- The tensor that a name stands for in advance. -/
def initializer? (setting : Setting) (name : String) : Option Tensor :=
  setting.graph.initializers.get? name

/-- The rank of a value: the declared one, that of its initializer, or the inferred one. -/
def rankOf? (setting : Setting) (inferred : Table Inferred) (name : String) : Option Nat :=
  (setting.graph.valueInfos.get? name).bind ValueInfo.rank? <|>
    (setting.initializer? name).map Tensor.rank <|>
    (inferred.get? name).bind Inferred.rank

/-- The element type of a value, from the same sources as its rank. -/
def elementTypeOf? (setting : Setting) (inferred : Table Inferred) (name : String) :
    Option ElementType :=
  (setting.graph.valueInfos.get? name).bind ValueInfo.elementType <|>
    (setting.initializer? name).map Tensor.elementType <|>
    (inferred.get? name).bind Inferred.elementType

/-- The rank of a value at this step, if it is known. -/
def rank? (setting : Setting) (name : String) : Generation (Option Nat) := do
  return setting.rankOf? (← get).inferred name

/-- The rank of a value at this step. -/
def rank (setting : Setting) (name : String) : Generation Nat := do
  match ← setting.rank? name with
  | some rank => return rank
  | none => throw (.missingValueInfo name)

/-- The element type of a value at this step, if it is known. -/
def elementType? (setting : Setting) (name : String) : Generation (Option ElementType) := do
  return setting.elementTypeOf? (← get).inferred name

end Setting

/-- Records what is known of an output of a node, if the node has it. -/
def infer (node : Node) (index : Nat) (known : Inferred) : Generation Unit :=
  match node.output? index with
  | none => return ()
  | some name => modify fun progress =>
      { progress with inferred := progress.inferred.insert name known }

/-- Goes on to the node at a position. -/
def moveTo (position : Nat) : Generation Unit :=
  modify fun progress => { progress with position }

/-! ## Identifiers -/

/-- The identifier of a tensor. -/
def tensorName (name : String) : Generation String :=
  modifyGet fun progress =>
    let (identifier, naming) := progress.naming.tensor name
    (identifier, { progress with naming })

/-- The identifier of the layer of a node. -/
def layerName (node : Node) : Generation String :=
  modifyGet fun progress =>
    let (identifier, naming) := progress.naming.node node.name node.opType
    (identifier, { progress with naming })

/-- The identifier of an output of a node. -/
def outputName (node : Node) (index : Nat) : Generation String :=
  match node.output? index with
  | none => throw (.invalidNode node.name (.missingOutput index))
  | some name => tensorName name

/-! ## Reading values -/

/-- The kind of a tensor known in advance. -/
def kindOf (owner name : String) (tensor : Tensor) : Except NetworkError TensorKind :=
  if tensor.elementType = .string then .error (.invalidNode owner (.textTensor name))
  else .ok (.ofElementType tensor.elementType)

/-- Adds a constant unless there is one of its name. -/
def addConstant (constant : Constant) (constants : List Constant) : List Constant :=
  if constants.any fun present => present.name == constant.name then constants
  else constants ++ [constant]

/-- Reads a tensor known in advance, which becomes a constant. -/
def readConstant (name : String) (kind : TensorKind) (tensor : Tensor) :
    Generation Expression := do
  let identifier ← tensorName name
  modify fun progress =>
    { progress with constants := addConstant ⟨identifier, kind, tensor⟩ progress.constants }
  return .constant identifier

/-- Reads a value that is computed. -/
def readVariable (name : String) : Generation Expression := do
  let identifier ← tensorName name
  modifyGet fun progress =>
    let (cloned, uses) := progress.uses.consume identifier progress.position
    (.var identifier cloned, { progress with uses })

namespace Setting

/-- Reads a value on behalf of an owner, which faults name. -/
def read (setting : Setting) (owner name : String) : Generation Expression :=
  match setting.initializer? name with
  | none => readVariable name
  | some tensor =>
    match kindOf owner name tensor with
    | .error fault => throw fault
    | .ok kind => readConstant name kind tensor

/-- The tensor that a node needs in advance, with its kind. -/
def initializer (setting : Setting) (node : Node) (name : String) :
    Except NetworkError (Tensor × TensorKind) :=
  match setting.initializer? name with
  | none => .error (.unresolved node.name name)
  | some tensor => (fun kind => (tensor, kind)) <$> kindOf node.name name tensor

end Setting

/-! ## Code of nodes -/

structure NodeCode where
  layer : Option Layer
  assignment : Assignment
deriving DecidableEq

/-- The position of an axis that counts from the end when it is negative. -/
def axisPosition? (rank : Nat) (axis : Int) : Option Nat :=
  let position := if axis < 0 then rank + axis else axis
  if 0 ≤ position ∧ position < rank then some position.toNat else none

end OnnxForge.Network
