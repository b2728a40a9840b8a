import OnnxForge.ElementType
import OnnxForge.Tensor

/-!
# Networks

A network is a module of generated code. It holds embedding tables and constants as
fields, and one function that binds local variables by a sequence of assignments and
returns the values of expressions.

The tensors of generated code have a kind and a rank, which is at least one: scalars are
carried as vectors of one element.
-/

namespace OnnxForge

/-- The kinds of tensors of generated code. -/
inductive TensorKind
  | int
  | float
  | bool
deriving DecidableEq

/-- The kind of the tensors with elements of a type. Texts count as numbers here. -/
def TensorKind.ofElementType (elementType : ElementType) : TensorKind :=
  if elementType = .bool then .bool else if elementType.isInt then .int else .float

/-- The type of a tensor of generated code. -/
structure TensorType where
  rank : Nat
  kind : TensorKind
deriving DecidableEq

namespace Network

/-- An expression over tensors. -/
inductive Expression
  /-- The value of a local variable, which is moved away unless it is cloned. -/
  | var (name : String) (cloned : Bool)
  /-- The value of a constant field. -/
  | constant (field : String)
  /-- The elements as integers. -/
  | toInt (operand : Expression)
  /-- The largest element. -/
  | max (operand : Expression)
  /-- The sum of all elements. -/
  | sum (operand : Expression)
  /-- The sums along an axis, which stays with one position. -/
  | sumAlong (operand : Expression) (axis : Nat)
  /-- The tensor of that rank without the given axes, each of which has one position. -/
  | squeeze (operand : Expression) (rank : Nat) (axes : List Nat)
  /-- The slices at the positions along an axis that a vector lists. -/
  | select (operand : Expression) (axis : Nat) (index : Expression)
  /-- The slices at the positions along an axis that a tensor lists, in a tensor of that rank. -/
  | take (operand : Expression) (indexRank rank axis : Nat) (index : Expression)
  /-- The rows of an embedding table that a matrix lists. -/
  | embed (layer : String) (index : Expression)
deriving DecidableEq

/-- The binding of a local variable to the value of an expression. -/
structure Assignment where
  name : String
  value : Expression
deriving DecidableEq

/-- What the table of an embedding starts from. -/
inductive Weights
  /-- The rows of a matrix of floating point numbers. -/
  | given (tensor : Tensor)
  /-- That many random rows of that width. -/
  | fresh (count width : UInt64)
deriving DecidableEq

/-- A field that holds an embedding table. -/
structure Layer where
  name : String
  weights : Weights
deriving DecidableEq

/-- A field that holds a tensor known in advance. -/
structure Constant where
  name : String
  kind : TensorKind
  tensor : Tensor
deriving DecidableEq

/-- The type of a constant field. -/
def Constant.type (constant : Constant) : TensorType :=
  ⟨Nat.max constant.tensor.rank 1, constant.kind⟩

/-- A parameter of the function of a network. -/
structure Input where
  name : String
  type : TensorType
deriving DecidableEq

end Network

/-- A module of generated code. -/
structure Network where
  inputs : List Network.Input
  /-- The types of the values returned. -/
  results : List TensorType
  layers : List Network.Layer
  constants : List Network.Constant
  assignments : List Network.Assignment
  returned : List Network.Expression
deriving DecidableEq

end OnnxForge
