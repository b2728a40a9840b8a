import OnnxForge.Network.Generation

/-!
# ReduceSum

Sums along axes known in advance. The axes may count from the end, in any order and
repeatedly. Without axes the sum goes over all of them, or over none if the node says so.
-/

namespace OnnxForge.Network.ReduceSum

/-- How a tensor is reduced. -/
inductive Reduction
  /-- Not at all. -/
  | identity
  /-- To the sum of all elements. -/
  | total
  /-- Along axes, which stay with one position. -/
  | kept (axes : List Nat)
  /-- Along axes, which are dropped from a tensor of that rank. -/
  | dropped (axes : List Nat) (rank : Nat)
deriving DecidableEq

namespace Reduction

/-- The sums along several axes, one after the other. -/
def sumsAlong (axes : List Nat) (operand : Expression) : Expression :=
  axes.foldl Expression.sumAlong operand

def expression (operand : Expression) : Reduction → Expression
  | identity => operand
  | total => .sum operand
  | kept axes => sumsAlong axes operand
  | dropped axes rank => .squeeze (sumsAlong axes operand) (rank - axes.length) axes

def resultRank (operandRank : Option Nat) : Reduction → Option Nat
  | identity | kept _ => operandRank
  | total => some 1
  | dropped axes rank => some (rank - axes.length)

end Reduction

/-- What a node asks for. -/
structure Request where
  axes : List Int64
  keepsAxes : Bool
  /-- Whether no axes mean none and not all. -/
  emptyMeansNone : Bool
deriving DecidableEq

/-- A flag of a node, unless it is no integer. -/
def flag (node : Node) (name : String) (default : Bool) : Bool :=
  match (node.attributes.get? name).bind AttributeValue.int? with
  | some value => value != 0
  | none => default

/-- The axes that the second input of a node lists. -/
def inputAxes (setting : Setting) (node : Node) : Except NetworkError (Option (List Int64)) :=
  match node.input? 1 with
  | none => .ok none
  | some name =>
    match setting.initializer? name with
    | none => .error (.unresolved node.name name)
    | some tensor =>
      match tensor.integers with
      | .ok axes => .ok (some axes)
      | .error fault => .error (.unread fault)

def attributeAxes (node : Node) : Except NetworkError (Option (List Int64)) :=
  match node.attributes.get? "axes" with
  | none => .ok none
  | some value =>
    match value.ints? with
    | none => .error (.invalidNode node.name .axesNotIntegers)
    | some axes => .ok (some axes)

/-- What a node asks for. Axes of its attribute count before those of its input, which must
be in order even so. -/
def request (setting : Setting) (node : Node) : Except NetworkError Request := do
  let fromInput ← inputAxes setting node
  let fromAttribute ← attributeAxes node
  return {
    axes := (fromAttribute <|> fromInput).getD []
    keepsAxes := flag node "keepdims" true
    emptyMeansNone := flag node "noop_with_empty_axes" false }

/-- The position of an axis of the data of a node. Without a rank an axis cannot count from
the end, and any other is taken as it is. -/
def position (node : Node) (data : String) (rank : Option Nat) (axis : Int) :
    Except NetworkError Nat :=
  match rank with
  | none => if axis < 0 then .error (.missingValueInfo data) else .ok axis.toNat
  | some rank =>
    match axisPosition? rank axis with
    | some position => .ok position
    | none =>
      .error (.invalidNode node.name
        (if axis < 0 then .axisBelowRange axis else .axisOutOfRange axis rank))

/-- The positions of axes, increasing. -/
def positions (node : Node) (data : String) (rank : Option Nat) (axes : List Int64) :
    Except NetworkError (List Nat) :=
  (fun found => (found.mergeSort fun a b => decide (a ≤ b)).eraseReps) <$>
    axes.mapM fun axis => position node data rank axis.toInt

/-- The reduction along positions, which are those of all axes of the rank at most. -/
def reductionAlong (data : String) (rank : Option Nat) (keepsAxes : Bool) (axes : List Nat) :
    Except NetworkError Reduction :=
  if keepsAxes then .ok (.kept axes)
  else
    match rank with
    | none => .error (.missingValueInfo data)
    | some rank => .ok (if rank = axes.length then .total else .dropped axes rank)

/-- The reduction that a node asks for. -/
def reduction (node : Node) (data : String) (rank : Option Nat) (request : Request) :
    Except NetworkError Reduction :=
  if !request.axes.isEmpty then
    positions node data rank request.axes >>= reductionAlong data rank request.keepsAxes
  else if request.emptyMeansNone then .ok .identity
  else if !request.keepsAxes then .ok .total
  else
    match rank with
    | none => .error (.missingValueInfo data)
    | some rank => .ok (.kept (List.range rank))

/-- Generates a node that sums along axes. -/
def generate (setting : Setting) (node : Node) : Generation NodeCode := do
  match node.input? 0 with
  | none => throw (.invalidNode node.name (.missingInput .data))
  | some data =>
    let request ← request setting node
    let rank ← setting.rank? data
    let operand ← setting.read node.name data
    let output ← outputName node 0
    let elementType ← setting.elementType? data
    let reduction ← reduction node data rank request
    infer node 0 ⟨reduction.resultRank rank, elementType⟩
    return ⟨none, ⟨output, reduction.expression operand⟩⟩

end OnnxForge.Network.ReduceSum
