import OnnxForge.Network.Generation

/-!
# Gather

Slices at positions along an axis. The general form selects or takes them by an index;
a node that is an embedding looks up the rows of a table of its own. That table starts
from the data of the node if these have the right number of rows.
-/

namespace OnnxForge.Network.Gather

/-! ## The general form -/

/-- The axis of a node, the first one by default. -/
def axis (node : Node) (rank : Nat) : Except NetworkError Nat :=
  let located (axis : Int) : Except NetworkError Nat :=
    match axisPosition? rank axis with
    | some position => .ok position
    | none => .error (.invalidNode node.name (.axisOutOfRange axis rank))
  match node.attributes.get? "axis" with
  | none => located 0
  | some value =>
    match value.int? with
    | none => .error (.invalidNode node.name .axisNotInteger)
    | some axis => located axis.toInt

/-- The rank of the slices: the index stands in the place of the axis. A scalar is carried
as a vector. -/
def resultRank (dataRank indexRank : Nat) : Nat :=
  Nat.max (dataRank - 1 + indexRank) 1

/-- The expression of the slices. A scalar index is carried as a vector of one element, so
the axis is dropped after it selects, unless nothing would be left. -/
def expression (operand index : Expression) (dataRank indexRank axis : Nat) : Expression :=
  let rank := resultRank dataRank indexRank
  if 1 < indexRank then .take operand indexRank rank axis index
  else if indexRank = 0 ∧ 1 < dataRank then .squeeze (.select operand axis index) rank [axis]
  else .select operand axis index

/-- Reads an index, as integers. -/
def readIndex (setting : Setting) (node : Node) (indices : String) : Generation Expression := do
  let elementType ← setting.elementType? indices
  let index ← setting.read node.name indices
  return if elementType.any ElementType.isFloat then .toInt index else index

/-- Generates the general form. -/
def generateSlices (setting : Setting) (node : Node) (data indices : String) :
    Generation NodeCode := do
  let dataRank ← setting.rank data
  let indexRank ← setting.rank indices
  let axis ← axis node dataRank
  let operand ← setting.read node.name data
  let index ← readIndex setting node indices
  let output ← outputName node 0
  infer node 0 ⟨some (resultRank dataRank indexRank), ← setting.elementType? data⟩
  return ⟨none, ⟨output, expression operand index dataRank indexRank axis⟩⟩

/-! ## Embeddings -/

/-- What the table of an embedding starts from. Data with another number of rows, or
computed ones, are passed over. -/
def weights (setting : Setting) (node : Node) (data : String) (embedding : Embedding) :
    Except NetworkError Weights :=
  match setting.initializer? data with
  | none => .ok (.fresh embedding.count embedding.width)
  | some tensor =>
    if tensor.shape.head? != some embedding.count then
      .ok (.fresh embedding.count embedding.width)
    else if tensor.rank = 2 ∧ tensor.elementType.isFloat then .ok (.given tensor)
    else .error (.invalidNode node.name .weightsNotMatrix)

def generateEmbedding (setting : Setting) (node : Node) (embedding : Embedding)
    (data indices : String) : Generation NodeCode := do
  match ← setting.rank? indices with
  | some rank =>
    if rank ≠ 2 then throw (.invalidNode node.name (.indicesRank rank))
  | none => pure ()
  let layer ← layerName node
  let weights ← weights setting node data embedding
  let index ← readIndex setting node indices
  let output ← outputName node 0
  infer node 0 ⟨some 3, some .float32⟩
  return ⟨some ⟨layer, weights⟩, ⟨output, .embed layer index⟩⟩

/-- Generates a node that gathers slices. -/
def generate (setting : Setting) (node : Node) : Generation NodeCode := do
  match node.input? 0, node.input? 1 with
  | none, _ => throw (.invalidNode node.name (.missingInput .data))
  | some _, none => throw (.invalidNode node.name (.missingInput .indices))
  | some data, some indices =>
    match setting.embeddings.get? node.name with
    | none => generateSlices setting node data indices
    | some embedding => generateEmbedding setting node embedding data indices

end OnnxForge.Network.Gather
