import OnnxForge.Network.Generation

/-!
# Max

The largest element of a single tensor. The operator allows for any number of tensors,
but only one is handled.
-/

namespace OnnxForge.Network.Max

/-- Generates a node that takes the largest element of its input. -/
def generate (setting : Setting) (node : Node) : Generation NodeCode := do
  match node.inputs.filter (· != "") with
  | [data] =>
    let elementType ← setting.elementType? data
    let operand ← setting.read node.name data
    let output ← outputName node 0
    infer node 0 ⟨some 1, elementType⟩
    return ⟨none, ⟨output, .max operand⟩⟩
  | inputs => throw (.invalidNode node.name (.inputCount inputs.length))

end OnnxForge.Network.Max
