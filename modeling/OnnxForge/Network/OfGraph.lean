import OnnxForge.Domain
import OnnxForge.Network.Generator

/-!
# Networks of graphs

A network computes what its graph does. The inputs of the graph are its parameters, each
node gives one assignment, and the outputs are what it returns. Nodes come in the order in
which they are executed.
-/

namespace OnnxForge.Network

/-- Declares an input or an output of the graph. Its rank must be known; numbers stand in
for an unknown element type. -/
def declare (setting : Setting) (name : String) : Generation Input := do
  let rank ← setting.rank name
  let elementType ← setting.elementType? name
  return ⟨← tensorName name, ⟨Nat.max rank 1, elementType.elim .float .ofElementType⟩⟩

/-- The names that a graph uses with the positions of the nodes that do. Its outputs are used
after its nodes. -/
def occurrences (graph : Graph) : List (String × Nat) :=
  (graph.nodes.zipIdx.flatMap fun (node, position) =>
    node.inputs.map fun name => (name, position)) ++
    graph.outputs.map fun output => (output.name, graph.nodes.length)

/-- Whether a name stands for a value that is computed. -/
def isComputed (graph : Graph) (name : String) : Bool :=
  name != "" && !graph.initializers.contains name

/-- Registers that a name is used at a position. -/
def registerUse (name : String) (position : Nat) : Generation Unit := do
  let identifier ← tensorName name
  modify fun progress => { progress with uses := progress.uses.register identifier position }

/-- Registers the uses of all computed values. -/
def registerUses (graph : Graph) : Generation Unit :=
  ((occurrences graph).filter fun use => isComputed graph use.1).forM fun use =>
    registerUse use.1 use.2

def generateNode (setting : Setting) (generators : Generators) (node : Node) (position : Nat) :
    Generation NodeCode := do
  if !isDefaultDomain node.domain then
    throw (.unsupportedOperator (node.domain ++ "." ++ node.opType))
  let generator ← generators.find node.opType
  moveTo position
  generator.generate setting node

def generate (setting : Setting) (generators : Generators) : Generation Network := do
  let graph := setting.graph
  let inputs ← graph.inputs.mapM fun input => declare setting input.name
  graph.outputs.forM fun output => discard (tensorName output.name)
  registerUses graph
  let codes ← graph.nodes.zipIdx.mapM fun (node, position) =>
    generateNode setting generators node position
  let results ← graph.outputs.mapM fun output => declare setting output.name
  moveTo graph.nodes.length
  let returned ← graph.outputs.mapM fun output => setting.read "graph outputs" output.name
  return {
    inputs
    results := results.map (·.type)
    layers := codes.filterMap (·.layer)
    constants := (← get).constants
    assignments := codes.map (·.assignment)
    returned }

def ofGraph (setting : Setting) (generators : Generators) : Except NetworkError Network :=
  ((generate setting generators).run.run .start).1

end OnnxForge.Network
