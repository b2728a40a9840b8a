import OnnxForge.Build.OutputCount
import OnnxForge.Build.Staging
import OnnxForge.Catalogue

/-!
# Builders

A builder holds a graph that grows by inputs, outputs, initializers and nodes. Nodes
are checked against their schemas before they are added. A node and its outputs are
named for the operator and the number of nodes of that operator before it, so names
do not recur. All checks of a call come before its first change.
-/

namespace OnnxForge.Build

/-- A graph under construction. -/
structure Builder where
  catalogue : Catalogue
  /-- The version of the default operator set that versions are resolved against. -/
  opsetVersion : Int64
  /-- The operator sets that the model imports. -/
  opsetImport : List Message.OperatorSet
  graph : Message.Graph
  /-- The number of nodes of each operator. -/
  counters : Table Nat

namespace Builder

/-- The builder of an empty graph, at the latest version of the catalogue. -/
def start (catalogue : Catalogue) : Builder :=
  ⟨catalogue, catalogue.latestVersion,
    [{ domain := "", version := catalogue.latestVersion }], {}, .empty⟩

/-- The same graph at another version of the default operator set, which the imports of that
set take over. -/
def withOpsetVersion (builder : Builder) (version : Int64) : Builder :=
  { builder with
    opsetVersion := version
    opsetImport := builder.opsetImport.map fun imported =>
      if imported.domain = "" then { imported with version } else imported }

/-- The model of the graph. -/
def model (builder : Builder) : Message.Model :=
  { irVersion := 8
    opsetImport := builder.opsetImport
    producerName := "onnx-model-maker"
    producerVersion := "0.3.0"
    graph := some builder.graph }

/-- The number of nodes of an operator. -/
def operatorCount (builder : Builder) (operator : String) : Nat :=
  (builder.counters.get? operator).getD 0

/-- The schema of an operator in effect at the version of the graph. -/
def resolve (builder : Builder) (operator domain : String) : Except BuildError Schema :=
  match builder.catalogue.resolve? operator builder.opsetVersion domain with
  | some schema => .ok schema
  | none => .error (.unknownSchema operator domain builder.opsetVersion)

/-- The schema of an operator that came with a version. -/
def schema (builder : Builder) (operator domain : String) (version : Int64) :
    Except BuildError Schema :=
  match builder.catalogue.get? operator version domain with
  | some schema => .ok schema
  | none => .error (.unknownSchema operator domain version)

/-! ## Inputs, outputs and initializers -/

/-- The declaration of the graph input at a position. -/
def inputMessage (index : Nat) (sample : Tensor) : Message.ValueInfo :=
  ValueInfo.tensorMessage (namePrefix ++ "Input_" ++ Text.natural index) sample.elementType
    sample.shape

/-- Declares one typed input for each sample, and gives their names. -/
def input (builder : Builder) (samples : List Tensor) : List String × Builder :=
  let count := builder.graph.inputs.length
  let declared := samples.mapIdx fun index sample => inputMessage (count + index) sample
  (declared.map (·.name),
    { builder with graph := { builder.graph with inputs := builder.graph.inputs ++ declared } })

/-- What an output of the graph may be declared by: a sample, a name, or a node, all of
whose outputs count. -/
inductive Output
  | array (sample : Tensor)
  | name (name : String)
  | node (node : Message.Node)

/-- The output that an argument declares. -/
def Output.ofArgument : Argument → Except BuildError Output
  | .array sample => .ok (.array sample)
  | .name text => .ok (.name text)
  | .node source => .ok (.node source)
  | .names texts => .error (.unsupportedOutput texts)

/-- The declarations of one output after `count` others. -/
def outputMessages (count : Nat) : Output → List Message.ValueInfo
  | .array sample =>
    [ValueInfo.tensorMessage (namePrefix ++ "Output_" ++ Text.natural count) sample.elementType
      sample.shape]
  | .name name => [ValueInfo.nameMessage name]
  | .node node => node.outputs.map ValueInfo.nameMessage

def declare (builder : Builder) (output : Output) : Builder :=
  let declared := outputMessages builder.graph.outputs.length output
  { builder with graph := { builder.graph with outputs := builder.graph.outputs ++ declared } }

/-- Declares outputs in order. -/
def declareAll (builder : Builder) (outputs : List Output) : Builder :=
  outputs.foldl declare builder

/-! ## What a commit changes -/

/-- The graph with more initializers. -/
def withInitializers (builder : Builder) (initializers : List Message.Tensor) : Builder :=
  { builder with
    graph := { builder.graph with
      initializers := builder.graph.initializers ++ initializers } }

/-- The graph with one more node. -/
def withNode (builder : Builder) (node : Message.Node) : Builder :=
  { builder with graph := { builder.graph with nodes := builder.graph.nodes ++ [node] } }

/-- The builder after one more node of an operator was counted. -/
def counting (builder : Builder) (operator : String) : Builder :=
  { builder with
    counters := builder.counters.insert operator (builder.operatorCount operator + 1) }

/-! ## New nodes -/

/-- A staging of inputs for the graph as it is. -/
def stage (builder : Builder) : Staging :=
  .start builder.graph.initializers.length

/-- The names of the numbered outputs of a node. -/
def numberedOutputs (stem : String) (count : Nat) : List String :=
  (List.range count).map fun index => namePrefix ++ stem ++ "_" ++ Text.natural index

/-- The names of the outputs of a node. A single declared output has no number of its own. -/
def outputNames (stem : String) (declared : Nat) : OutputCount → List String
  | .declared => if declared = 1 then [namePrefix ++ stem] else numberedOutputs stem declared
  | .exactly count => numberedOutputs stem count

/-- The name of the next node of an operator. -/
def stem (builder : Builder) (operator : String) : String :=
  operator ++ "_" ++ Text.natural (builder.operatorCount operator)

/-- The next node of an operator, with so many outputs declared by its schema. -/
def nodeMessage (builder : Builder) (operator domain : String) (declared : Nat)
    (inputs : List String) (count : OutputCount) (attributes : Attributes) : Message.Node :=
  Node.toMessage {
    name := builder.stem operator
    opType := operator
    domain
    inputs
    outputs := outputNames (builder.stem operator) declared count
    attributes }

end Builder

/-- The building of a graph. -/
abbrev Building := Attempt BuildError Builder

namespace Building

/-- Declares outputs by arguments, or none of them when one cannot be declared. -/
def output (arguments : List Argument) : Building Unit := do
  let outputs ← .ofExcept id (arguments.mapM Builder.Output.ofArgument)
  modify fun builder => builder.declareAll outputs

/-- Adds an initializer, and gives its name. -/
def addInitializer (overflow : Overflow) (tensor : Tensor) : Building String := do
  .ofExcept .invalidInput (checkArray overflow tensor)
  let name := initializerName (← get).graph.initializers.length
  modify fun builder => builder.withInitializers [tensor.toMessage name]
  return name

/-- Accepts inputs that were staged for the initializers that the graph has. -/
def checkCurrent (operator : String) (inputs : Staging) : Building Unit := do
  if inputs.base = (← get).graph.initializers.length then pure ()
  else throw (.invalidInput (.stale operator))

/-- Accepts a node that keeps to a schema. -/
def checkNode (schema : Schema) (node : Message.Node) : Building Unit :=
  match schema.fault? node with
  | some fault => throw (.nonconforming fault)
  | none => pure ()

/-- Adds a node of a schema with staged inputs, and gives it. The initializers of its
inputs, the node and its number enter the graph after all checks. -/
def makeNode (operator domain : String) (version : Int64) (inputs : Staging)
    (count : OutputCount) (attributes : Attributes) : Building Message.Node := do
  let builder ← get
  let schema ← .ofExcept id (builder.schema operator domain version)
  checkCurrent operator inputs
  let node :=
    builder.nodeMessage operator domain schema.outputs.length inputs.names count attributes
  checkNode schema node
  modify fun builder => builder.withInitializers inputs.initializers
  modify fun builder => builder.withNode node
  modify fun builder => builder.counting operator
  return node

/-- Stages arguments for the graph as it is. -/
def collect (arguments : List (Option Argument)) : Building Staging := do
  match Collecting.addAll arguments (← get).stage with
  | (.ok _, inputs) => return inputs
  | (.error fault, _) => throw (.invalidInput fault)

/-- Stages arguments and adds a node of a schema with them. -/
def addNode (operator domain : String) (version : Int64) (arguments : List (Option Argument))
    (count : OutputCount) (attributes : Attributes) : Building Message.Node := do
  let inputs ← collect arguments
  makeNode operator domain version inputs count attributes

end Building

end OnnxForge.Build
