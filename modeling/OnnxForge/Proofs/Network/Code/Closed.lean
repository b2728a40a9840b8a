import OnnxForge.Proofs.Network.Fields

/-!
# Closed modules

The code of the network of a graph that can be executed is a module that has all that it reads.
Every variable is a parameter or bound by then, every field is declared and set up, and there is
one field for each embedding and each initializer that is read. All of this is told of what is
read of the code, token by token.
-/

namespace OnnxForge

open Source

namespace Listing

/-- The constant fields that the function reads, in order. -/
def constantReads (listing : Listing) : List String :=
  listing.assignments.flatMap (·.value.constants) ++
    listing.returned.flatMap Network.Expression.constants

/-- The layers that the function uses, in order. -/
def layerReads (listing : Listing) : List String :=
  listing.assignments.flatMap (·.value.layers) ++
    listing.returned.flatMap Network.Expression.layers

/-- Whether a module has all that its function reads. -/
structure Closed (listing : Listing) : Prop where
  /-- Variables are parameters or bound before. -/
  bound : ∀ earlier assignment later,
    listing.assignments = earlier ++ assignment :: later →
      ∀ name ∈ assignment.value.names,
        name ∈ listing.inputs.map (·.name) ∨ name ∈ earlier.map (·.name)
  returnedBound : ∀ value ∈ listing.returned, ∀ name ∈ value.names,
    name ∈ listing.inputs.map (·.name) ∨ name ∈ listing.assignments.map (·.name)
  /-- Layers are fields of their type. -/
  layersDeclared : ∀ field ∈ listing.layerReads, (field, .embedding) ∈ listing.fields
  /-- Constants are fields of some type of tensors. -/
  constantsDeclared : ∀ field ∈ listing.constantReads, ∃ type,
    (field, .parameter type) ∈ listing.fields
  setUp : ∀ field ∈ listing.layerReads ++ listing.constantReads,
    field ∈ listing.setUp.map (·.1)
  /-- The constructor gives a value to each field. -/
  built : listing.built = listing.fields.map (·.1)

/-- How a module comes from a graph, with the identifiers of names, layers and constants. -/
structure Follows (setting : Network.Setting) (generators : Network.Generators)
    (identifier : String → String) (layers : List Network.Layer)
    (constants : List Network.Constant) (listing : Listing) : Prop where
  /-- Names in use have different identifiers. -/
  injective : Network.TellsApart identifier (setting.graph.inputs.map (·.name) ++
    setting.graph.nodes.flatMap (·.outputs) ++ generators.readNames setting)
  inputs : listing.inputs.map (·.name) =
    setting.graph.inputs.map fun info => identifier info.name
  assigned : listing.assignments.map (·.name) =
    (setting.graph.nodes.flatMap (·.outputs)).map identifier
  /-- There is a layer for each embedding, in the order of the nodes. -/
  started : List.Forall₂ (Network.Starts setting) (setting.graph.nodes.filter setting.isEmbedding)
    layers
  layerReads : listing.layerReads = layers.map (·.name)
  /-- There is a constant for each initializer that is read, in the order of first reads. -/
  known : constants =
    (generators.readInitializers setting).filterMap (setting.constant? identifier)
  constantReads : listing.constantReads.eraseDups = constants.map (·.name)
  /-- The fields are those layers and then those constants, before the last two. -/
  fields : listing.fields =
    (layers.map fun layer => (layer.name, .embedding)) ++
      (constants.map fun constant => (constant.name, .parameter constant.type)) ++
      [("phantom", .phantom), ("device", .device)]
  /-- The constructor sets up the constants and then the layers. -/
  setUp : listing.setUp =
    (constants.map fun constant => (constant.name, constant.valueCode)) ++
      layers.map fun layer => (layer.name, layer.valueCode)
  /-- The outputs are returned in order. -/
  returned : listing.returned.map Network.Expression.uncloned =
    setting.graph.outputs.map fun output => setting.named identifier (.var output.name false)

end Listing

namespace Network

variable {setting : Setting} {generators : Generators} {network : Network}

namespace Compilation

theorem listing_closed (compilation : Compilation setting generators network)
    (executable : setting.graph.Executable) :
    network.listing.Closed := by
  have ⟨bound, returnedBound⟩ := compilation.closed_variables executable
  have layers : network.listing.layerReads = network.layers.map (·.name) :=
    compilation.layerReads_eq
  have constants : ∀ field ∈ network.listing.constantReads,
      field ∈ network.constants.map (·.name) := by
    intro field member
    rw [compilation.map_name_constants, List.mem_eraseDups]
    exact member
  refine ⟨bound, returnedBound, fun field member => ?_, fun field member => ?_,
    fun field member => ?_, ?_⟩
  · rw [layers] at member
    rcases List.mem_map.mp member with ⟨layer, isLayer, rfl⟩
    exact List.mem_append_left _ (List.mem_append_left _ (List.mem_map_of_mem isLayer))
  · rcases List.mem_map.mp (constants field member) with ⟨constant, isConstant, rfl⟩
    exact ⟨constant.type, List.mem_append_left _ (List.mem_append_right _
      (List.mem_map_of_mem isConstant))⟩
  · rw [layers] at member
    rw [listing, List.map_append, List.map_map, List.map_map]
    exact List.mem_append.mpr ((List.mem_append.mp member).symm.imp_left (constants field))
  · rw [listing, fields, List.map_append, List.map_append, List.map_append, List.map_map,
      List.map_map, List.map_map, List.map_map]
    rfl

theorem listing_follows {chosen : List Generator}
    (compilation : Compilation setting (.ofGenerators chosen) network)
    (executable : setting.graph.Executable) :
    network.listing.Follows setting (.ofGenerators chosen) compilation.naming.identifier
      network.layers network.constants where
  injective := compilation.tellsApart fun _ => compilation.knows_names executable.single
  inputs := compilation.map_name_inputs
  assigned := compilation.map_name_assignments executable.single
  started := compilation.layers ▸ starts_layers compilation.generates.made
  layerReads := compilation.layerReads_eq
  known := compilation.constants_eq
  constantReads := compilation.map_name_constants.symm
  fields := rfl
  setUp := rfl
  returned := compilation.returned

end Compilation

/-- The code of the network of a graph that can be executed is a closed module, with one field
for each embedding and for each initializer that is read, which returns the outputs in order. -/
theorem network_closed {chosen : List Generator} (executable : setting.graph.Executable)
    (compiled : ofGraph setting (.ofGenerators chosen) = .ok network) (layout : Layout) :
    ∃ listing, module? (network.code layout) = some listing ∧ listing.Closed ∧
      ∃ identifier layers constants,
        listing.Follows setting (.ofGenerators chosen) identifier layers constants := by
  obtain ⟨compilation⟩ := Compilation.of_ofGraph compiled
  exact ⟨network.listing, module?_of_ofGraph compiled layout,
    compilation.listing_closed executable, _, _, _, compilation.listing_follows executable⟩

/-- A matrix of numbers. -/
def rowsTensor : Tensor := ⟨.float32, [3, 2], .float32 [0, 1, 2, 3, 4, 5]⟩

/-- Two positions. -/
def picksTensor : Tensor := ⟨.int64, [2], .int64 [2, 0]⟩

/-- A graph with an embedding that starts from a matrix, which is also gathered from and
returned, and with positions that two nodes share. -/
def lookingUp : Setting where
  graph := {
    name := "lookingUp"
    nodes := [
      ⟨"embed", "Gather", "", ["rows", "ids"], ["found"], .empty⟩,
      ⟨"pick", "Gather", "", ["found", "picks"], ["picked"], .empty⟩,
      ⟨"sum", "ReduceSum", "", ["picked", "axes"], ["total"], .ofList [("keepdims", .int 0)]⟩,
      ⟨"slice", "Gather", "", ["rows", "picks"], ["slices"], .empty⟩]
    inputs := [⟨"ids", some .int64, some [.size 4, .size 5]⟩]
    outputs := [
      ⟨"total", none, none⟩, ⟨"rows", none, none⟩, ⟨"picks", none, none⟩, ⟨"slices", none, none⟩]
    valueInfos := .ofList [("ids", ⟨"ids", some .int64, some [.size 4, .size 5]⟩)]
    initializers := .ofList [
      ("rows", rowsTensor), ("picks", picksTensor), ("axes", ⟨.int64, [1], .int64 [1]⟩)]
    opsetVersion := none }
  embeddings := .ofList [("embed", ⟨3, 2⟩)]

/-- The axes are no field, since they are not read. -/
theorem lookingUp_closed :
    lookingUp.graph.Executable ∧
      ∃ network, ofGraph lookingUp (.ofGenerators Generator.all) = .ok network ∧
        network.layers = [⟨"embed", .given rowsTensor⟩] ∧
        network.constants = [⟨"picks", .int, picksTensor⟩, ⟨"rows", .float, rowsTensor⟩] ∧
        ∀ layout, ∃ listing, module? (network.code layout) = some listing ∧ listing.Closed ∧
          ∃ identifier layers constants,
            listing.Follows lookingUp (.ofGenerators Generator.all) identifier layers
              constants := by
  let network : Network := {
    inputs := [⟨"ids", ⟨2, .int⟩⟩]
    results := [⟨2, .float⟩, ⟨2, .float⟩, ⟨1, .int⟩, ⟨2, .float⟩]
    layers := [⟨"embed", .given rowsTensor⟩]
    constants := [⟨"picks", .int, picksTensor⟩, ⟨"rows", .float, rowsTensor⟩]
    assignments := [
      ⟨"found", .embed "embed" (.var "ids" false)⟩,
      ⟨"picked", .select (.var "found" false) 0 (.constant "picks")⟩,
      ⟨"total", .squeeze (.sumAlong (.var "picked" false) 1) 2 [1]⟩,
      ⟨"slices", .select (.constant "rows") 0 (.constant "picks")⟩]
    returned := [.var "total" false, .constant "rows", .constant "picks", .var "slices" false] }
  have executable : lookingUp.graph.Executable := ⟨by decide, by decide, by decide, by decide⟩
  have compiled : ofGraph lookingUp (.ofGenerators Generator.all) = .ok network := by
    decide +kernel
  exact ⟨executable, network, compiled, rfl, rfl, network_closed executable compiled⟩

end Network

end OnnxForge
