import OnnxForge.Proofs.Atomicity
import OnnxForge.Proofs.Network.Closure
import OnnxForge.Proofs.Network.Code.Networks
import OnnxForge.Proofs.Network.Proper

/-!
# Fields of a network

The structure of a network has a field for each embedding and for each constant, and two more.
Embeddings are told apart by the names that their nodes go by: their own, or the operator with
a number if they have none. The fields are distinct exactly when these names are. A constant
has the identifier of a tensor, which no node has, and the words for the last two fields are
reserved.
-/

namespace OnnxForge.Network

open Attempt Source Token

/-! ## Names that nodes go by -/

namespace Naming

/-- How many nodes of an operator without a name have been met. -/
def unnamedOf (naming : Naming) (operator : String) : Nat :=
  (naming.unnamed.get? operator).getD 0

/-- The name that a node goes by when it is met. -/
def keyOf (naming : Naming) (name operator : String) : String :=
  if name = "" then operator ++ Text.natural (naming.unnamedOf operator + 1) else name

/-- The identifier of a node by the name that it goes by. -/
def layer (naming : Naming) (key : String) : String :=
  (naming.nodes.get? key).getD ""

/-- Whether a node by that name has an identifier. -/
def Holds (naming : Naming) (key : String) : Prop :=
  naming.nodes.get? key = some (naming.layer key)

variable {naming before after : Naming}

theorem get?_node (naming : Naming) (name operator : String) :
    (naming.node name operator).2.nodes.get? (naming.keyOf name operator) =
      some (naming.node name operator).1 := by
  rw [node, keyOf]
  split <;> exact get?_key _ _

theorem unnamed_key (naming : Naming) (name : String) :
    (naming.key name).2.unnamed = naming.unnamed := by
  rw [key]
  split <;> rfl

theorem unnamedOf_node (naming : Naming) (name operator : String) :
    (naming.node name operator).2.unnamedOf operator =
      naming.unnamedOf operator + if name = "" then 1 else 0 := by
  rw [node, unnamedOf]
  split
  · rw [unnamed_key, Table.get?_insert, if_pos rfl]
    rfl
  · rw [unnamed_key]
    rfl

theorem Grows.layer_node {name operator : String}
    (grows : (naming.node name operator).2.Grows after) :
    after.Holds (naming.keyOf name operator) ∧
      after.layer (naming.keyOf name operator) = (naming.node name operator).1 := by
  have held := grows.nodes (naming.get?_node name operator)
  rw [Holds, layer, held]
  exact ⟨rfl, rfl⟩

theorem NamesTensors.unnamedOf (names : before.NamesTensors after) (operator : String) :
    after.unnamedOf operator = before.unnamedOf operator := by
  rw [Naming.unnamedOf, names.unnamed]
  rfl

/-- Different nodes have different identifiers. -/
theorem Distinct.layer_inj (distinct : naming.Distinct) {first second : String}
    (firstHolds : naming.Holds first) (secondHolds : naming.Holds second)
    (same : naming.layer first = naming.layer second) :
    first = second := by
  have holders : Holder.node first = Holder.node second :=
    distinct.holder_inj firstHolds (same ▸ secondHolds)
  exact Holder.node.inj holders

end Naming

/-! ## Layers of nodes -/

variable {setting : Setting} {naming : Naming} {node : Node} {before after : Progress}
  {code : NodeCode} {network : Network}

/-- The layer of a node that has one is named first, and then tensors are. -/
inductive Layered (setting : Setting) (node : Node) (before : Naming) :
    NodeCode → Naming → Prop where
  | plain {assignment : Assignment} {after : Naming}
      (isOther : setting.isEmbedding node = false)
      (names : before.NamesTensors after) :
      Layered setting node before ⟨none, assignment⟩ after
  | embedding {weights : Weights} {assignment : Assignment} {after : Naming}
      (isEmbedding : setting.isEmbedding node = true)
      (names : (before.node node.name "Gather").2.NamesTensors after) :
      Layered setting node before
        ⟨some ⟨(before.node node.name "Gather").1, weights⟩, assignment⟩ after

theorem Setting.opType_of_isEmbedding (embedding : setting.isEmbedding node = true) :
    node.opType = "Gather" :=
  eq_of_beq (Bool.and_eq_true_iff.mp embedding).1

theorem generateNode_layered {chosen : List Generator} {position : Nat}
    (run : generateNode setting (.ofGenerators chosen) node position before = (.ok code, after)) :
    Layered setting node before.naming code after.naming := by
  rcases generateNode_eq_ok.mp run with ⟨_, generator, plan, found, planned, performed⟩
  rcases Plan.perform_eq_ok performed (.refl _) with ⟨output, output?, step⟩
  have made : Made setting (.ofGenerators chosen) after.naming node code :=
    .of_plan found (Generator.plan_planned planned) output? step.knownNames step.knownOutput
      step.yields
  cases plan with
  | plain template known =>
      rcases code with ⟨layer, assignment⟩
      have names := NamesTensors.plain performed
      rcases made.starts with ⟨_, _, isLayer, _⟩ | ⟨isOther, none⟩
      · cases step.yields
        cases isLayer
      · cases none
        exact .plain isOther names
  | embedding weights template =>
      rcases bind_eq_ok.mp performed with ⟨layer, begun, named, rest⟩
      rcases bind_eq_ok.mp rest with ⟨index, between, reading, following⟩
      rcases finish_eq_ok.mp following with ⟨output, _, rfl, rfl⟩
      have names := NamesTensors.instantiate setting node.name template begun
      rw [reading] at names
      rcases made.starts with ⟨isEmbedding, _⟩ | ⟨_, none⟩
      · cases named
        rw [Setting.opType_of_isEmbedding isEmbedding] at names ⊢
        exact .embedding isEmbedding (names.trans (.tensor between.naming output))
      · cases none

/-! ## Layers in a row -/

/-- The names that embeddings go by, when some without a name came before. -/
def keysFrom (unnamed : Nat) : List Node → List String
  | [] => []
  | node :: rest =>
    if node.name = "" then
      ("Gather" ++ Text.natural (unnamed + 1)) :: keysFrom (unnamed + 1) rest
    else node.name :: keysFrom unnamed rest

theorem keysFrom_cons (before : Naming) (node : Node) (rest : List Node) :
    keysFrom (before.unnamedOf "Gather") (node :: rest) =
      before.keyOf node.name "Gather" ::
        keysFrom ((before.node node.name "Gather").2.unnamedOf "Gather") rest := by
  rw [keysFrom, Naming.keyOf, Naming.unnamedOf_node]
  split <;> rfl

/-- The layers of nodes have the identifiers of the names that the embeddings among them go
by. -/
theorem layers_of_mapM {chosen : List Generator} {nodes : List Node} {position : Nat}
    {codes : List NodeCode}
    (run : ((nodes.zipIdx position).mapM fun (node, position) =>
      generateNode setting (.ofGenerators chosen) node position) before = (.ok codes, after))
    (later : after.naming.Grows naming) :
    let keys := keysFrom (before.naming.unnamedOf "Gather") (nodes.filter setting.isEmbedding)
    (codes.filterMap (·.layer)).map (·.name) = keys.map naming.layer ∧
      ∀ key ∈ keys, naming.Holds key := by
  induction nodes generalizing position before codes with
  | nil =>
      cases run
      exact ⟨rfl, List.forall_mem_nil _⟩
  | cons node rest ih =>
      rw [List.zipIdx_cons] at run
      rcases mapM_cons_eq_ok.mp run with ⟨code, others, between, generated, following, rfl⟩
      have ⟨names, holds⟩ := ih following
      have grows := (generates_of_mapM following later).grows.trans later
      cases generateNode_layered generated with
      | plain isOther tensors =>
          rw [tensors.unnamedOf] at names holds
          rw [List.filter_cons_of_neg (by simp [isOther])]
          exact ⟨names, holds⟩
      | embedding isEmbedding tensors =>
          have stays := tensors.grows.trans grows
          rw [tensors.unnamedOf] at names holds
          rw [List.filter_cons_of_pos isEmbedding, keysFrom_cons]
          have ⟨held, same⟩ := stays.layer_node
          exact ⟨congrArg₂ List.cons same.symm names, List.forall_mem_cons.mpr ⟨held, holds⟩⟩

/-! ## Names that tell embeddings apart -/

/-- How many nodes have no name. -/
def unnamedCount (nodes : List Node) : Nat :=
  nodes.countP fun node => node.name == ""

/-- Whether nodes have different names, if they have any, none of which is one that those
without a name go by. -/
structure ToldApart (nodes : List Node) : Prop where
  named : ((nodes.map (·.name)).filter (· != "")).Nodup
  unnamed : ∀ node ∈ nodes, ∀ number < unnamedCount nodes,
    node.name ≠ "Gather" ++ Text.natural (number + 1)

/-- Nodes go by their names, and those without one by numbers that follow each other. -/
theorem perm_keysFrom (unnamed : Nat) (nodes : List Node) :
    (keysFrom unnamed nodes).Perm ((nodes.map (·.name)).filter (· != "") ++
      (List.range' unnamed (unnamedCount nodes)).map fun number =>
        "Gather" ++ Text.natural (number + 1)) := by
  induction nodes generalizing unnamed with
  | nil => exact .refl _
  | cons node rest ih =>
      rw [keysFrom, unnamedCount, List.map_cons]
      by_cases missing : node.name = ""
      · rw [if_pos missing, List.countP_cons_of_pos (by simp [missing]),
          List.filter_cons_of_neg (by simp [missing]), List.range'_succ, List.map_cons]
        exact ((ih (unnamed + 1)).cons _).trans List.perm_middle.symm
      · rw [if_neg missing, List.countP_cons_of_neg (by simp [missing]),
          List.filter_cons_of_pos (by simp [missing])]
        exact (ih unnamed).cons _

/-- The names that nodes go by are distinct if the nodes are told apart, and only then. -/
theorem nodup_keysFrom_iff (nodes : List Node) :
    (keysFrom 0 nodes).Nodup ↔ ToldApart nodes := by
  have numbered : ((List.range' 0 (unnamedCount nodes)).map fun number =>
      "Gather" ++ Text.natural (number + 1)).Nodup := by
    refine List.Nodup.map ?_ List.nodup_range'
    intro first second same
    exact Nat.succ.inj (Text.natural_injective ((String.append_right_inj _).mp same))
  rw [(perm_keysFrom 0 nodes).nodup_iff, List.nodup_append]
  simp only [List.mem_filter, List.mem_map, List.mem_range'_1, Nat.zero_le, Nat.zero_add, true_and,
    bne_iff_ne]
  constructor
  · rintro ⟨named, -, apart⟩
    refine ⟨named, fun node member number within same => ?_⟩
    have present : node.name ≠ "" := by
      rw [same]
      exact fun empty => absurd (congrArg String.length empty) (by simp)
    exact apart _ ⟨⟨node, member, rfl⟩, present⟩ _ ⟨number, within, rfl⟩ same
  · rintro ⟨named, unnamed⟩
    refine ⟨named, numbered, ?_⟩
    rintro _ ⟨⟨node, member, rfl⟩, -⟩ _ ⟨number, within, rfl⟩
    exact unnamed node member number within

/-! ## Whole networks -/

/-- The names that the embeddings of a graph go by. -/
def Setting.keys (setting : Setting) : List String :=
  keysFrom 0 (setting.graph.nodes.filter setting.isEmbedding)

theorem Stages.layers_eq {chosen : List Generator}
    (stages : Stages setting (.ofGenerators chosen) network) :
    network.layers.map (·.name) = setting.keys.map stages.final.naming.layer ∧
      ∀ key ∈ setting.keys, stages.final.naming.Holds key := by
  have ⟨ahead, following⟩ := stages.namesTensors
  have named := layers_of_mapM stages.generating following.grows
  have none : stages.ready.naming.unnamedOf "Gather" = 0 := ahead.unnamedOf "Gather"
  rw [none] at named
  rw [stages.layers]
  exact named

namespace Compilation

theorem nodup_constants {generators : Generators}
    (compilation : Compilation setting generators network) :
    (network.constants.map (·.name)).Nodup := by
  rw [compilation.map_name_constants]
  exact nodup_eraseDups _

theorem exists_knows_constant {generators : Generators}
    (compilation : Compilation setting generators network) {field : String}
    (member : field ∈ network.constants.map (·.name)) :
    ∃ name, compilation.naming.Knows name ∧ compilation.naming.identifier name = field := by
  rw [compilation.map_name_constants, List.mem_eraseDups, compilation.constantReads_eq] at member
  rcases List.mem_map.mp member with ⟨name, isRead, rfl⟩
  exact ⟨name, compilation.knows_readName (List.mem_filter.mp isRead).1, rfl⟩

end Compilation

/-! ## Fields -/

namespace Naming

/-- Layers, constants and reserved words do not meet. Layers with different names differ, and
so do all fields if the constants do. -/
theorem Distinct.nodup_fields_iff (distinct : naming.Distinct) (proper : naming.Proper)
    {keys constants : List String} (holds : ∀ key ∈ keys, naming.Holds key)
    (known : ∀ field ∈ constants, ∃ name, naming.Knows name ∧ naming.identifier name = field)
    (nodup : constants.Nodup) :
    (keys.map naming.layer ++ (constants ++ ["phantom", "device"])).Nodup ↔ keys.Nodup := by
  have unreserved : ∀ holder {identifier}, naming.held? holder = some identifier →
      identifier ∉ ["phantom", "device"] := by
    intro holder identifier held isWord
    have isReserved : ∀ word ∈ ["phantom", "device"], word ∈ reserved := by decide
    exact (proper identifier (mem_taken held)).unreserved (isReserved identifier isWord)
  have rest : (constants ++ ["phantom", "device"]).Nodup := by
    refine nodup.append (by decide) fun field isConstant => ?_
    rcases known field isConstant with ⟨name, knows, rfl⟩
    exact unreserved (.tensor name) knows
  have apart : (keys.map naming.layer).Disjoint (constants ++ ["phantom", "device"]) := by
    intro field isLayer isOther
    rcases List.mem_map.mp isLayer with ⟨key, isKey, rfl⟩
    rcases List.mem_append.mp isOther with isConstant | isWord
    · rcases known _ isConstant with ⟨name, knows, same⟩
      exact distinct.identifier_ne_node knows (holds key isKey) same
    · exact unreserved (.node key) (holds key isKey) isWord
  constructor
  · intro all
    exact (List.nodup_append.mp all).1.of_map
  · intro different
    refine List.Nodup.append ?_ rest apart
    exact different.map_on fun first isFirst second isSecond =>
      distinct.layer_inj (holds first isFirst) (holds second isSecond)

end Naming

/-- The fields that the code of a network declares are distinct if its embeddings have different
names, none of which is one that an embedding without a name goes by, and only then. -/
theorem fields_distinct_iff {chosen : List Generator}
    (compiled : ofGraph setting (.ofGenerators chosen) = .ok network) :
    ((network.declarations.map (·.1)).Nodup ↔
      ToldApart (setting.graph.nodes.filter setting.isEmbedding)) ∧
    ∀ layout, ∃ listing, module? (network.code layout) = some listing ∧
      listing.fields.map (·.1) = network.declarations.map (·.1) := by
  rcases ofGraph_eq_ok.mp compiled with ⟨stages⟩
  rcases stages.exists_compilation with ⟨compilation, same⟩
  have ⟨layers, holds⟩ := stages.layers_eq
  have proper := stages.proper
  rw [← same] at layers holds proper
  constructor
  · rw [map_fst_declarations, layers, ← nodup_keysFrom_iff]
    exact compilation.distinct.nodup_fields_iff proper holds
      (fun field => compilation.exists_knows_constant) compilation.nodup_constants
  · intro layout
    refine ⟨_, module?_of_ofGraph compiled layout, ?_⟩
    rw [declarations_eq, List.map_map]
    rfl

/-- A graph that looks rows of a table up once for each of some names, under which all of its
nodes are embeddings. -/
def lookUps (names : List String) : Setting where
  graph := {
    name := "lookUps"
    nodes := names.zipIdx.map fun (name, index) =>
      ⟨name, "Gather", "", ["table", "ids"], ["rows" ++ Text.natural index], .empty⟩
    inputs := [
      ⟨"table", some .float32, some [.size 4, .size 2]⟩,
      ⟨"ids", some .int64, some [.size 3, .size 3]⟩]
    outputs := names.zipIdx.map fun (_, index) => ⟨"rows" ++ Text.natural index, none, none⟩
    valueInfos := .ofList [
      ("table", ⟨"table", some .float32, some [.size 4, .size 2]⟩),
      ("ids", ⟨"ids", some .int64, some [.size 3, .size 3]⟩)]
    initializers := .empty
    opsetVersion := none }
  embeddings := .ofList (names.map fun name => (name, ⟨4, 2⟩))

/-- The network of such a graph, with the fields of its embeddings. -/
def lookedUp (fields : List String) : Network where
  inputs := [⟨"table", ⟨2, .float⟩⟩, ⟨"ids", ⟨2, .int⟩⟩]
  results := fields.map fun _ => ⟨3, .float⟩
  layers := fields.map fun field => ⟨field, .fresh 4 2⟩
  constants := []
  assignments := fields.zipIdx.map fun (field, index) =>
    ⟨"rows" ++ Text.natural index, .embed field (.var "ids" (index + 1 < fields.length))⟩
  returned := fields.zipIdx.map fun (_, index) => .var ("rows" ++ Text.natural index) false

theorem unnamed_fields_distinct :
    ofGraph (lookUps ["rows", "", ""]) (.ofGenerators Generator.all) =
        .ok (lookedUp ["rows", "gather1", "gather2"]) ∧
      ToldApart ((lookUps ["rows", "", ""]).graph.nodes.filter
        (lookUps ["rows", "", ""]).isEmbedding) ∧
      ((lookedUp ["rows", "gather1", "gather2"]).declarations.map (·.1)).Nodup ∧
      ∀ layout, ∃ listing,
        module? ((lookedUp ["rows", "gather1", "gather2"]).code layout) = some listing ∧
          (listing.fields.map (·.1)).Nodup := by
  have compiled : ofGraph (lookUps ["rows", "", ""]) (.ofGenerators Generator.all) =
      .ok (lookedUp ["rows", "gather1", "gather2"]) := by
    decide +kernel
  have apart : ToldApart ((lookUps ["rows", "", ""]).graph.nodes.filter
      (lookUps ["rows", "", ""]).isEmbedding) :=
    ⟨by decide +kernel, by decide +kernel⟩
  have ⟨distinct, told⟩ := fields_distinct_iff compiled
  refine ⟨compiled, apart, distinct.mpr apart, fun layout => ?_⟩
  rcases told layout with ⟨listing, read, same⟩
  exact ⟨listing, read, same ▸ distinct.mpr apart⟩

/-- A node without a name is given the field of a node that has the name it goes by. -/
theorem unnamed_field_repeated :
    ofGraph (lookUps ["Gather1", ""]) (.ofGenerators Generator.all) =
        .ok (lookedUp ["gather1", "gather1"]) ∧
      ¬ ((lookedUp ["gather1", "gather1"]).declarations.map (·.1)).Nodup ∧
      ∀ layout, ∃ listing,
        module? ((lookedUp ["gather1", "gather1"]).code layout) = some listing ∧
          listing.fields.map (·.1) = ["gather1", "gather1", "phantom", "device"] := by
  have compiled : ofGraph (lookUps ["Gather1", ""]) (.ofGenerators Generator.all) =
      .ok (lookedUp ["gather1", "gather1"]) := by
    decide +kernel
  refine ⟨compiled, ?_, fun layout => ⟨_, module?_of_ofGraph compiled layout, rfl⟩⟩
  rw [map_fst_declarations]
  decide

end OnnxForge.Network
