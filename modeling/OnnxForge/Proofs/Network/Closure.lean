import OnnxForge.Network.Tokens
import OnnxForge.Proofs.Network.Compilation
import OnnxForge.Proofs.Network.Execution

/-!
# What functions read

The variables, constants and layers that the function of a network reads come from the nodes of
its graph. There is a constant for each initializer that is read, in the order of first reads,
and a layer for each embedding. If the graph can be executed, every variable is a parameter or
bound by then.
-/

namespace OnnxForge

namespace Network

/-! ## Fields that are read -/

/-- The constant fields that the function of a network reads, in order. -/
def constantReads (network : Network) : List String :=
  network.assignments.flatMap (·.value.constants) ++
    network.returned.flatMap Expression.constants

/-- The layers that the function of a network uses, in order. -/
def layerReads (network : Network) : List String :=
  network.assignments.flatMap (·.value.layers) ++ network.returned.flatMap Expression.layers

variable {setting : Setting} {generators : Generators} {naming : Naming} {node : Node}
  {code : NodeCode} {network : Network}

/-! ## Code of plans -/

namespace Plan.Yields

variable {plan : Plan} {output : String}

theorem name (yields : plan.Yields setting naming output code) :
    code.assignment.name = naming.identifier output := by
  cases yields <;> rfl

/-- What the code reads is what the plan does, besides the layer that it uses. -/
theorem exists_read (yields : plan.Yields setting naming output code) :
    ∃ read : Expression, read.uncloned = setting.named naming.identifier plan.operand ∧
      code.assignment.value.names = read.names ∧
      code.assignment.value.constants = read.constants ∧
      code.assignment.value.layers = (code.layer.map (·.name)).toList ++ read.layers := by
  cases yields with
  | plain same => exact ⟨_, same, rfl, rfl, rfl⟩
  | embedding _ same => exact ⟨_, same, rfl, rfl, rfl⟩

/-- The variables of the code are the computed names of the plan. -/
theorem names (yields : plan.Yields setting naming output code) :
    code.assignment.value.names =
      (plan.names.filter fun name => !setting.isInitializer name).map naming.identifier := by
  rcases yields.exists_read with ⟨read, same, names, _, _⟩
  rw [names, ← Expression.names_uncloned, same, Setting.names_named, Plan.names]

/-- The constants of the code are the names of the plan that are known in advance. -/
theorem constants (yields : plan.Yields setting naming output code)
    (overNames : plan.operand.OverNames) :
    code.assignment.value.constants =
      (plan.names.filter setting.isInitializer).map naming.identifier := by
  rcases yields.exists_read with ⟨read, same, _, constants, _⟩
  rw [constants, ← Expression.constants_uncloned, same,
    Setting.constants_named _ _ overNames.constants, Plan.names]

/-- The layer of the code is the one that it uses. -/
theorem layers (yields : plan.Yields setting naming output code)
    (overNames : plan.operand.OverNames) :
    code.assignment.value.layers = (code.layer.map (·.name)).toList := by
  rcases yields.exists_read with ⟨read, same, _, _, layers⟩
  have none : read.layers = [] := by
    rw [← Expression.layers_uncloned, same, Setting.layers_named, overNames.layers]
  rw [layers, none, List.append_nil]

end Plan.Yields

namespace Made

theorem exists_name (made : Made setting generators naming node code) :
    ∃ output, node.output? 0 = some output ∧ naming.Knows output ∧
      code.assignment.name = naming.identifier output := by
  obtain ⟨_, _, output?, _, knownOutput, yields⟩ := made
  exact ⟨_, output?, knownOutput, yields.name⟩

theorem names (made : Made setting generators naming node code) :
    code.assignment.value.names =
      ((generators.reads setting node).filter fun name => !setting.isInitializer name).map
        naming.identifier := by
  obtain ⟨found, planned, _, _, _, yields⟩ := made
  rw [yields.names, planned.names_eq, Generators.reads_of_find found]

theorem constants (made : Made setting generators naming node code) :
    code.assignment.value.constants =
      ((generators.reads setting node).filter setting.isInitializer).map naming.identifier := by
  obtain ⟨found, planned, _, _, _, yields⟩ := made
  rw [yields.constants planned.overNames, planned.names_eq, Generators.reads_of_find found]

theorem layers (made : Made setting generators naming node code) :
    code.assignment.value.layers = (code.layer.map (·.name)).toList := by
  obtain ⟨_, planned, _, _, _, yields⟩ := made
  exact yields.layers planned.overNames

end Made

/-! ## Constants in order of their first reads -/

/-- Whether no two items become the same. -/
def TellsApart {α β : Type} (f : α → β) (items : List α) : Prop :=
  ∀ first ∈ items, ∀ second ∈ items, f first = f second → first = second

theorem TellsApart.subset {α β : Type} {f : α → β} {items fewer : List α}
    (apart : TellsApart f items) (within : fewer ⊆ items) :
    TellsApart f fewer :=
  fun first isFirst second isSecond => apart first (within isFirst) second (within isSecond)

/-- First occurrences keep their places under a map that tells items apart. -/
theorem eraseDups_map {α β : Type} [BEq α] [LawfulBEq α] [BEq β] [LawfulBEq β] {f : α → β}
    (items : List α) (injective : TellsApart f items) :
    (items.map f).eraseDups = items.eraseDups.map f := by
  match items with
  | [] => rfl
  | first :: rest =>
      rw [List.map_cons, List.eraseDups_cons, List.eraseDups_cons, List.map_cons, List.filter_map]
      have others : rest.filter ((fun item => !item == f first) ∘ f) =
          rest.filter fun item => !item == first := by
        apply List.filter_congr
        intro item member
        have apart := injective item (List.mem_cons_of_mem _ member) first List.mem_cons_self
        by_cases same : item = first
        · simp [same]
        · have different : f item ≠ f first := fun equal => same (apart equal)
          simp [same, different]
      have fewer : (rest.filter fun item => !item == first).length < (first :: rest).length :=
        Nat.lt_succ_of_le (List.length_filter_le _ _)
      rw [others, eraseDups_map (rest.filter fun item => !item == first)]
      exact injective.subset fun item kept => List.mem_cons_of_mem _ (List.mem_filter.mp kept).1
termination_by items.length
decreasing_by exact fewer

theorem eraseDups_concat {α : Type} [DecidableEq α] (items : List α) (item : α) :
    (items ++ [item]).eraseDups =
      if item ∈ items then items.eraseDups else items.eraseDups ++ [item] := by
  rw [List.eraseDups_append, List.removeAll]
  by_cases present : item ∈ items
  · rw [if_pos present, List.filter_cons_of_neg (by simp [present]), List.filter_nil]
    exact List.append_nil _
  · rw [if_neg present, List.filter_cons_of_pos (by simp [present]), List.filter_nil]
    rfl

theorem nodup_eraseDups {α : Type} [DecidableEq α] (items : List α) : items.eraseDups.Nodup := by
  induction items using List.reverseRecOn with
  | nil => exact List.nodup_nil
  | append_singleton earlier item ih =>
      rw [eraseDups_concat]
      split
      next => exact ih
      next absent =>
        refine ih.append (List.nodup_singleton item) ?_
        exact List.disjoint_singleton.mpr (mt List.mem_eraseDups.mp absent)

theorem addConstant_eq (constant : Constant) (constants : List Constant) :
    addConstant constant constants =
      if constant.name ∈ constants.map (·.name) then constants else constants ++ [constant] := by
  rw [addConstant]
  simp only [List.any_eq_true, beq_iff_eq, List.mem_map]

/-- The constant for a name that is known in advance. -/
def Setting.constant? (setting : Setting) (identifier : String → String) (name : String) :
    Option Constant :=
  (setting.initializer? name).map fun tensor =>
    ⟨identifier name, .ofElementType tensor.elementType, tensor⟩

theorem Setting.addRead_eq (identifier : String → String) (constants : List Constant)
    (name : String) :
    setting.addRead identifier constants name =
      (setting.constant? identifier name).elim constants (addConstant · constants) := by
  rw [addRead, constant?]
  cases setting.initializer? name <;> rfl

theorem Setting.name_constant? {identifier : String → String} {name : String}
    {constant : Constant} (found : setting.constant? identifier name = some constant) :
    constant.name = identifier name := by
  rcases Option.map_eq_some_iff.mp found with ⟨tensor, _, rfl⟩
  rfl

theorem Setting.isSome_constant? (identifier : String → String) (name : String) :
    (setting.constant? identifier name).isSome = setting.isInitializer name :=
  Option.isSome_map

/-- The constants of names are told apart by the identifiers. -/
theorem Setting.map_name_constants (identifier : String → String) {names : List String}
    (known : ∀ name ∈ names, setting.isInitializer name = true) :
    (names.filterMap (setting.constant? identifier)).map (·.name) = names.map identifier := by
  induction names with
  | nil => rfl
  | cons name rest ih =>
      have ⟨knownHere, knownRest⟩ := List.forall_mem_cons.mp known
      rw [← setting.isSome_constant? identifier] at knownHere
      rcases Option.isSome_iff_exists.mp knownHere with ⟨constant, found⟩
      rw [List.filterMap_cons_some found, List.map_cons, List.map_cons, ih knownRest,
        name_constant? found]

/-- Reads add one constant for each initializer among the names, at its first read. -/
theorem Setting.foldl_addRead {identifier : String → String} (names : List String)
    (injective : TellsApart identifier names) :
    names.foldl (setting.addRead identifier) [] =
      (names.filter setting.isInitializer).eraseDups.filterMap (setting.constant? identifier) := by
  induction names using List.reverseRecOn with
  | nil => rfl
  | append_singleton earlier name ih =>
      have injectiveEarlier := injective.subset (List.subset_append_left earlier [name])
      let read := earlier.filter setting.isInitializer
      have known : ∀ initializer ∈ read.eraseDups, setting.isInitializer initializer = true :=
        fun initializer member => (List.mem_filter.mp (List.mem_eraseDups.mp member)).2
      rw [List.foldl_append, ih injectiveEarlier, List.foldl_cons, List.foldl_nil, addRead_eq,
        List.filter_append]
      cases found : setting.constant? identifier name with
      | none =>
          have computed : setting.isInitializer name = false := by
            rw [← setting.isSome_constant? identifier, found, Option.isSome_none]
          rw [List.filter_cons_of_neg (by simp [computed]), List.filter_nil, List.append_nil]
          rfl
      | some constant =>
          have initial : setting.isInitializer name = true := by
            rw [← setting.isSome_constant? identifier, found, Option.isSome_some]
          have present : constant.name ∈ (read.eraseDups.filterMap
              (setting.constant? identifier)).map (·.name) ↔ name ∈ read := by
            rw [map_name_constants identifier known, name_constant? found, List.mem_map]
            constructor
            · rintro ⟨other, member, same⟩
              have isRead := List.mem_eraseDups.mp member
              have apart := injective other
                (List.mem_append_left _ (List.mem_filter.mp isRead).1) name
                (List.mem_append_right _ List.mem_cons_self) same
              exact apart ▸ isRead
            · exact fun member => ⟨name, List.mem_eraseDups.mpr member, rfl⟩
          rw [List.filter_cons_of_pos initial, List.filter_nil, eraseDups_concat, Option.elim_some,
            addConstant_eq]
          by_cases again : name ∈ read
          · rw [if_pos (present.mpr again), if_pos again]
          · rw [if_neg (mt present.mp again), if_neg again, List.filterMap_append,
              List.filterMap_cons_some found, List.filterMap_nil]

/-! ## Reads of a compiled function -/

/-- The names that are read for a graph, those of outputs after those of nodes. -/
def Generators.readNames (generators : Generators) (setting : Setting) : List String :=
  setting.graph.nodes.flatMap (generators.reads setting) ++ setting.graph.outputs.map (·.name)

/-- The initializers among the names that are read for a graph, each at its first read. -/
def Generators.readInitializers (generators : Generators) (setting : Setting) : List String :=
  ((generators.readNames setting).filter setting.isInitializer).eraseDups

namespace Compilation

theorem knows_readName (compilation : Compilation setting generators network) {name : String}
    (member : name ∈ generators.readNames setting) :
    compilation.naming.Knows name := by
  rcases List.mem_append.mp member with ofNodes | ofOutputs
  · rcases List.mem_flatMap.mp ofNodes with ⟨node, present, isRead⟩
    exact compilation.knows_read present isRead
  · rcases List.mem_map.mp ofOutputs with ⟨output, isOutput, rfl⟩
    exact compilation.knows_output isOutput

/-- Names that have identifiers are told apart by them. -/
theorem tellsApart (compilation : Compilation setting generators network) {names : List String}
    (known : ∀ name ∈ names, compilation.naming.Knows name) :
    TellsApart compilation.naming.identifier names :=
  fun first isFirst second isSecond =>
    compilation.distinct.identifier_inj (known first isFirst) (known second isSecond)

theorem constants_eq (compilation : Compilation setting generators network) :
    network.constants = (generators.readInitializers setting).filterMap
      (setting.constant? compilation.naming.identifier) := by
  rw [compilation.constants, compilation.generates.constants, compilation.readyConstants,
    ← List.foldl_append]
  exact Setting.foldl_addRead _ (compilation.tellsApart fun _ => compilation.knows_readName)

/-- A quantity of expressions that clones do not change is that of the outputs by name. -/
theorem flatMap_returned (compilation : Compilation setting generators network)
    {quantity : Expression → List String}
    (ofUncloned : ∀ value : Expression, quantity value.uncloned = quantity value) :
    network.returned.flatMap quantity = setting.graph.outputs.flatMap fun output =>
      quantity (setting.named compilation.naming.identifier (.var output.name false)) := by
  rw [← List.flatMap_map (fun output : ValueInfo =>
    setting.named compilation.naming.identifier (.var output.name false)) quantity,
    ← compilation.returned, List.flatMap_map]
  exact List.flatMap_congr fun value _ => (ofUncloned value).symm

/-- The constants that the function reads are those of initializers. -/
theorem constantReads_eq (compilation : Compilation setting generators network) :
    network.constantReads =
      ((generators.readNames setting).filter setting.isInitializer).map
        compilation.naming.identifier := by
  have ofNodes : ∀ {nodes codes},
      List.Forall₂ (Made setting generators compilation.naming) nodes codes →
      codes.flatMap (·.assignment.value.constants) =
        ((nodes.flatMap (generators.reads setting)).filter setting.isInitializer).map
          compilation.naming.identifier := by
    intro nodes codes made
    induction made with
    | nil => rfl
    | cons first _ ih =>
        rw [List.flatMap_cons, List.flatMap_cons, List.filter_append, List.map_append, ih,
          first.constants]
  have ofOutputs : network.returned.flatMap Expression.constants =
      ((setting.graph.outputs.map (·.name)).filter setting.isInitializer).map
        compilation.naming.identifier := by
    rw [compilation.flatMap_returned Expression.constants_uncloned]
    induction setting.graph.outputs with
    | nil => rfl
    | cons output rest ih =>
        rw [List.flatMap_cons, ih, Setting.constants_named _ _ rfl, ← List.map_append,
          Expression.names_var, ← List.filter_append]
        rfl
  rw [constantReads, compilation.assignments, List.flatMap_map, ofNodes compilation.generates.made,
    ofOutputs, Generators.readNames, List.filter_append, List.map_append]

/-- The layers that the function uses are those of its nodes. -/
theorem layerReads_eq (compilation : Compilation setting generators network) :
    network.layerReads = network.layers.map (·.name) := by
  have ofNodes : ∀ {nodes codes},
      List.Forall₂ (Made setting generators compilation.naming) nodes codes →
      codes.flatMap (·.assignment.value.layers) = (codes.filterMap (·.layer)).map (·.name) := by
    intro nodes codes made
    induction made with
    | nil => rfl
    | @cons node code _ _ first _ ih =>
        rw [List.flatMap_cons, ih, first.layers, List.filterMap_cons]
        cases code.layer <;> rfl
  have ofOutputs : network.returned.flatMap Expression.layers = [] := by
    rw [compilation.flatMap_returned Expression.layers_uncloned]
    exact List.flatMap_eq_nil_iff.mpr fun output _ => setting.layers_named _ _
  rw [layerReads, compilation.assignments, List.flatMap_map, ofNodes compilation.generates.made,
    ofOutputs, List.append_nil, compilation.layers]

/-- There is a constant for every initializer that is read, at its first read. -/
theorem map_name_constants (compilation : Compilation setting generators network) :
    network.constants.map (·.name) = network.constantReads.eraseDups := by
  rw [compilation.constantReads_eq, eraseDups_map, compilation.constants_eq,
    Setting.map_name_constants]
  · rfl
  · intro name member
    exact (List.mem_filter.mp (List.mem_eraseDups.mp member)).2
  · exact compilation.tellsApart fun name member =>
      compilation.knows_readName (List.mem_filter.mp member).1

end Compilation

/-! ## Variables -/

/-- Whether an assignment is that of a node. -/
def Assigned (setting : Setting) (generators : Generators) (naming : Naming) (node : Node)
    (assignment : Assignment) : Prop :=
  ∃ code, Made setting generators naming node code ∧ code.assignment = assignment

/-- What is related to a list with an item in it parts at a relative of the item. -/
theorem forall₂_parts {α β : Type} {R : α → β → Prop} {left : List α} {earlier later : List β}
    {item : β} (related : List.Forall₂ R left (earlier ++ item :: later)) :
    ∃ before relative after, left = before ++ relative :: after ∧
      List.Forall₂ R before earlier ∧ R relative item := by
  have front := List.forall₂_take_append left earlier (item :: later) related
  have back := List.forall₂_drop_append left earlier (item :: later) related
  rcases List.forall₂_cons_right_iff.mp back with ⟨relative, after, holds, _, rest⟩
  exact ⟨_, relative, after, by rw [← rest, List.take_append_drop], front, holds⟩

namespace Compilation

variable {compilation : Compilation setting generators network}

theorem assigned (compilation : Compilation setting generators network) :
    List.Forall₂ (Assigned setting generators compilation.naming) setting.graph.nodes
      network.assignments := by
  rw [compilation.assignments, List.forall₂_map_right_iff]
  exact compilation.generates.made.imp fun node code made => ⟨code, made, rfl⟩

/-- A computed value that the graph provides after some nodes is bound by their assignments,
if it is no parameter. -/
theorem bound_of_provides (compilation : Compilation setting generators network)
    {done : List Node} {assignments : List Assignment}
    (assigned : List.Forall₂ (Assigned setting generators compilation.naming) done assignments)
    (single : ∀ node ∈ done, node.outputs.length = 1) {name : String}
    (provided : setting.graph.Provides done name)
    (computed : setting.isInitializer name = false) :
    compilation.naming.identifier name ∈ network.inputs.map (·.name) ∨
      compilation.naming.identifier name ∈ assignments.map (·.name) := by
  rcases provided with isInput | isInitializer | ⟨node, member, isOutput⟩
  · rcases List.mem_map.mp isInput with ⟨info, isInfo, rfl⟩
    rcases exists_of_forall₂ compilation.inputs isInfo with ⟨input, present, declares⟩
    exact .inl (List.mem_map.mpr ⟨input, present, declares.name⟩)
  · have known : setting.isInitializer name = true := isInitializer
    rw [known] at computed
    cases computed
  · rcases exists_of_forall₂ assigned member with ⟨assignment, present, code, made, rfl⟩
    rcases made.exists_name with ⟨output, first, _, named⟩
    rw [Node.outputs_eq (single node member) first] at isOutput
    obtain rfl := List.mem_singleton.mp isOutput
    exact .inr (List.mem_map.mpr ⟨_, present, named⟩)

/-- In a graph that can be executed, every variable that is read is bound by then. -/
theorem closed_variables (compilation : Compilation setting generators network)
    (executable : setting.graph.Executable) :
    (∀ earlier assignment later, network.assignments = earlier ++ assignment :: later →
      ∀ name ∈ assignment.value.names,
        name ∈ network.inputs.map (·.name) ∨ name ∈ earlier.map (·.name)) ∧
    ∀ value ∈ network.returned, ∀ name ∈ value.names,
      name ∈ network.inputs.map (·.name) ∨ name ∈ network.assignments.map (·.name) := by
  constructor
  · intro earlier assignment later split name isRead
    have assigned := compilation.assigned
    rw [split] at assigned
    rcases forall₂_parts assigned with ⟨before, node, after, nodes, early, code, made, rfl⟩
    rw [made.names] at isRead
    rcases List.mem_map.mp isRead with ⟨given, kept, rfl⟩
    rcases List.mem_filter.mp kept with ⟨member, computed⟩
    rcases List.mem_filter.mp ((generators.reads_sublist setting node).mem member) with
      ⟨isInput, present⟩
    have inOrder := executable.inOrder
    rw [nodes] at inOrder
    refine compilation.bound_of_provides early ?_ ?_ (by simpa using computed)
    · intro other isOther
      exact executable.single other (nodes ▸ List.mem_append_left _ isOther)
    · exact inOrder.provides isInput (by simpa using present)
  · intro value member name isRead
    have ofOutput : value.uncloned ∈ setting.graph.outputs.map fun output =>
        setting.named compilation.naming.identifier (.var output.name false) :=
      compilation.returned ▸ List.mem_map_of_mem member
    rcases List.mem_map.mp ofOutput with ⟨output, isOutput, same⟩
    rw [← Expression.names_uncloned, ← same, Setting.names_named] at isRead
    rcases List.mem_map.mp isRead with ⟨given, kept, rfl⟩
    rcases List.mem_filter.mp kept with ⟨isGiven, computed⟩
    obtain rfl := List.mem_singleton.mp isGiven
    exact compilation.bound_of_provides compilation.assigned executable.single
      (executable.returned output isOutput) (by simpa using computed)

end Compilation

/-! ## Fields -/

/-- Whether a node looks up the rows of a table of its own. -/
def Setting.isEmbedding (setting : Setting) (node : Node) : Bool :=
  node.opType == "Gather" && setting.embeddings.contains node.name

/-- Whether a layer starts from what a node and its embedding ask for. -/
def Starts (setting : Setting) (node : Node) (layer : Layer) : Prop :=
  ∃ data embedding, node.input? 0 = some data ∧
    setting.embeddings.get? node.name = some embedding ∧
    Gather.weights setting node data embedding = .ok layer.weights

/-- The node of an embedding has a layer, and no other node does. -/
theorem Made.starts {chosen : List Generator}
    (made : Made setting (.ofGenerators chosen) naming node code) :
    (setting.isEmbedding node = true ∧ ∃ layer, code.layer = some layer ∧
        Starts setting node layer) ∨
      setting.isEmbedding node = false ∧ code.layer = none := by
  obtain ⟨found, planned, _, _, _, yields⟩ := made
  have operator := Generators.operator_eq found
  rw [Setting.isEmbedding, ← operator, Table.contains]
  cases planned with
  | slices hasData hasIndices general =>
      cases yields
      exact .inr ⟨by rw [general]; rfl, rfl⟩
  | lookUp hasData hasIndices configured matrix started =>
      cases yields
      exact .inl ⟨by rw [configured]; rfl, _, rfl, _, _, hasData, configured, started⟩
  | largest =>
      cases yields
      exact .inr ⟨rfl, rfl⟩
  | sums =>
      cases yields
      exact .inr ⟨rfl, rfl⟩

/-- There is a layer for every embedding among the nodes, in their order. -/
theorem starts_layers {chosen : List Generator} {nodes : List Node} {codes : List NodeCode}
    (made : List.Forall₂ (Made setting (.ofGenerators chosen) naming) nodes codes) :
    List.Forall₂ (Starts setting) (nodes.filter setting.isEmbedding)
      (codes.filterMap (·.layer)) := by
  induction made with
  | nil => exact .nil
  | cons first _ ih =>
      rcases first.starts with ⟨isEmbedding, layer, found, starts⟩ | ⟨isOther, none⟩
      · rw [List.filter_cons_of_pos isEmbedding, List.filterMap_cons_some found]
        exact .cons starts ih
      · rw [List.filter_cons_of_neg (by simp [isOther]), List.filterMap_cons_none none]
        exact ih

namespace Compilation

theorem map_name_inputs (compilation : Compilation setting generators network) :
    network.inputs.map (·.name) =
      setting.graph.inputs.map fun info => compilation.naming.identifier info.name := by
  have declares := compilation.inputs
  generalize setting.graph.inputs = infos, network.inputs = inputs at declares ⊢
  induction declares with
  | nil => rfl
  | cons first _ ih => rw [List.map_cons, List.map_cons, first.name, ih]

/-- There is one assignment for each output of a node, if each node has one output. -/
theorem map_name_assignments (compilation : Compilation setting generators network)
    (single : ∀ node ∈ setting.graph.nodes, node.outputs.length = 1) :
    network.assignments.map (·.name) =
      (setting.graph.nodes.flatMap (·.outputs)).map compilation.naming.identifier := by
  have assigned := compilation.assigned
  generalize setting.graph.nodes = nodes, network.assignments = assignments at assigned single ⊢
  induction assigned with
  | nil => rfl
  | cons first _ ih =>
      have ⟨singleHere, singleRest⟩ := List.forall_mem_cons.mp single
      rcases first with ⟨code, made, rfl⟩
      rcases made.exists_name with ⟨output, first, _, named⟩
      rw [List.map_cons, List.flatMap_cons, List.map_append, Node.outputs_eq singleHere first,
        named, ih singleRest]
      rfl

/-- All names in use have identifiers. -/
theorem knows_names (compilation : Compilation setting generators network)
    (single : ∀ node ∈ setting.graph.nodes, node.outputs.length = 1) {name : String}
    (member : name ∈ setting.graph.inputs.map (·.name) ++
      setting.graph.nodes.flatMap (·.outputs) ++ generators.readNames setting) :
    compilation.naming.Knows name := by
  rcases List.mem_append.mp member with defined | isRead
  · rcases List.mem_append.mp defined with isInput | isOutput
    · rcases List.mem_map.mp isInput with ⟨info, isInfo, rfl⟩
      rcases exists_of_forall₂ compilation.inputs isInfo with ⟨_, _, declares⟩
      exact declares.known
    · rcases List.mem_flatMap.mp isOutput with ⟨node, isNode, ofNode⟩
      rcases exists_of_forall₂ compilation.generates.made isNode with ⟨code, _, made⟩
      rcases made.exists_name with ⟨output, first, known, _⟩
      rw [Node.outputs_eq (single node isNode) first] at ofNode
      obtain rfl := List.mem_singleton.mp ofNode
      exact known
  · exact compilation.knows_readName isRead

end Compilation

end Network

end OnnxForge
