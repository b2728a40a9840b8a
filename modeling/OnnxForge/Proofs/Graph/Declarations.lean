import OnnxForge.Proofs.Graph.RoundTrip

/-!
# Declarations of a model

A model declares values among the inputs, the outputs and the values between them. All
declarations go into one table, from which the inputs and outputs of the graph are then
taken. A value that is declared more than once is thus what its last declaration says, also
where an earlier one stands.
-/

namespace OnnxForge

/-! ## The last declaration of a name -/

namespace Message.Graph

/-- The declarations of a graph in the order in which they are read. -/
def declarations (graph : Graph) : List ValueInfo :=
  graph.inputs ++ graph.outputs ++ graph.valueInfos

/-- What the graph declares last of the name that a declaration is about. -/
def lastDeclaration (graph : Graph) (message : ValueInfo) : ValueInfo :=
  (graph.declarations.reverse.find? fun other => other.name == message.name).getD message

/-- The inputs that are to be fed: those that no initializer is named for. -/
def fedInputs (graph : Graph) : List ValueInfo :=
  graph.inputs.filter fun input =>
    !graph.initializers.any fun initializer => initializer.name == input.name

theorem find?_lastDeclaration {graph : Graph} {message : ValueInfo}
    (member : message ∈ graph.declarations) :
    graph.declarations.reverse.find? (fun other => other.name == message.name) =
      some (graph.lastDeclaration message) := by
  rw [lastDeclaration]
  cases found : graph.declarations.reverse.find? fun other => other.name == message.name with
  | none =>
      have different := List.find?_eq_none.mp found message (List.mem_reverse.mpr member)
      simp at different
  | some last => rfl

end Message.Graph

namespace ValueInfo

/-- A declaration keeps its name. -/
theorem name_of_ofMessage {message : Message.ValueInfo} {info : ValueInfo}
    (accepted : ofMessage message = .ok info) :
    info.name = message.name := by
  rw [ofMessage] at accepted
  split at accepted
  · cases accepted
    rfl
  · dsimp only at accepted
    split at accepted
    · cases accepted
      rfl
    · rcases Attempt.outcome_bind_eq_ok.mp accepted with ⟨_, _, done⟩
      cases done
      rfl

/-- Under a name is the first of the values that are declared by that name. -/
theorem lookup_of_find? {messages : List Message.ValueInfo} {infos : List ValueInfo}
    (accepted : List.Forall₂ (fun message info => ofMessage message = .ok info) messages infos)
    {name : String} {message : Message.ValueInfo}
    (found : messages.find? (fun other => other.name == name) = some message) :
    ∃ info, ofMessage message = .ok info ∧
      (infos.map fun info => (info.name, info)).lookup name = some info := by
  induction accepted with
  | nil => cases found
  | @cons first info rest others converted _ ih =>
      have same := name_of_ofMessage converted
      rw [List.map_cons, Table.lookup_cons]
      by_cases named : first.name = name
      · rw [List.find?_cons_of_pos (by simpa using named)] at found
        cases found
        exact ⟨info, converted, if_pos (named.symm.trans same.symm)⟩
      · rw [List.find?_cons_of_neg (by simpa using named)] at found
        rw [if_neg fun equal => named (same.symm.trans equal.symm)]
        exact ih found

end ValueInfo

namespace Graph

variable {model : Message.Model} {graph : Graph}

/-- What a table of declarations holds of a name is what was declared last. -/
theorem get?_declarations {message : Message.Graph} {infos : List ValueInfo}
    (accepted : message.declarations.mapM ValueInfo.ofMessage = .ok infos)
    {value : Message.ValueInfo} (member : value ∈ message.declarations) :
    ∃ info, ValueInfo.ofMessage (message.lastDeclaration value) = .ok info ∧
      (Table.ofList (infos.map fun info => (info.name, info))).get? value.name = some info := by
  have related := List.rel_reverse (mapM_eq_ok_iff.mp accepted)
  have found := Message.Graph.find?_lastDeclaration member
  rw [Table.get?_ofList, ← List.map_reverse]
  exact ValueInfo.lookup_of_find? related found

/-- What is taken from a table of declarations is what was declared last of each name. -/
theorem mapM_lastDeclaration {message : Message.Graph} {infos : List ValueInfo}
    (accepted : message.declarations.mapM ValueInfo.ofMessage = .ok infos)
    {values : List Message.ValueInfo} (declared : ∀ value ∈ values, value ∈ message.declarations) :
    (values.map message.lastDeclaration).mapM ValueInfo.ofMessage =
      .ok (Graph.declared (.ofList (infos.map fun info => (info.name, info))) values) := by
  induction values with
  | nil => rfl
  | cons value rest ih =>
      have ⟨first, others⟩ := List.forall_mem_cons.mp declared
      rcases get?_declarations accepted first with ⟨info, converted, known⟩
      have taken : Graph.declared (.ofList (infos.map fun info => (info.name, info)))
          (value :: rest) = info :: Graph.declared _ rest :=
        List.filterMap_cons_some known
      rw [List.map_cons, List.mapM_cons, converted, ih others, taken]
      rfl

/-- A model is taken when its initializers, its declarations and its nodes are. -/
theorem ofMessage_eq_ok_iff :
    ofMessage model = .ok graph ↔
      ∃ initializers infos nodes,
        (model.graph.getD {}).initializers.mapM initializerOf = .ok initializers ∧
        (model.graph.getD {}).declarations.mapM ValueInfo.ofMessage = .ok infos ∧
        (model.graph.getD {}).nodes.mapM Node.ofMessage = .ok nodes ∧
        graph =
          { name := (model.graph.getD {}).name
            nodes
            inputs := declared (.ofList (infos.map fun info => (info.name, info)))
              ((model.graph.getD {}).inputs.filter fun input =>
                !(Table.ofList initializers).contains input.name)
            outputs := declared (.ofList (infos.map fun info => (info.name, info)))
              (model.graph.getD {}).outputs
            valueInfos := .ofList (infos.map fun info => (info.name, info))
            initializers := .ofList initializers
            opsetVersion :=
              (model.opsetImport.find? fun opset => isDefaultDomain opset.domain).map
                (·.version) } := by
  constructor
  · intro accepted
    rcases Attempt.outcome_bind_eq_ok.mp accepted with ⟨initializers, stored, declaring⟩
    rcases Attempt.outcome_bind_eq_ok.mp declaring with ⟨infos, typed, making⟩
    rcases Attempt.outcome_bind_eq_ok.mp making with ⟨nodes, made, done⟩
    exact ⟨initializers, infos, nodes, stored, typed, made, (Except.ok.inj done).symm⟩
  · rintro ⟨initializers, infos, nodes, stored, typed, made, rfl⟩
    refine Attempt.outcome_bind_eq_ok.mpr ⟨initializers, stored, ?_⟩
    refine Attempt.outcome_bind_eq_ok.mpr ⟨infos, typed, ?_⟩
    exact Attempt.outcome_bind_eq_ok.mpr ⟨nodes, made, rfl⟩

/-- An initializer keeps its name. -/
theorem name_of_initializerOf {message : Message.Tensor} {entry : String × Tensor}
    (accepted : initializerOf message = .ok entry) :
    entry.1 = message.name := by
  rw [initializerOf] at accepted
  cases read : Tensor.ofMessage message with
  | error fault =>
      rw [read] at accepted
      cases accepted
  | ok tensor =>
      rw [read] at accepted
      cases accepted
      rfl

/-- The names of initializers are those in their table. -/
theorem contains_initializers {messages : List Message.Tensor}
    {initializers : List (String × Tensor)}
    (stored : messages.mapM initializerOf = .ok initializers) (name : String) :
    (Table.ofList initializers).contains name =
      messages.any fun message => message.name == name := by
  have names : initializers.map (·.1) = messages.map (·.name) :=
    map_eq_of_mapM_eq_ok name_of_initializerOf stored
  rw [Table.contains_ofList]
  change initializers.any ((· == name) ∘ (·.1)) = messages.any ((· == name) ∘ (·.name))
  rw [← List.any_map, ← List.any_map, names]

/-- The values taken from the table of declarations are what their own entries declare
exactly if the last declaration of each name is read like that entry. -/
theorem mapM_own_iff {message : Message.Graph} {values : List Message.ValueInfo}
    {taken : List ValueInfo}
    (last : (values.map message.lastDeclaration).mapM ValueInfo.ofMessage = .ok taken) :
    values.mapM ValueInfo.ofMessage = .ok taken ↔
      ∀ value ∈ values,
        ValueInfo.ofMessage (message.lastDeclaration value) = ValueInfo.ofMessage value := by
  rw [List.mapM_map] at last
  exact mapM_eq_ok_iff_agree last

/-- The inputs and outputs of a model that is taken are what is declared last under their
names, one for each entry. -/
theorem mapM_lastDeclaration_of_ok (accepted : ofMessage model = .ok graph) :
    let message := model.graph.getD {}
    (message.fedInputs.map message.lastDeclaration).mapM ValueInfo.ofMessage =
        .ok graph.inputs ∧
      (message.outputs.map message.lastDeclaration).mapM ValueInfo.ofMessage =
        .ok graph.outputs := by
  intro message
  rcases ofMessage_eq_ok_iff.mp accepted with ⟨initializers, infos, nodes, stored, typed, _, rfl⟩
  have fed : message.inputs.filter (fun input =>
      !(Table.ofList initializers).contains input.name) = message.fedInputs := by
    simp only [Message.Graph.fedInputs, contains_initializers stored, message]
  have inputs := mapM_lastDeclaration typed fun input (member : input ∈ message.fedInputs) =>
    List.mem_append_left _ (List.mem_append_left _ (List.mem_filter.mp member).1)
  have outputs := mapM_lastDeclaration typed fun output (member : output ∈ message.outputs) =>
    List.mem_append_left _ (List.mem_append_right _ member)
  rw [← fed] at inputs ⊢
  exact ⟨inputs, outputs⟩

/--
The inputs and outputs of a model that is taken are what is declared last under their names,
one for each entry.  They are what the entries themselves declare exactly if the last
declaration of each name is read like the entry.
-/
theorem inputs_outputs_declared_last (accepted : ofMessage model = .ok graph) :
    let message := model.graph.getD {}
    ((message.fedInputs.map message.lastDeclaration).mapM ValueInfo.ofMessage =
        .ok graph.inputs ∧
      (message.outputs.map message.lastDeclaration).mapM ValueInfo.ofMessage =
        .ok graph.outputs) ∧
    (message.fedInputs.mapM ValueInfo.ofMessage = .ok graph.inputs ↔
      ∀ input ∈ message.fedInputs,
        ValueInfo.ofMessage (message.lastDeclaration input) = ValueInfo.ofMessage input) ∧
    (message.outputs.mapM ValueInfo.ofMessage = .ok graph.outputs ↔
      ∀ output ∈ message.outputs,
        ValueInfo.ofMessage (message.lastDeclaration output) = ValueInfo.ofMessage output) := by
  intro message
  have last := mapM_lastDeclaration_of_ok accepted
  exact ⟨last, mapM_own_iff last.1, mapM_own_iff last.2⟩

/-! ### An input that is an output -/

/-- A model whose input has a declared type and is also an output, declared by its name. -/
def passingModel : Message.Model :=
  let typed := ValueInfo.tensorMessage "x" .float32 [2]
  { graph := some { inputs := [typed], outputs := [ValueInfo.nameMessage "x"] } }

/-- The graph that is read of the model. -/
def passingGraph : Graph :=
  { name := ""
    nodes := []
    inputs := [⟨"x", none, none⟩]
    outputs := [⟨"x", none, none⟩]
    valueInfos := .ofList [("x", ⟨"x", none, none⟩)]
    initializers := .empty
    opsetVersion := none }

theorem ofMessage_passingModel : ofMessage passingModel = .ok passingGraph :=
  rfl

/-- The output of the model is what it declares itself, and the input is not. -/
theorem passing_declared_last :
    let message := passingModel.graph.getD {}
    (message.fedInputs.map message.lastDeclaration).mapM ValueInfo.ofMessage =
        .ok passingGraph.inputs ∧
      message.outputs.mapM ValueInfo.ofMessage = .ok passingGraph.outputs := by
  intro message
  have ⟨⟨inputs, _⟩, _, outputs⟩ := inputs_outputs_declared_last ofMessage_passingModel
  refine ⟨inputs, outputs.mpr ?_⟩
  decide

/-- The type of an input is lost when the input is also declared as an output by its name. -/
theorem passing_input_not_kept :
    ¬ ∀ model graph, ofMessage model = .ok graph →
      (model.graph.getD {}).fedInputs.mapM ValueInfo.ofMessage = .ok graph.inputs ∧
        (model.graph.getD {}).outputs.mapM ValueInfo.ofMessage = .ok graph.outputs := by
  intro kept
  have own := (kept passingModel passingGraph ofMessage_passingModel).1
  have declared : (passingModel.graph.getD {}).fedInputs.mapM ValueInfo.ofMessage =
      .ok [⟨"x", some .float32, some [.size 2]⟩] :=
    rfl
  rw [declared] at own
  cases own

end Graph

end OnnxForge
