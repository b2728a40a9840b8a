import OnnxForge.Proofs.Build.Naming

/-!
# Execution order

A caller who offers only what the session gave builds a graph that can be run from its
first node to its last: names are defined once, and every input of a node is defined
before the node. The invariant behind it is that every name that was told is defined in
the graph by then.
-/

namespace OnnxForge.Build

/-! ## Graphs in order -/

/-- Every input of a node is a graph input, an initializer or an output of a node that
comes before it. -/
def InOrder (graph : Message.Graph) : Prop :=
  ∀ earlier node later, graph.nodes = earlier ++ node :: later →
    ∀ input ∈ node.inputs,
      input ∈ graph.inputs.map (·.name) ∨ input ∈ graph.initializers.map (·.name) ∨
        ∃ source ∈ earlier, input ∈ source.outputs

theorem mem_definedNames {graph : Message.Graph} {name : String} :
    name ∈ definedNames graph ↔
      name ∈ graph.inputs.map (·.name) ∨ name ∈ graph.initializers.map (·.name) ∨
        ∃ source ∈ graph.nodes, name ∈ source.outputs := by
  rw [definedNames, List.mem_append, List.mem_append, List.mem_flatMap, or_assoc]

/-- A name that is defined stays defined while the lists of a graph grow. -/
theorem definedNames_mono {before after : Message.Graph}
    (inputs : before.inputs <+: after.inputs)
    (initializers : before.initializers <+: after.initializers)
    (nodes : before.nodes <+: after.nodes) :
    definedNames before ⊆ definedNames after := by
  intro name defined
  apply mem_definedNames.mpr
  rcases mem_definedNames.mp defined with isInput | isInitializer | ⟨source, member, isOutput⟩
  · exact .inl ((inputs.map _).mem isInput)
  · exact .inr (.inl ((initializers.map _).mem isInitializer))
  · exact .inr (.inr ⟨source, nodes.mem member, isOutput⟩)

/-- Inputs and initializers may be added without a change of order. -/
theorem InOrder.mono {before after : Message.Graph} (ordered : InOrder before)
    (inputs : before.inputs <+: after.inputs)
    (initializers : before.initializers <+: after.initializers)
    (nodes : after.nodes = before.nodes) :
    InOrder after := by
  intro earlier node later split input member
  rw [nodes] at split
  rcases ordered earlier node later split input member with
    ofInputs | ofInitializers | ofNodes
  · exact .inl ((inputs.map _).mem ofInputs)
  · exact .inr (.inl ((initializers.map _).mem ofInitializers))
  · exact .inr (.inr ofNodes)

/-- A node may be added at the end when its inputs are defined. -/
theorem InOrder.withNode {builder : Builder} (ordered : InOrder builder.graph)
    {node : Message.Node}
    (defined : ∀ input ∈ node.inputs, input ∈ definedNames builder.graph) :
    InOrder (builder.withNode node).graph := by
  intro earlier other later split input member
  change builder.graph.nodes ++ [node] = earlier ++ other :: later at split
  rcases List.eq_nil_or_concat later with rfl | ⟨between, last, rfl⟩
  · rcases List.append_inj' split rfl with ⟨rfl, same⟩
    obtain rfl : node = other := (List.cons.inj same).1
    exact mem_definedNames.mp (defined input member)
  · have splitBefore : builder.graph.nodes ++ [node] =
        (earlier ++ other :: between) ++ [last] := by
      simpa using split
    rcases List.append_inj' splitBefore rfl with ⟨same, _⟩
    exact ordered earlier other between same input member

/-! ## What a session gave -/

/-- The names that an argument stands for. -/
def Argument.values : Argument → List String
  | .array _ => []
  | .name text => [text]
  | .names texts => texts
  | .node source => source.outputs.head?.toList

namespace Session

/-- The names of values that were told so far. -/
def told (session : Session) : List String :=
  session.answers.flatMap Answer.values

/-- The nodes that were handed out so far. -/
def handles (session : Session) : List Message.Node :=
  session.answers.filterMap Answer.node?

/-- Whether the names or the node of an argument come from the session. -/
def Gave (session : Session) : Argument → Prop
  | .array _ => True
  | .name name => name ∈ session.told
  | .names names => ∀ name ∈ names, name ∈ session.told
  | .node source => source ∈ session.handles

/-- Every node that calls make is made of what the session gave before. -/
def KeepsTo (session : Session) : List Call → Prop
  | [] => True
  | call :: rest =>
    (session.made? call ≠ none → ∀ argument ∈ session.offered call, session.Gave argument) ∧
      (session.perform call).KeepsTo rest

variable {session : Session}

/-- The first output of a node was told with the node. -/
theorem Gave.values_told {argument : Argument} (gave : session.Gave argument) :
    ∀ value ∈ argument.values, value ∈ session.told := by
  intro value member
  cases argument with
  | array tensor => cases member
  | name name =>
      rcases List.mem_singleton.mp member with rfl
      exact gave
  | names names => exact gave value member
  | node source =>
      rcases List.mem_filterMap.mp gave with ⟨answer, given, handed⟩
      have isOutput : value ∈ source.outputs :=
        List.mem_of_mem_head? (Option.mem_toList.mp member)
      refine List.mem_flatMap.mpr ⟨answer, given, ?_⟩
      cases answer with
      | node made =>
          rcases Option.some.inj handed with rfl
          exact isOutput
      | _ => cases handed

end Session

/-! ## Inputs of a new node -/

theorem Stored.mem_inputs {tensors : List Message.Tensor} {first next : Nat}
    {arguments : List Argument} {inputs : List String}
    (stored : Stored tensors first arguments inputs next) {input : String}
    (member : input ∈ inputs) :
    input ∈ tensors.map (·.name) ∨ ∃ argument ∈ arguments, input ∈ argument.values := by
  have keep : ∀ {earlier : List Argument} {argument : Argument},
      (input ∈ tensors.map (·.name) ∨ ∃ known ∈ earlier, input ∈ known.values) →
        input ∈ tensors.map (·.name) ∨
          ∃ known ∈ earlier ++ [argument], input ∈ known.values := by
    rintro earlier argument (stored | ⟨known, isKnown, value⟩)
    · exact .inl stored
    · exact .inr ⟨known, List.mem_append_left _ isKnown, value⟩
  have last : ∀ {earlier : List Argument} {argument : Argument},
      input ∈ argument.values → ∃ known ∈ earlier ++ [argument], input ∈ known.values :=
    fun value => ⟨_, List.mem_append_right _ List.mem_cons_self, value⟩
  induction stored with
  | start => cases member
  | @array _ _ place tensor earlier entry alone ih =>
      rcases List.mem_append.mp member with old | new
      · exact keep (ih old)
      · rcases List.mem_singleton.mp new with rfl
        refine .inl (List.mem_map.mpr ⟨_, List.mem_of_getElem? entry, ?_⟩)
        exact Tensor.toMessage_name _ _
  | name earlier ih =>
      rcases List.mem_append.mp member with old | new
      · exact keep (ih old)
      · exact .inr (last new)
  | names earlier ih =>
      rcases List.mem_append.mp member with old | new
      · exact keep (ih old)
      · exact .inr (last new)
  | node earlier leads ih =>
      rcases List.mem_append.mp member with old | new
      · exact keep (ih old)
      · rcases List.mem_singleton.mp new with rfl
        exact .inr (last (Option.mem_toList.mpr leads))

/-! ## Effects -/

namespace Effect

variable {arguments : List Argument} {before after : Builder} {answer : Option Answer}

theorem inputs_grow (effect : Effect arguments before answer after) :
    before.graph.inputs <+: after.graph.inputs := by
  cases effect with
  | inputs samples => exact List.prefix_append _ _
  | node committed =>
      cases committed
      exact List.prefix_rfl
  | _ => exact List.prefix_rfl

theorem nodes_grow (effect : Effect arguments before answer after) :
    before.graph.nodes <+: after.graph.nodes :=
  effect.nodes_eq ▸ List.prefix_append _ _

theorem definedNames_subset (effect : Effect arguments before answer after) :
    definedNames before.graph ⊆ definedNames after.graph :=
  definedNames_mono effect.inputs_grow effect.initializers_grow effect.nodes_grow

/-- The names that an answer tells are defined. -/
theorem values_defined {given : Answer}
    (effect : Effect arguments before (some given) after) :
    ∀ value ∈ given.values, value ∈ definedNames after.graph := by
  intro value member
  apply mem_definedNames.mpr
  cases effect with
  | inputs samples =>
      left
      simp only [Builder.input, List.map_append]
      exact List.mem_append_right _ member
  | initializer tensor =>
      right
      left
      rcases List.mem_singleton.mp member with rfl
      simp [Builder.withInitializers]
  | node committed =>
      right
      right
      exact ⟨_, committed.nodes_eq ▸ List.mem_append_right _ List.mem_cons_self, member⟩
  | _ => cases member

/-- A node whose arguments stand for names that are defined keeps the order. -/
theorem inOrder (effect : Effect arguments before answer after)
    (numbered : Numbered 0 before.graph.initializers)
    (ordered : InOrder before.graph)
    (defined : answer.bind Answer.node? ≠ none →
      ∀ argument ∈ arguments, ∀ value ∈ argument.values,
        value ∈ definedNames before.graph) :
    InOrder after.graph := by
  cases effect with
  | inputs samples => exact ordered.mono (List.prefix_append _ _) List.prefix_rfl rfl
  | initializer tensor => exact ordered.mono List.prefix_rfl (List.prefix_append _ _) rfl
  | node committed =>
      have afterNumbered := (Effect.node committed).numbered numbered
      have stored := committed.stored afterNumbered List.prefix_rfl
      rcases committed with ⟨found, collected, made, conforms⟩
      have grows := before.grows_withInitializers
      have storing : ∀ initializers, InOrder (before.withInitializers initializers).graph :=
        fun initializers =>
          ordered.mono (grows initializers).inputs (grows initializers).initializers rfl
      refine (storing _).withNode fun input member => ?_
      rcases stored.mem_inputs member with isInitializer | ⟨argument, offered, value⟩
      · exact mem_definedNames.mpr (.inr (.inl isInitializer))
      · have already := defined (by simp [Answer.node?]) argument offered input value
        exact definedNames_mono (grows _).inputs (grows _).initializers (grows _).nodes already
  | _ => exact ordered.mono List.prefix_rfl List.prefix_rfl rfl

end Effect

namespace Session

/-- The graph is in order, and what was told is in the graph. -/
structure Sequential (session : Session) : Prop where
  honest : session.Honest
  numbered : Numbered 0 session.builder.graph.initializers
  told : ∀ name ∈ session.told, name ∈ definedNames session.builder.graph
  ordered : InOrder session.builder.graph

theorem sequential_start (catalogue : Catalogue) : (start catalogue).Sequential where
  honest := honest_start catalogue
  numbered := .nil
  told := by
    intro name member
    cases member
  ordered := by
    intro earlier node later split
    cases earlier <;> cases split

variable {session : Session}

theorem Sequential.perform (sequential : session.Sequential) {call : Call}
    (gave : session.made? call ≠ none →
      ∀ argument ∈ session.offered call, session.Gave argument) :
    (session.perform call).Sequential := by
  have effect := perform_effect sequential.honest call
  refine ⟨sequential.honest.perform call, effect.numbered sequential.numbered, ?told, ?ordered⟩
  case told =>
    intro name member
    rcases List.mem_flatMap.mp member with ⟨answer, given, value⟩
    rcases List.mem_append.mp given with old | new
    · have already := sequential.told name (List.mem_flatMap.mpr ⟨answer, old, value⟩)
      exact effect.definedNames_subset already
    · rw [Option.mem_toList.mp new] at effect
      exact effect.values_defined name value
  case ordered =>
    refine effect.inOrder sequential.numbered sequential.ordered ?_
    intro made argument offered value member
    exact sequential.told value ((gave made argument offered).values_told value member)

theorem Sequential.run (sequential : session.Sequential) {calls : List Call}
    (keeps : session.KeepsTo calls) :
    (session.run calls).Sequential := by
  induction calls generalizing session with
  | nil => exact sequential
  | cons call rest ih => exact ih (sequential.perform keeps.1) keeps.2

end Session

/-- The operators of the built-in catalogue are plain. -/
theorem plainOperator_builtin :
    ∀ schema ∈ Catalogue.builtin.schemas, PlainOperator schema.name := by
  intro schema member
  have declared := Catalogue.mem_of_mem_ofList member
  clear member
  revert schema
  decide +kernel

namespace Session

/--
Where the operators are plain, as in the built-in catalogue, a caller who offers only what
the session gave has a graph in which every value has one name of its own and every node
comes after what it takes.
-/
theorem graphs_in_order :
    (∀ schema ∈ Catalogue.builtin.schemas, PlainOperator schema.name) ∧
    ∀ catalogue : Catalogue, (∀ schema ∈ catalogue.schemas, PlainOperator schema.name) →
      ∀ calls, (start catalogue).KeepsTo calls →
        let graph := ((start catalogue).run calls).builder.graph
        (definedNames graph).Nodup ∧ InOrder graph := by
  refine ⟨plainOperator_builtin, ?_⟩
  intro catalogue plain calls keeps graph
  have named := named_run plain calls
  have sequential := (sequential_start catalogue).run keeps
  exact ⟨named.nodup_definedNames, sequential.ordered⟩

/-- A node of an input and an array, and a node of that node. -/
theorem graphs_in_order_of_chain :
    let catalogue : Catalogue := .ofList Catalogue.Builtin.concatVersions
    let sample : Tensor := ⟨.float32, [], .float32 [0]⟩
    let join (arguments : List Argument) : Call :=
      .addNode "Concat" "" 1 (arguments.map some) .declared .empty
    let leaves : Call := join [.name "_t_Input_0", .array sample]
    ∃ first, ((start catalogue).run [.input [sample]]).made? leaves = some first ∧
      let graph :=
        ((start catalogue).run [.input [sample], leaves, join [.node first]]).builder.graph
      (definedNames graph).Nodup ∧ InOrder graph := by
  intro catalogue sample join leaves
  refine ⟨_, rfl, graphs_in_order.2 catalogue ?plain [.input [sample], leaves, _] ?keeps⟩
  case plain =>
    intro schema member
    have declared := Catalogue.mem_of_mem_ofList member
    clear member
    revert schema
    decide
  case keeps =>
    refine ⟨fun _ => List.forall_mem_nil _, fun _ => ?joined, fun _ => ?chained, trivial⟩
    case joined =>
      have told : "_t_Input_0" ∈ ((start catalogue).run [.input [sample]]).told := by decide
      exact List.forall_mem_cons.mpr ⟨told, List.forall_mem_singleton.mpr trivial⟩
    case chained =>
      exact List.forall_mem_singleton.mpr (List.mem_singleton.mpr rfl)

end Session

end OnnxForge.Build
