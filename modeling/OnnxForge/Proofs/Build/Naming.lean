import Mathlib.Data.List.Nodup
import OnnxForge.Catalogue.Builtin
import OnnxForge.Proofs.Build.Counting
import OnnxForge.Proofs.Build.Storage

/-!
# Names of values

A builder makes names for the inputs, the initializers and the outputs of nodes. Where
no operator has an underscore in its name, or a name that stands for inputs or
initializers, what stands between the prefix and the next underscore tells the kind of
the value, and the rest tells which one it is. No two values have one name then.
-/

namespace OnnxForge.Build

/-! ## Generated names -/

/-- The names of operators that can be read back from the names of values. -/
def PlainOperator (name : String) : Prop :=
  '_' ∉ name.toList ∧ name ≠ "Input" ∧ name ≠ "Initializer"
deriving Decidable

/-- The name of a value of a kind, which is told apart from others by the rest. -/
def generatedName (kind rest : String) : String :=
  namePrefix ++ (kind ++ "_" ++ rest)

/-- The name of the graph input at a position. -/
def inputName (index : Nat) : String :=
  generatedName "Input" (Text.natural index)

theorem generatedName_inj {first second firstRest secondRest : String}
    (firstFree : '_' ∉ first.toList)
    (secondFree : '_' ∉ second.toList)
    (same : generatedName first firstRest = generatedName second secondRest) :
    first = second ∧ firstRest = secondRest :=
  Text.separated_inj firstFree secondFree ((String.append_right_inj _).mp same)

theorem initializerName_eq (index : Nat) :
    initializerName index = generatedName "Initializer" (Text.natural index) := by
  rw [initializerName, generatedName, String.append_assoc]
  rfl

theorem inputMessage_name (index : Nat) (sample : Tensor) :
    (Builder.inputMessage index sample).name = inputName index := by
  change namePrefix ++ "Input_" ++ Text.natural index = _
  rw [inputName, generatedName, String.append_assoc]
  rfl

theorem inputName_injective {m n : Nat} (same : inputName m = inputName n) : m = n :=
  Text.natural_injective (generatedName_inj (by decide) (by decide) same).2

/-- The rest of the name of an output: the number of the node, and that of the output. -/
inductive OutputRest (index : Nat) : String → Prop where
  | only : OutputRest index (Text.natural index)
  | numbered (place : Nat) :
      OutputRest index (Text.natural index ++ "_" ++ Text.natural place)

/-- The number of the node can be read back from either form. -/
theorem OutputRest.index_inj {first second : Nat} {rest : String}
    (firstRest : OutputRest first rest) (secondRest : OutputRest second rest) :
    first = second := by
  have unmixed : ∀ {m n place : Nat},
      Text.natural m ≠ Text.natural n ++ "_" ++ Text.natural place := by
    intro m n place same
    apply Text.underscore_notMem_natural m
    rw [same]
    simp
  generalize same : rest = other at secondRest
  cases firstRest with
  | only =>
      cases secondRest with
      | only => exact Text.natural_injective same
      | numbered place => exact (unmixed same).elim
  | numbered place =>
      cases secondRest with
      | only => exact (unmixed same.symm).elim
      | numbered other => exact Text.natural_injective (Text.numbered_inj same).1

/-! ## Outputs of nodes -/

theorem mem_outputNames {operator : String} {index declared : Nat} {count : OutputCount}
    {output : String}
    (member : output ∈
      Builder.outputNames (operator ++ "_" ++ Text.natural index) declared count) :
    ∃ rest, OutputRest index rest ∧ output = generatedName operator rest := by
  have ofNumbered : ∀ {number : Nat}, output ∈
      Builder.numberedOutputs (operator ++ "_" ++ Text.natural index) number →
        ∃ rest, OutputRest index rest ∧ output = generatedName operator rest := by
    intro number numbered
    rcases List.mem_map.mp numbered with ⟨place, _, rfl⟩
    refine ⟨_, .numbered place, ?_⟩
    simp [generatedName, String.append_assoc]
  cases count with
  | declared =>
      rw [Builder.outputNames] at member
      split at member
      · rcases List.mem_singleton.mp member with rfl
        exact ⟨_, .only, rfl⟩
      · exact ofNumbered member
  | exactly count => exact ofNumbered member

theorem nodup_outputNames (stem : String) (declared : Nat) (count : OutputCount) :
    (Builder.outputNames stem declared count).Nodup := by
  have ofNumbered : ∀ number, (Builder.numberedOutputs stem number).Nodup := by
    intro number
    refine List.Pairwise.map _ ?_ List.nodup_range
    intro first second different same
    exact different (Text.numbered_inj same).2
  cases count with
  | declared =>
      rw [Builder.outputNames]
      split
      · exact List.nodup_singleton _
      · exact ofNumbered declared
  | exactly count => exact ofNumbered count

/-! ## Names of a graph -/

/-- The names that a graph gives to values, as inputs, as initializers and by its nodes. -/
def definedNames (graph : Message.Graph) : List String :=
  graph.inputs.map (·.name) ++ graph.initializers.map (·.name) ++
    graph.nodes.flatMap (·.outputs)

/-- All names that a builder has given follow the rules. -/
structure Builder.Named (builder : Builder) : Prop where
  inputs : builder.graph.inputs.map (·.name) =
    (List.range builder.graph.inputs.length).map inputName
  initializers : Numbered 0 builder.graph.initializers
  nodes : builder.Counted
  operators : ∀ node ∈ builder.graph.nodes, PlainOperator node.opType
  outputs : ∀ node ∈ builder.graph.nodes, ∃ declared count,
    node.outputs = Builder.outputNames node.name declared count

theorem Numbered.map_name {first : Nat} {tensors : List Message.Tensor}
    (numbered : Numbered first tensors) :
    tensors.map (·.name) = (List.range' first tensors.length).map initializerName := by
  induction tensors generalizing first with
  | nil => rfl
  | cons tensor rest ih =>
      rw [List.map_cons, List.length_cons, List.range'_succ, List.map_cons,
        ih numbered.tail]
      exact congrArg (· :: _) (numbered 0 tensor rfl)

namespace Builder.Named

variable {builder : Builder} {name : String}

theorem nodup_inputs (named : builder.Named) :
    (builder.graph.inputs.map (·.name)).Nodup := by
  rw [named.inputs]
  exact List.nodup_range.map fun _ _ => inputName_injective

theorem nodup_initializers (named : builder.Named) :
    (builder.graph.initializers.map (·.name)).Nodup := by
  rw [named.initializers.map_name]
  exact (List.nodup_range' 1).map fun _ _ => initializerName_injective

theorem input_kind (named : builder.Named)
    (member : name ∈ builder.graph.inputs.map (·.name)) :
    ∃ rest, name = generatedName "Input" rest := by
  rw [named.inputs] at member
  rcases List.mem_map.mp member with ⟨index, _, rfl⟩
  exact ⟨_, rfl⟩

theorem initializer_kind (named : builder.Named)
    (member : name ∈ builder.graph.initializers.map (·.name)) :
    ∃ rest, name = generatedName "Initializer" rest := by
  rw [named.initializers.map_name] at member
  rcases List.mem_map.mp member with ⟨index, _, rfl⟩
  exact ⟨_, initializerName_eq index⟩

/-- The name of an output tells the operator and the number of its node. -/
theorem output_kind (named : builder.Named) {node : Message.Node}
    (member : node ∈ builder.graph.nodes) (isOutput : name ∈ node.outputs) :
    ∃ index rest, node.name = node.opType ++ "_" ++ Text.natural index ∧
      OutputRest index rest ∧ name = generatedName node.opType rest := by
  rcases named.nodes.name_eq member with ⟨index, _, nodeName⟩
  rcases named.outputs node member with ⟨declared, count, outputs⟩
  rw [outputs, nodeName] at isOutput
  rcases mem_outputNames isOutput with ⟨rest, numbered, same⟩
  exact ⟨index, rest, nodeName, numbered, same⟩

/-- Nodes of different names share no output. -/
theorem disjoint_outputs (named : builder.Named) {first second : Message.Node}
    (firstMember : first ∈ builder.graph.nodes)
    (secondMember : second ∈ builder.graph.nodes)
    (different : first.name ≠ second.name) :
    first.outputs.Disjoint second.outputs := by
  intro output ofFirst ofSecond
  rcases named.output_kind firstMember ofFirst with
    ⟨firstIndex, firstRest, firstName, firstNumbered, firstOutput⟩
  rcases named.output_kind secondMember ofSecond with
    ⟨secondIndex, secondRest, secondName, secondNumbered, secondOutput⟩
  obtain ⟨sameOperator, rfl⟩ := generatedName_inj (named.operators first firstMember).1
    (named.operators second secondMember).1 (firstOutput.symm.trans secondOutput)
  have sameIndex := firstNumbered.index_inj secondNumbered
  apply different
  rw [firstName, secondName, sameOperator, sameIndex]

theorem nodup_outputs (named : builder.Named) :
    (builder.graph.nodes.flatMap (·.outputs)).Nodup := by
  rw [List.nodup_flatMap]
  constructor
  · intro node member
    rcases named.outputs node member with ⟨declared, count, outputs⟩
    rw [outputs]
    exact nodup_outputNames _ declared count
  · have differentNames := List.pairwise_map.mp named.nodes.nodup_names
    exact differentNames.imp_of_mem fun firstMember secondMember different =>
      named.disjoint_outputs firstMember secondMember different

/-- An output has the name of no input and no initializer. -/
theorem output_ne (named : builder.Named) {kind rest output : String}
    (reserved : kind = "Input" ∨ kind = "Initializer")
    (isOutput : output ∈ builder.graph.nodes.flatMap (·.outputs)) :
    generatedName kind rest ≠ output := by
  rcases List.mem_flatMap.mp isOutput with ⟨node, member, ofNode⟩
  rcases named.output_kind member ofNode with ⟨index, outputRest, _, _, outputName⟩
  rcases named.operators node member with ⟨free, notInput, notInitializer⟩
  intro same
  have kindFree : '_' ∉ kind.toList := by
    rcases reserved with rfl | rfl <;> decide
  have sameKind := (generatedName_inj kindFree free (same.trans outputName)).1
  rcases reserved with rfl | rfl
  · exact notInput sameKind.symm
  · exact notInitializer sameKind.symm

/-- The names that a graph gives to its values differ. -/
theorem nodup_definedNames (named : builder.Named) :
    (definedNames builder.graph).Nodup := by
  rw [definedNames, List.nodup_append, List.nodup_append]
  refine ⟨⟨named.nodup_inputs, named.nodup_initializers, ?inputsApart⟩,
    named.nodup_outputs, ?outputsApart⟩
  case inputsApart =>
    intro input isInput initializer isInitializer same
    rcases named.input_kind isInput with ⟨inputRest, rfl⟩
    rcases named.initializer_kind isInitializer with ⟨initializerRest, rfl⟩
    have sameKind := (generatedName_inj (by decide) (by decide) same).1
    revert sameKind
    decide
  case outputsApart =>
    intro name before output isOutput
    rcases List.mem_append.mp before with isInput | isInitializer
    · rcases named.input_kind isInput with ⟨rest, rfl⟩
      exact named.output_ne (.inl rfl) isOutput
    · rcases named.initializer_kind isInitializer with ⟨rest, rfl⟩
      exact named.output_ne (.inr rfl) isOutput

end Builder.Named

/-! ## Along a session -/

namespace Effect

variable {arguments : List Argument} {before after : Builder} {answer : Option Answer}

theorem inputs_named (effect : Effect arguments before answer after)
    (named : before.graph.inputs.map (·.name) =
      (List.range before.graph.inputs.length).map inputName) :
    after.graph.inputs.map (·.name) =
      (List.range after.graph.inputs.length).map inputName := by
  cases effect with
  | inputs samples =>
      have declared : (samples.mapIdx fun index sample =>
          Builder.inputMessage (before.graph.inputs.length + index) sample).map (·.name) =
            (List.range samples.length).map fun index =>
              inputName (before.graph.inputs.length + index) := by
        apply List.ext_getElem
        · simp
        · intro index _ _
          simp [inputMessage_name]
      simp only [Builder.input, List.map_append, List.length_append, List.length_mapIdx,
        List.range_add, named, declared, List.map_map]
      rfl
  | node committed =>
      cases committed
      exact named
  | _ => exact named

/-- A new node is of an operator of the catalogue. -/
theorem operators_plain (effect : Effect arguments before answer after)
    (plain : ∀ schema ∈ before.catalogue.schemas, PlainOperator schema.name)
    (operators : ∀ node ∈ before.graph.nodes, PlainOperator node.opType) :
    ∀ node ∈ after.graph.nodes, PlainOperator node.opType := by
  cases effect with
  | node committed =>
      rcases committed with ⟨found, collected, rfl, conforms⟩
      rcases Catalogue.mem_of_get?_eq_some found with ⟨member, name⟩
      rw [Builder.commit_nodes, List.forall_mem_append]
      refine ⟨operators, List.forall_mem_singleton.mpr ?_⟩
      rw [Builder.nodeMessage_opType, ← name]
      exact plain _ member
  | _ => exact operators

theorem outputs_named (effect : Effect arguments before answer after)
    (outputs : ∀ node ∈ before.graph.nodes, ∃ declared count,
      node.outputs = Builder.outputNames node.name declared count) :
    ∀ node ∈ after.graph.nodes, ∃ declared count,
      node.outputs = Builder.outputNames node.name declared count := by
  cases effect with
  | node committed =>
      rcases committed with ⟨found, collected, rfl, conforms⟩
      rw [Builder.commit_nodes, List.forall_mem_append]
      exact ⟨outputs, List.forall_mem_singleton.mpr ⟨_, _, rfl⟩⟩
  | _ => exact outputs

theorem named (effect : Effect arguments before answer after)
    (plain : ∀ schema ∈ before.catalogue.schemas, PlainOperator schema.name)
    (beforeNamed : before.Named) :
    after.Named where
  inputs := effect.inputs_named beforeNamed.inputs
  initializers := effect.numbered beforeNamed.initializers
  nodes := effect.counted beforeNamed.nodes
  operators := effect.operators_plain plain beforeNamed.operators
  outputs := effect.outputs_named beforeNamed.outputs

end Effect

theorem Builder.named_start (catalogue : Catalogue) : (Builder.start catalogue).Named where
  inputs := rfl
  initializers := .nil
  nodes := by
    intro operator
    rfl
  operators := by
    intro node member
    cases member
  outputs := by
    intro node member
    cases member

/-- Names follow the rules in every session with a catalogue of plain operators. -/
theorem Session.named_run {catalogue : Catalogue}
    (plain : ∀ schema ∈ catalogue.schemas, PlainOperator schema.name) (calls : List Call) :
    ((start catalogue).run calls).builder.Named := by
  have invariant : ((start catalogue).run calls).builder.catalogue = catalogue ∧
      ((start catalogue).run calls).builder.Named := by
    apply (honest_start catalogue).builder_invariant fun builder =>
      builder.catalogue = catalogue ∧ builder.Named
    · rintro arguments before answer after effect ⟨rfl, named⟩
      exact ⟨effect.catalogue_eq, effect.named plain named⟩
    · exact ⟨rfl, Builder.named_start catalogue⟩
  exact invariant.2

end OnnxForge.Build
