import OnnxForge.Binding.Call
import OnnxForge.Proofs.Atomicity

/-!
# Growth of a graph under construction

A call on a builder either fails and leaves no trace, or lets the lists of the graph
grow at their ends and keeps all else of the model. The same holds for a staging to
which an argument is added. Every check of a call thus comes before its first change,
in the builder, in the staging of the inputs and in the bindings that call both.
-/

namespace OnnxForge.Build

open Attempt

/-! ## Stagings -/

/-- A staging gains names and initializers, for the graph that it was begun for. -/
structure Staging.Grows (before after : Staging) : Prop where
  names : before.names <+: after.names
  initializers : before.initializers <+: after.initializers
  base : after.base = before.base

namespace Staging.Grows

theorem refl (staging : Staging) : Grows staging staging :=
  ⟨List.prefix_rfl, List.prefix_rfl, rfl⟩

theorem trans {first second third : Staging}
    (early : Grows first second) (late : Grows second third) :
    Grows first third where
  names := early.names.trans late.names
  initializers := early.initializers.trans late.initializers
  base := late.base.trans early.base

end Staging.Grows

namespace Collecting

theorem append_succeeds (names : List String) :
    Succeeds Staging.Grows (append names) := by
  apply succeeds_modify
  intro before
  exact ⟨List.prefix_append _ _, List.prefix_rfl, rfl⟩

theorem readOnly_checkName (name : String) : ReadOnly (checkName name) := by
  rw [checkName]
  split
  · exact readOnly_throw _
  · exact readOnly_pure _

theorem addArray_atomic (overflow : Overflow) (tensor : Tensor) :
    Atomic Staging.Grows (addArray overflow tensor) := by
  refine (readOnly_ofExcept _ _).bind_atomic fun _ => ?_
  refine readOnly_get.bind_atomic fun staging => ?_
  have stored : ∀ before : Staging, before.Grows
      { before with
        initializers := before.initializers ++
          [tensor.toMessage
            (initializerName (staging.base + staging.initializers.length))] } :=
    fun before => ⟨List.prefix_rfl, List.prefix_append _ _, rfl⟩
  exact ((succeeds_modify stored).bind (fun _ => append_succeeds _) Staging.Grows.trans).atomic

/-- All names of a list are checked before the first one is added. -/
theorem addNames_atomic (names : List String) :
    Atomic Staging.Grows (addNames names) :=
  (readOnly_forM readOnly_checkName names).bind_atomic fun _ =>
    (append_succeeds names).atomic

theorem addOutput_atomic (node : Message.Node) :
    Atomic Staging.Grows (addOutput node) := by
  rw [addOutput]
  split
  · exact (append_succeeds _).atomic
  · exact (readOnly_throw _).atomic Staging.Grows.refl

/-- An argument is added whole or not at all. -/
theorem add_atomic (argument : Option Argument) :
    Atomic Staging.Grows (add argument) := by
  rcases argument with _ | tensor | name | names | node
  · exact (readOnly_pure _).atomic Staging.Grows.refl
  · exact addArray_atomic .stops tensor
  · exact addNames_atomic [name]
  · exact addNames_atomic names
  · exact addOutput_atomic node

end Collecting

/-! ## Builders -/

/--
The lists of the graph grow at their ends.  The rest of the model, the version of the
operator set and the catalogue stay.
-/
structure Builder.Grows (before after : Builder) : Prop where
  inputs : before.graph.inputs <+: after.graph.inputs
  outputs : before.graph.outputs <+: after.graph.outputs
  initializers : before.graph.initializers <+: after.graph.initializers
  nodes : before.graph.nodes <+: after.graph.nodes
  model :
    after.model =
      { before.model with
        graph := some { before.graph with
          inputs := after.graph.inputs
          outputs := after.graph.outputs
          initializers := after.graph.initializers
          nodes := after.graph.nodes } }
  opsetVersion : after.opsetVersion = before.opsetVersion
  catalogue : after.catalogue = before.catalogue

namespace Builder

namespace Grows

theorem of_graph_eq {before after : Builder}
    (graph : after.graph = before.graph)
    (opsetImport : after.opsetImport = before.opsetImport)
    (opsetVersion : after.opsetVersion = before.opsetVersion)
    (catalogue : after.catalogue = before.catalogue) :
    Grows before after where
  inputs := graph ▸ List.prefix_rfl
  outputs := graph ▸ List.prefix_rfl
  initializers := graph ▸ List.prefix_rfl
  nodes := graph ▸ List.prefix_rfl
  model := by
    rw [Builder.model, Builder.model, graph, opsetImport]
    cases before.graph
    rfl
  opsetVersion := opsetVersion
  catalogue := catalogue

theorem refl (builder : Builder) : Grows builder builder :=
  of_graph_eq rfl rfl rfl rfl

theorem trans {first second third : Builder}
    (early : Grows first second) (late : Grows second third) :
    Grows first third where
  inputs := early.inputs.trans late.inputs
  outputs := early.outputs.trans late.outputs
  initializers := early.initializers.trans late.initializers
  nodes := early.nodes.trans late.nodes
  model := by
    have secondGraph : second.graph =
        { first.graph with
          inputs := second.graph.inputs
          outputs := second.graph.outputs
          initializers := second.graph.initializers
          nodes := second.graph.nodes } :=
      Option.some.inj (congrArg Message.Model.graph early.model)
    rw [late.model, secondGraph, early.model]
  opsetVersion := late.opsetVersion.trans early.opsetVersion
  catalogue := late.catalogue.trans early.catalogue

end Grows

theorem grows_withInitializers (builder : Builder) (initializers : List Message.Tensor) :
    Grows builder (builder.withInitializers initializers) :=
  ⟨List.prefix_rfl, List.prefix_rfl, List.prefix_append _ _, List.prefix_rfl, rfl, rfl, rfl⟩

theorem grows_withNode (builder : Builder) (node : Message.Node) :
    Grows builder (builder.withNode node) :=
  ⟨List.prefix_rfl, List.prefix_rfl, List.prefix_rfl, List.prefix_append _ _, rfl, rfl, rfl⟩

/-- The counters are no part of the model. -/
theorem grows_counting (builder : Builder) (operator : String) :
    Grows builder (builder.counting operator) :=
  Grows.of_graph_eq rfl rfl rfl rfl

theorem grows_input (builder : Builder) (samples : List Tensor) :
    Grows builder (builder.input samples).2 :=
  ⟨List.prefix_append _ _, List.prefix_rfl, List.prefix_rfl, List.prefix_rfl, rfl, rfl, rfl⟩

theorem grows_declare (builder : Builder) (output : Output) :
    Grows builder (builder.declare output) :=
  ⟨List.prefix_rfl, List.prefix_append _ _, List.prefix_rfl, List.prefix_rfl, rfl, rfl, rfl⟩

theorem grows_declareAll (builder : Builder) (outputs : List Output) :
    Grows builder (builder.declareAll outputs) := by
  induction outputs generalizing builder with
  | nil => exact Grows.refl builder
  | cons output rest ih =>
    exact (grows_declare builder output).trans (ih (builder.declare output))

end Builder

namespace Building

theorem output_atomic (arguments : List Argument) :
    Atomic Builder.Grows (output arguments) :=
  (readOnly_ofExcept _ _).bind_atomic fun outputs =>
    (succeeds_modify fun builder => builder.grows_declareAll outputs).atomic

theorem addInitializer_atomic (overflow : Overflow) (tensor : Tensor) :
    Atomic Builder.Grows (addInitializer overflow tensor) := by
  refine (readOnly_ofExcept _ _).bind_atomic fun _ => ?_
  refine readOnly_get.bind_atomic fun current => ?_
  exact ((succeeds_modify fun builder => builder.grows_withInitializers _).bind_pure
    fun _ => initializerName current.graph.initializers.length).atomic

theorem readOnly_checkCurrent (operator : String) (inputs : Staging) :
    ReadOnly (checkCurrent operator inputs) := by
  refine readOnly_get.bind fun builder => ?_
  split
  · exact readOnly_pure _
  · exact readOnly_throw _

theorem readOnly_checkNode (schema : Schema) (node : Message.Node) :
    ReadOnly (checkNode schema node) := by
  rw [checkNode]
  split
  · exact readOnly_throw _
  · exact readOnly_pure _

/-- The staging that collects arguments is not part of the builder. -/
theorem readOnly_collect (arguments : List (Option Argument)) :
    ReadOnly (collect arguments) := by
  refine readOnly_get.bind fun builder => ?_
  split
  · exact readOnly_pure _
  · exact readOnly_throw _

/-- The schema, the staging and the node are checked before the first of three changes. -/
theorem makeNode_atomic (operator domain : String) (version : Int64) (inputs : Staging)
    (count : OutputCount) (attributes : Attributes) :
    Atomic Builder.Grows (makeNode operator domain version inputs count attributes) := by
  refine readOnly_get.bind_atomic fun builder => ?_
  refine (readOnly_ofExcept _ _).bind_atomic fun schema => ?_
  refine (readOnly_checkCurrent operator inputs).bind_atomic fun _ => ?_
  refine (readOnly_checkNode schema _).bind_atomic fun _ => ?_
  apply Succeeds.atomic
  refine Succeeds.bind ?storing (fun _ => ?_) Builder.Grows.trans
  case storing => exact succeeds_modify fun before => before.grows_withInitializers _
  refine Succeeds.bind ?adding (fun _ => ?_) Builder.Grows.trans
  case adding => exact succeeds_modify fun before => before.grows_withNode _
  exact (succeeds_modify fun before => before.grows_counting operator).bind_pure _

theorem addNode_atomic (operator domain : String) (version : Int64)
    (arguments : List (Option Argument)) (count : OutputCount) (attributes : Attributes) :
    Atomic Builder.Grows (addNode operator domain version arguments count attributes) :=
  (readOnly_collect arguments).bind_atomic fun _ => makeNode_atomic _ _ _ _ _ _

end Building

end OnnxForge.Build

namespace OnnxForge.Binding

open Attempt Build

theorem Function.call_atomic (function : Function) (environment : Environment)
    (attributes : Attributes) :
    Atomic Builder.Grows (function.call environment attributes) := by
  refine (readOnly_ofExcept _ _).bind_atomic fun count => ?_
  refine (Building.readOnly_collect _).bind_atomic fun inputs => ?_
  exact Building.makeNode_atomic _ _ _ _ _ _

/-- A dispatcher only reads the builder before it calls a function. -/
theorem Dispatcher.call_atomic (dispatcher : Dispatcher) (arguments : List (Option Argument))
    (attributes : Attributes) :
    Atomic Builder.Grows (dispatcher.call arguments attributes) := by
  refine readOnly_get.bind_atomic fun builder => ?_
  refine (readOnly_ofExcept _ _).bind_atomic fun schema => ?_
  refine (readOnly_ofExcept _ _).bind_atomic fun function => ?_
  refine (readOnly_ofExcept _ _).bind_atomic fun environment => ?_
  exact function.call_atomic environment attributes

end OnnxForge.Binding

namespace OnnxForge.Build

open Attempt

/--
Every call on a builder keeps to the same rule, from every state and however it is made:
declaring inputs and outputs succeeds and lets the graph grow, and each of the other calls
lets it grow when it succeeds and changes nothing when it fails.  Adding an argument to a
staging keeps to the rule as well.
-/
theorem operations_atomic :
    (∀ builder samples, Builder.Grows builder (builder.input samples).2) ∧
    (∀ builder outputs, Builder.Grows builder (builder.declareAll outputs)) ∧
    (∀ arguments, Atomic Builder.Grows (Building.output arguments)) ∧
    (∀ overflow tensor, Atomic Builder.Grows (Building.addInitializer overflow tensor)) ∧
    (∀ operator domain version inputs count attributes, Atomic Builder.Grows
      (Building.makeNode operator domain version inputs count attributes)) ∧
    (∀ operator domain version arguments count attributes, Atomic Builder.Grows
      (Building.addNode operator domain version arguments count attributes)) ∧
    (∀ (function : Binding.Function) environment attributes, Atomic Builder.Grows
      (function.call environment attributes)) ∧
    (∀ (dispatcher : Binding.Dispatcher) arguments attributes, Atomic Builder.Grows
      (dispatcher.call arguments attributes)) ∧
    ∀ argument, Atomic Staging.Grows (Collecting.add argument) :=
  ⟨Builder.grows_input, Builder.grows_declareAll, Building.output_atomic,
    Building.addInitializer_atomic, Building.makeNode_atomic, Building.addNode_atomic,
    Binding.Function.call_atomic, Binding.Dispatcher.call_atomic, Collecting.add_atomic⟩

end OnnxForge.Build
