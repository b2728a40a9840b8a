import OnnxForge.Proofs.Binding.Arguments
import OnnxForge.Proofs.Build.Growth
import OnnxForge.Proofs.Tensor.Products

/-!
# What a new node brings into the graph

Whichever way a node is asked for, directly, by a function or by a dispatcher, a call
that succeeds has done one thing: it has collected the arguments that are present, in
order, in a staging for the graph as it was, and has added the initializers of the
staging, one node of a schema of the catalogue, and one to the number of nodes of the
operator.
-/

namespace OnnxForge.Build

open Attempt

/-- An array is accepted exactly if it is found to be complete. -/
theorem checkArray_eq_ok_iff {overflow : Overflow} {tensor : Tensor} :
    checkArray overflow tensor = .ok () ↔ tensor.consistent? overflow = some true := by
  rw [checkArray]
  split
  next complete => exact ⟨fun _ => complete, fun _ => rfl⟩
  next wrong => exact ⟨nofun, fun complete => nomatch wrong.symm.trans complete⟩
  next stopped => exact ⟨nofun, fun complete => nomatch stopped.symm.trans complete⟩

/-! ## Contributions of arguments -/

/--
The names and initializers that an argument adds to a staging, in which the next array
becomes the initializer at a place.
-/
inductive Contribution (place : Nat) :
    Argument → List String → List Message.Tensor → Prop where
  | array {tensor : Tensor} (fits : tensor.consistent = true) :
      Contribution place (.array tensor) [initializerName place]
        [tensor.toMessage (initializerName place)]
  | name {name : String} (given : name ≠ "") : Contribution place (.name name) [name] []
  | names {names : List String} (given : ∀ name ∈ names, name ≠ "") :
      Contribution place (.names names) names []
  | node {source : Message.Node} {output : String}
      (leads : source.outputs.head? = some output) :
      Contribution place (.node source) [output] []

/-- The staging with what an argument adds. -/
def Staging.extended (staging : Staging) (names : List String)
    (initializers : List Message.Tensor) : Staging :=
  ⟨staging.names ++ names, staging.initializers ++ initializers, staging.base⟩

namespace Collecting

variable {before after : Staging}

theorem checkName_eq_ok {name : String} (checked : checkName name before = (.ok (), after)) :
    name ≠ "" ∧ after = before := by
  rw [checkName] at checked
  split at checked
  · cases checked
  next given =>
    cases checked
    exact ⟨given, rfl⟩

theorem addNames_eq_ok {names : List String}
    (added : addNames names before = (.ok (), after)) :
    (∀ name ∈ names, name ≠ "") ∧ after = before.extended names [] := by
  rcases bind_eq_ok.mp added with ⟨_, between, checked, appended⟩
  have given : (∀ name ∈ names, name ≠ "") ∧ between = before := by
    clear added appended
    induction names with
    | nil =>
        cases checked
        exact ⟨by simp, rfl⟩
    | cons name rest ih =>
        rcases bind_eq_ok.mp checked with ⟨_, middle, first, following⟩
        rcases checkName_eq_ok first with ⟨nameGiven, rfl⟩
        rcases ih following with ⟨restGiven, same⟩
        exact ⟨List.forall_mem_cons.mpr ⟨nameGiven, restGiven⟩, same⟩
  rcases given with ⟨allGiven, rfl⟩
  cases appended
  exact ⟨allGiven, by simp [Staging.extended]⟩

/-- An argument that is accepted adds its contribution at the end, and nothing else. -/
theorem add_contribution {argument : Argument}
    (added : add (some argument) before = (.ok (), after)) :
    ∃ names initializers,
      Contribution (before.base + before.initializers.length) argument names initializers ∧
        after = before.extended names initializers := by
  cases argument with
  | array tensor =>
      rcases bind_eq_ok.mp added with ⟨_, _, checked, storing⟩
      rcases ofExcept_eq_ok.mp checked with ⟨accepted, rfl⟩
      cases storing
      have complete := checkArray_eq_ok_iff.mp accepted
      exact ⟨_, _, .array (Tensor.consistent_iff.mpr complete), rfl⟩
  | name name =>
      rcases addNames_eq_ok added with ⟨given, rfl⟩
      exact ⟨_, _, .name (given name List.mem_cons_self), rfl⟩
  | names names =>
      rcases addNames_eq_ok added with ⟨given, rfl⟩
      exact ⟨_, _, .names given, rfl⟩
  | node source =>
      change addOutput source before = (.ok (), after) at added
      rw [addOutput] at added
      cases leads : source.outputs.head? with
      | none =>
          rw [leads] at added
          cases added
      | some output =>
          rw [leads] at added
          cases added
          exact ⟨_, _, .node leads, by simp [Staging.extended]⟩

end Collecting

/-! ## Collected arguments -/

/-- A staging in which arguments were collected, one after the other. -/
inductive Collected (base : Nat) : List Argument → Staging → Prop where
  | start : Collected base [] (.start base)
  | add {arguments : List Argument} {argument : Argument} {before after : Staging}
      (earlier : Collected base arguments before)
      (added : Collecting.add (some argument) before = (.ok (), after)) :
      Collected base (arguments ++ [argument]) after

namespace Collected

variable {base : Nat} {arguments : List Argument} {staging : Staging}

theorem base_eq (collected : Collected base arguments staging) :
    staging.base = base := by
  induction collected with
  | start => rfl
  | add earlier added ih =>
      exact ((Collecting.add_atomic _).related_of_ok added).base.trans ih

/-- Arguments that are missing leave no trace in a staging. -/
theorem addAll (collected : Collected base arguments staging)
    {more : List (Option Argument)} {after : Staging}
    (added : Collecting.addAll more staging = (.ok (), after)) :
    Collected base (arguments ++ more.filterMap id) after := by
  induction more generalizing arguments staging with
  | nil =>
      cases added
      simpa using collected
  | cons argument rest ih =>
      rcases bind_eq_ok.mp added with ⟨_, between, first, following⟩
      cases argument with
      | none =>
          cases first
          exact ih collected following
      | some argument =>
          have complete := ih (collected.add first) following
          simpa using complete

end Collected

/-! ## Commits -/

/-- The builder with a new node, its initializers, and the node counted. -/
def Builder.commit (builder : Builder) (node : Message.Node)
    (initializers : List Message.Tensor) : Builder :=
  ((builder.withInitializers initializers).withNode node).counting node.opType

namespace Builder

variable (builder : Builder) (node : Message.Node) (initializers : List Message.Tensor)

@[simp]
theorem commit_initializers :
    (builder.commit node initializers).graph.initializers =
      builder.graph.initializers ++ initializers :=
  rfl

@[simp]
theorem commit_nodes :
    (builder.commit node initializers).graph.nodes = builder.graph.nodes ++ [node] :=
  rfl

@[simp]
theorem nodeMessage_opType (operator domain : String) (declared : Nat)
    (inputs : List String) (count : OutputCount) (attributes : Attributes) :
    (builder.nodeMessage operator domain declared inputs count attributes).opType =
      operator :=
  rfl

end Builder

/-- A node that was made of arguments, with the builder before and after it. -/
inductive Committed (arguments : List Argument) (before : Builder) :
    Message.Node → Builder → Prop where
  | intro {operator domain : String} {version : Int64} {schema : Schema} {inputs : Staging}
      {count : OutputCount} {attributes : Attributes} {node : Message.Node}
      (found : before.catalogue.get? operator version domain = some schema)
      (collected : Collected before.graph.initializers.length arguments inputs)
      (made : node =
        before.nodeMessage operator domain schema.outputs.length inputs.names count attributes)
      (conforms : schema.fault? node = none) :
      Committed arguments before node (before.commit node inputs.initializers)

theorem Committed.nodes_eq {arguments : List Argument} {before after : Builder}
    {node : Message.Node} (committed : Committed arguments before node after) :
    after.graph.nodes = before.graph.nodes ++ [node] := by
  cases committed
  rfl

namespace Building

/-! ## Making a node -/

theorem checkCurrent_run (operator : String) (inputs : Staging) (before : Builder) :
    checkCurrent operator inputs before =
      (if inputs.base = before.graph.initializers.length then .ok ()
        else .error (.invalidInput (.stale operator)), before) := by
  rw [checkCurrent]
  simp only [bind_run, get_run]
  split <;> rfl

theorem checkNode_run (schema : Schema) (node : Message.Node) (before : Builder) :
    checkNode schema node before =
      (match schema.fault? node with
        | some fault => .error (.nonconforming fault)
        | none => .ok (), before) := by
  rw [checkNode]
  cases schema.fault? node <;> rfl

/--
The schema is looked up first, then the staging is compared with the graph, and then the
node is checked.  Only a node that passes all three is committed.
-/
theorem makeNode_run (operator domain : String) (version : Int64) (inputs : Staging)
    (count : OutputCount) (attributes : Attributes) (before : Builder) :
    makeNode operator domain version inputs count attributes before =
      match before.catalogue.get? operator version domain with
      | none => (.error (.unknownSchema operator domain version), before)
      | some schema =>
        let node := before.nodeMessage operator domain schema.outputs.length inputs.names
          count attributes
        if inputs.base = before.graph.initializers.length then
          match schema.fault? node with
          | some fault => (.error (.nonconforming fault), before)
          | none => (.ok node, before.commit node inputs.initializers)
        else (.error (.invalidInput (.stale operator)), before) := by
  rw [makeNode]
  simp only [bind_run, get_run, Builder.schema]
  cases before.catalogue.get? operator version domain with
  | none => rfl
  | some schema =>
      simp only [ofExcept_ok_run, checkCurrent_run]
      by_cases current : inputs.base = before.graph.initializers.length
      · simp only [current, if_true, checkNode_run]
        cases schema.fault? (before.nodeMessage operator domain schema.outputs.length
          inputs.names count attributes) <;> rfl
      · simp only [current, if_false]

theorem collect_run (arguments : List (Option Argument)) (before : Builder) :
    collect arguments before =
      (match Collecting.addAll arguments before.stage with
        | (.ok _, inputs) => .ok inputs
        | (.error fault, _) => .error (.invalidInput fault), before) := by
  rw [collect]
  simp only [bind_run, get_run]
  rcases Collecting.addAll arguments before.stage with ⟨_ | _, _⟩ <;> rfl

section Committed

variable {operator domain : String} {version : Int64} {count : OutputCount}
variable {attributes : Attributes} {before after : Builder} {node : Message.Node}

/-- A node is made exactly if the schema is there and all checks pass. -/
theorem makeNode_eq_ok {inputs : Staging} :
    makeNode operator domain version inputs count attributes before = (.ok node, after) ↔
      ∃ schema, before.catalogue.get? operator version domain = some schema ∧
        inputs.base = before.graph.initializers.length ∧
        node = before.nodeMessage operator domain schema.outputs.length inputs.names count
          attributes ∧
        schema.fault? node = none ∧
        after = before.commit node inputs.initializers := by
  rw [makeNode_run]
  constructor
  · intro made
    cases found : before.catalogue.get? operator version domain with
    | none =>
        rw [found] at made
        cases made
    | some schema =>
        simp only [found] at made
        split at made
        next current =>
          split at made
          · cases made
          next conforms =>
            cases made
            exact ⟨schema, rfl, current, rfl, conforms, rfl⟩
        · cases made
  · rintro ⟨schema, found, current, rfl, conforms, rfl⟩
    simp only [found, current, conforms, if_true]

/-- A node is added exactly if its arguments are collected and the node is made. -/
theorem addNode_eq_ok {arguments : List (Option Argument)} :
    addNode operator domain version arguments count attributes before = (.ok node, after) ↔
      ∃ inputs, Collecting.addAll arguments before.stage = (.ok (), inputs) ∧
        makeNode operator domain version inputs count attributes before =
          (.ok node, after) := by
  rw [addNode, bind_run, collect_run]
  cases added : Collecting.addAll arguments before.stage with
  | mk outcome inputs =>
      cases outcome with
      | error fault =>
          constructor
          · intro making
            cases making
          · rintro ⟨_, same, _⟩
            cases same
      | ok _ =>
          constructor
          · exact fun making => ⟨inputs, rfl, making⟩
          · rintro ⟨_, same, making⟩
            cases same
            exact making

/-- A staging that passes was collected for the graph as it is. -/
theorem makeNode_committed {inputs : Staging} {base : Nat} {arguments : List Argument}
    (collected : Collected base arguments inputs)
    (made : makeNode operator domain version inputs count attributes before =
      (.ok node, after)) :
    Committed arguments before node after := by
  rcases makeNode_eq_ok.mp made with ⟨schema, found, current, rfl, conforms, rfl⟩
  have sameBase : base = before.graph.initializers.length :=
    collected.base_eq.symm.trans current
  exact .intro found (sameBase ▸ collected) rfl conforms

theorem addNode_committed {arguments : List (Option Argument)}
    (made : addNode operator domain version arguments count attributes before =
      (.ok node, after)) :
    Committed (arguments.filterMap id) before node after := by
  rcases addNode_eq_ok.mp made with ⟨inputs, added, making⟩
  have collected : Collected before.graph.initializers.length (arguments.filterMap id) inputs := by
    simpa using Collected.start.addAll added
  exact makeNode_committed collected making

/-- A new node conforms to the schema that it was asked for by. -/
theorem addNode_conforms {arguments : List (Option Argument)}
    (made : addNode operator domain version arguments count attributes before =
      (.ok node, after)) :
    node.opType = operator ∧ node.domain = domain ∧
      ∃ schema, before.catalogue.get? operator version domain = some schema ∧
        schema.fault? node = none := by
  rcases addNode_eq_ok.mp made with ⟨inputs, _, making⟩
  rcases makeNode_eq_ok.mp making with ⟨schema, found, _, rfl, conforms, _⟩
  exact ⟨rfl, rfl, schema, found, conforms⟩

end Committed

end Building

end OnnxForge.Build

namespace OnnxForge.Binding

open Attempt Build

variable {attributes : Attributes} {before after : Builder} {node : Message.Node}

theorem Function.call_committed {function : Function} {environment : Environment}
    (made : function.call environment attributes before = (.ok node, after)) :
    Committed ((arguments environment).filterMap id) before node after := by
  rcases call_eq_ok.mp made with ⟨_, _, making⟩
  exact Building.addNode_committed making

/-- The node of a dispatcher is made of its present arguments, in the order given. -/
theorem Dispatcher.call_committed {dispatcher : Dispatcher}
    {arguments : List (Option Argument)}
    (made : dispatcher.call arguments attributes before = (.ok node, after)) :
    Committed (arguments.filterMap id) before node after := by
  rcases call_eq_ok.mp made with ⟨_, _, _, _, _, _, _, _, making⟩
  exact Building.addNode_committed making

end OnnxForge.Binding
