import OnnxForge.Catalogue.Builtin
import OnnxForge.Proofs.Build.Session
import OnnxForge.Proofs.Catalogue.Conformance

/-!
# Which nodes are made

Whether staged inputs become a node is decided by the catalogue, by the initializers that the
graph has had since, and by what the schema admits. Nothing else counts, because no name of a
staging is empty: names are checked one by one, arrays have names of the builder, and nodes
stand for outputs that a builder has named. Callers have no nodes but those that builders have
handed out.
-/

namespace OnnxForge.Build

open Attempt

/-! ## Outputs -/

/-- The number of outputs of a node of a schema with so many declared. -/
def OutputCount.number (declared : Nat) : OutputCount → Nat
  | .declared => declared
  | .exactly count => count

namespace Builder

theorem length_outputNames (stem : String) (declared : Nat) (count : OutputCount) :
    (outputNames stem declared count).length = count.number declared := by
  have numbered : ∀ number, (numberedOutputs stem number).length = number := by
    simp [numberedOutputs]
  cases count with
  | declared =>
      rw [outputNames]
      split
      next single => exact single.symm
      next => exact numbered declared
  | exactly count => exact numbered count

/-- Outputs have names that begin as all names of builders do. -/
theorem notMem_outputNames (stem : String) (declared : Nat) (count : OutputCount) :
    "" ∉ outputNames stem declared count := by
  have numbered : ∀ number, "" ∉ numberedOutputs stem number := by
    intro number member
    rcases List.mem_map.mp member with ⟨index, _, same⟩
    simp at same
  cases count with
  | declared =>
      rw [outputNames]
      split
      · simp [namePrefix]
      · exact numbered declared
  | exactly count => exact numbered count

end Builder

/-! ## Arguments that callers have -/

/-- Some builder has handed the node out. -/
def Issued (node : Message.Node) : Prop :=
  ∃ catalogue calls call,
    ((Session.start catalogue).run calls).made? call = some node

theorem Issued.notMem_outputs {node : Message.Node} (issued : Issued node) :
    "" ∉ node.outputs := by
  rcases issued with ⟨catalogue, calls, call, made⟩
  have honest := (Session.honest_start catalogue).run calls
  generalize (Session.start catalogue).run calls = session at honest made
  have committed := Session.committed_of_made honest made
  generalize (session.perform call).builder = after at committed
  cases committed with
  | intro found collected made conforms =>
      rw [made]
      exact Builder.notMem_outputNames _ _ _

/-- A caller can have the argument: its node, if it is one, was handed out. -/
def Argument.Genuine : Argument → Prop
  | .node source => Issued source
  | _ => True

/-- The arguments that a call passes for inputs. -/
def Call.arguments : Call → List Argument
  | .extend _ argument => argument.toList
  | .addNode _ _ _ arguments _ _ => arguments.filterMap id
  | .function _ environment _ => (Binding.Function.arguments environment).filterMap id
  | .dispatch _ arguments _ => arguments.filterMap id
  | _ => []

/-- A caller can have all arguments of the call. -/
def Call.Genuine (call : Call) : Prop :=
  ∀ argument ∈ call.arguments, argument.Genuine

theorem initializerName_ne_empty (place : Nat) : initializerName place ≠ "" := by
  simp [initializerName, namePrefix]

/-- What a genuine argument adds has a name. -/
theorem Contribution.notMem_names {place : Nat} {argument : Argument} {names : List String}
    {initializers : List Message.Tensor}
    (contribution : Contribution place argument names initializers)
    (genuine : argument.Genuine) : "" ∉ names := by
  cases contribution with
  | array fits =>
      exact fun member => initializerName_ne_empty place (List.mem_singleton.mp member).symm
  | name given => exact fun member => given (List.mem_singleton.mp member).symm
  | names given => exact fun member => given "" member rfl
  | node leads =>
      intro member
      rcases List.mem_singleton.mp member with rfl
      exact genuine.notMem_outputs (List.mem_of_mem_head? leads)

/-- No name of a staging is empty. -/
theorem Collected.notMem_names {base : Nat} {arguments : List Argument} {staging : Staging}
    (collected : Collected base arguments staging)
    (genuine : ∀ argument ∈ arguments, argument.Genuine) : "" ∉ staging.names := by
  induction collected with
  | start => exact List.not_mem_nil
  | add earlier added ih =>
      have ⟨before, last⟩ := List.forall_mem_append.mp genuine
      rcases Collecting.add_contribution added with ⟨names, initializers, contribution, rfl⟩
      have new := contribution.notMem_names (last _ List.mem_cons_self)
      exact fun member => (List.mem_append.mp member).elim (ih before) new

/-! ## Making a node -/

namespace Builder

/-- The first condition on which staged inputs do not become a node, with the error that tells
it: the schema is not there, the graph has gained initializers since, or the schema refuses the
node. -/
inductive Refuses (before : Builder) (operator domain : String) (version : Int64)
    (inputs : Staging) (count : OutputCount) (attributes : Attributes) : BuildError → Prop
  | unknown (missing : before.catalogue.get? operator version domain = none) :
      Refuses before operator domain version inputs count attributes
        (.unknownSchema operator domain version)
  | stale {schema : Schema}
      (found : before.catalogue.get? operator version domain = some schema)
      (changed : inputs.base ≠ before.graph.initializers.length) :
      Refuses before operator domain version inputs count attributes
        (.invalidInput (.stale operator))
  | nonconforming {schema : Schema} {fault : ConformanceFault}
      (found : before.catalogue.get? operator version domain = some schema)
      (current : inputs.base = before.graph.initializers.length)
      (refuses : schema.Refuses (before.stem operator) inputs.names.length
        (count.number schema.outputs.length) attributes fault) :
      Refuses before operator domain version inputs count attributes (.nonconforming fault)

variable {before : Builder} {operator domain : String} {version : Int64} {inputs : Staging}
variable {count : OutputCount} {attributes : Attributes} {schema : Schema}

theorem isOf_of_get? (found : before.catalogue.get? operator version domain = some schema) :
    schema ∈ before.catalogue.schemas ∧ schema.isOf operator domain = true :=
  List.mem_filter.mp (List.mem_of_find?_eq_some found)

theorem fault?_nodeMessage_eq_none_iff (before : Builder)
    (isOf : schema.isOf operator domain = true) (present : "" ∉ inputs.names) :
    schema.fault? (before.nodeMessage operator domain schema.outputs.length inputs.names count
        attributes) = none ↔
      schema.Admits inputs.names.length (count.number schema.outputs.length) attributes := by
  rw [nodeMessage, Schema.fault?_eq_none_iff isOf present, length_outputNames]

theorem fault?_nodeMessage_eq_some_iff (before : Builder)
    (isOf : schema.isOf operator domain = true) (present : "" ∉ inputs.names)
    {fault : ConformanceFault} :
    schema.fault? (before.nodeMessage operator domain schema.outputs.length inputs.names count
        attributes) = some fault ↔
      schema.Refuses (before.stem operator) inputs.names.length
        (count.number schema.outputs.length) attributes fault := by
  rw [nodeMessage, Schema.fault?_eq_some_iff isOf present, length_outputNames]

end Builder

namespace Building

variable {before : Builder} {operator domain : String} {version : Int64} {inputs : Staging}
variable {count : OutputCount} {attributes : Attributes} {error : BuildError}

theorem exists_makeNode_iff (present : "" ∉ inputs.names) :
    (∃ node,
      (makeNode operator domain version inputs count attributes before).1 = .ok node) ↔
      ∃ schema, before.catalogue.get? operator version domain = some schema ∧
        inputs.base = before.graph.initializers.length ∧
        schema.Admits inputs.names.length (count.number schema.outputs.length) attributes := by
  constructor
  · rintro ⟨node, made⟩
    rcases makeNode_eq_ok.mp (Prod.ext made rfl) with ⟨schema, found, current, rfl, conforms, _⟩
    have isOf := (Builder.isOf_of_get? found).2
    exact ⟨schema, found, current,
      (before.fault?_nodeMessage_eq_none_iff isOf present).mp conforms⟩
  · rintro ⟨schema, found, current, admits⟩
    have isOf := (Builder.isOf_of_get? found).2
    have conforms := (before.fault?_nodeMessage_eq_none_iff isOf present).mpr admits
    have made := makeNode_eq_ok.mpr ⟨schema, found, current, rfl, conforms, rfl⟩
    exact ⟨_, congrArg Prod.fst made⟩

/-- A call that is refused fails with that error, and changes nothing. -/
theorem makeNode_of_refuses (present : "" ∉ inputs.names)
    (refuses : before.Refuses operator domain version inputs count attributes error) :
    makeNode operator domain version inputs count attributes before = (.error error, before) := by
  rw [makeNode_run]
  cases refuses with
  | unknown missing => simp only [missing]
  | stale found changed => simp only [found, changed, if_false]
  | nonconforming found current refuses =>
      have isOf := (Builder.isOf_of_get? found).2
      have faulty := (before.fault?_nodeMessage_eq_some_iff isOf present).mpr refuses
      simp only [found, current, faulty, if_true]

/-- A call that makes no node is refused by some condition. -/
theorem exists_refuses (present : "" ∉ inputs.names)
    (unmade : ¬ ∃ schema, before.catalogue.get? operator version domain = some schema ∧
      inputs.base = before.graph.initializers.length ∧
      schema.Admits inputs.names.length (count.number schema.outputs.length) attributes) :
    ∃ error, before.Refuses operator domain version inputs count attributes error := by
  cases found : before.catalogue.get? operator version domain with
  | none => exact ⟨_, .unknown found⟩
  | some schema =>
      by_cases current : inputs.base = before.graph.initializers.length
      case neg => exact ⟨_, .stale found current⟩
      have isOf := (Builder.isOf_of_get? found).2
      cases faulty : schema.fault? (before.nodeMessage operator domain schema.outputs.length
          inputs.names count attributes) with
      | none =>
          have admits := (before.fault?_nodeMessage_eq_none_iff isOf present).mp faulty
          exact absurd ⟨schema, found, current, admits⟩ unmade
      | some fault =>
          exact ⟨_, .nonconforming found current
            ((before.fault?_nodeMessage_eq_some_iff isOf present).mp faulty)⟩

/-- The first condition that fails decides on the error. -/
theorem makeNode_eq_error_iff (present : "" ∉ inputs.names) :
    (makeNode operator domain version inputs count attributes before).1 = .error error ↔
      before.Refuses operator domain version inputs count attributes error := by
  constructor
  · intro failed
    have unmade : ¬ ∃ node,
        (makeNode operator domain version inputs count attributes before).1 = .ok node :=
      fun ⟨node, made⟩ => nomatch made.symm.trans failed
    rcases exists_refuses present ((exists_makeNode_iff present).not.mp unmade) with
      ⟨told, refuses⟩
    have failedSo := congrArg Prod.fst (makeNode_of_refuses present refuses)
    cases failedSo.symm.trans failed
    exact refuses
  · exact fun refuses => congrArg Prod.fst (makeNode_of_refuses present refuses)

end Building

/-! ## Nodes of a graph -/

/-- A node conforms to a schema of its operator, and none of its inputs is missing. -/
structure Conforms (schema : Schema) (node : Message.Node) : Prop where
  isOf : schema.isOf node.opType node.domain = true
  present : "" ∉ node.inputs
  admitted : ∃ attributes : Attributes,
    node.attributes = attributes.entries.map (fun entry => entry.2.toMessage entry.1) ∧
      schema.Admits node.inputs.length node.outputs.length attributes

/-- A node that was made of genuine arguments conforms to a schema of the catalogue. -/
theorem Committed.conforms {arguments : List Argument} {before after : Builder}
    {node : Message.Node} (committed : Committed arguments before node after)
    (genuine : ∀ argument ∈ arguments, argument.Genuine) :
    ∃ schema ∈ before.catalogue.schemas, Conforms schema node := by
  cases committed with
  | @intro operator domain version schema inputs count attributes _ found collected made
      conforms =>
      have ⟨listed, isOf⟩ := Builder.isOf_of_get? found
      have present := collected.notMem_names genuine
      rw [made, before.fault?_nodeMessage_eq_none_iff isOf present,
        ← Builder.length_outputNames (before.stem operator)] at conforms
      refine ⟨schema, listed, ?_⟩
      rw [made]
      exact ⟨isOf, present, attributes, rfl, conforms⟩

namespace Session

variable {session : Session}

/-- The arguments of all drafts are such as callers can have. -/
def Genuine (session : Session) : Prop :=
  ∀ draft ∈ session.drafts, ∀ argument ∈ draft.arguments, argument.Genuine

/-- What is offered for a node comes from the call or from a draft. -/
theorem Genuine.offered (genuine : session.Genuine) {call : Call} (passed : call.Genuine) :
    ∀ argument ∈ session.offered call, argument.Genuine := by
  cases call with
  | makeNode position operator domain version count attributes =>
      rw [Session.offered]
      cases present : session.drafts[position]? with
      | none => exact List.forall_mem_nil _
      | some draft => exact genuine draft (List.mem_of_getElem? present)
  | addNode _ _ _ _ _ _ | function _ _ _ | dispatch _ _ _ => exact passed
  | _ => exact List.forall_mem_nil _

/-- An argument of an extended draft was there, or is the one given. -/
theorem mem_extend {draft : Draft} {given : Option Argument} {argument : Argument}
    (member : argument ∈ (draft.extend given).arguments) :
    argument ∈ draft.arguments ∨ argument ∈ given.toList := by
  rw [Draft.extend] at member
  split at member
  · exact List.mem_append.mp member
  · exact .inl member

theorem Genuine.perform (genuine : session.Genuine) {call : Call} (passed : call.Genuine) :
    (session.perform call).Genuine := by
  refine forall_drafting call (List.forall_mem_nil _) ?_ genuine
  rintro draft position argument rfl before other member
  rcases mem_extend member with old | new
  · exact before other old
  · exact passed other new

/-- Every node conforms to a schema of the catalogue. -/
def Conforming (session : Session) : Prop :=
  ∀ node ∈ session.builder.graph.nodes,
    ∃ schema ∈ session.builder.catalogue.schemas, Conforms schema node

/-- A call with genuine arguments keeps all nodes conforming. -/
theorem Conforming.perform (conforming : session.Conforming) (honest : session.Honest)
    (genuine : session.Genuine) {call : Call} (passed : call.Genuine) :
    (session.perform call).Conforming := by
  have effect := perform_effect honest call
  have offered := genuine.offered passed
  rw [Conforming, effect.catalogue_eq, effect.nodes_eq]
  refine List.forall_mem_append.mpr ⟨conforming, fun node member => ?_⟩
  have made : session.made? call = some node := Option.mem_toList.mp member
  exact (committed_of_made honest made).conforms offered

theorem conforming_run (honest : session.Honest) (genuine : session.Genuine)
    (conforming : session.Conforming) {calls : List Call} (passed : ∀ call ∈ calls, call.Genuine) :
    (session.run calls).Genuine ∧ (session.run calls).Conforming := by
  induction calls generalizing session with
  | nil => exact ⟨genuine, conforming⟩
  | cons call rest ih =>
      have ⟨first, others⟩ := List.forall_mem_cons.mp passed
      exact ih (honest.perform call) (genuine.perform first)
        (conforming.perform honest genuine first) others

/-- Staged inputs of arguments that callers can have become a node exactly if the catalogue has
the schema, the graph has the initializers that it had when the staging began, and the schema
admits the node; of the conditions that fail the first decides on the error. The drafts of a
session are such stagings, and every node of its graph conforms to a schema of the catalogue,
with no input missing. -/
theorem nodes_checked :
    (∀ (before : Builder) (base : Nat) (arguments : List Argument) (inputs : Staging),
      Collected base arguments inputs → (∀ argument ∈ arguments, argument.Genuine) →
      ∀ (operator domain : String) (version : Int64) (count : OutputCount)
        (attributes : Attributes),
        let outcome :=
          (Building.makeNode operator domain version inputs count attributes before).1
        ((∃ node, outcome = .ok node) ↔
          ∃ schema, before.catalogue.get? operator version domain = some schema ∧
            base = before.graph.initializers.length ∧
            schema.Admits inputs.names.length (count.number schema.outputs.length) attributes) ∧
        ∀ error, outcome = .error error ↔
          before.Refuses operator domain version inputs count attributes error) ∧
    ∀ (catalogue : Catalogue) (calls : List Call), (∀ call ∈ calls, call.Genuine) →
      let session := (start catalogue).run calls
      (∀ draft ∈ session.drafts, (∃ base, Collected base draft.arguments draft.staging) ∧
        ∀ argument ∈ draft.arguments, argument.Genuine) ∧
      ∀ node ∈ session.builder.graph.nodes,
        "" ∉ node.inputs ∧ ∃ schema ∈ catalogue.schemas, Conforms schema node := by
  constructor
  · intro before base arguments inputs collected genuine operator domain version count
      attributes outcome
    have present := collected.notMem_names genuine
    rw [← collected.base_eq]
    exact ⟨Building.exists_makeNode_iff present,
      fun error => Building.makeNode_eq_error_iff present⟩
  · intro catalogue calls passed session
    have honest := (honest_start catalogue).run calls
    have ⟨genuine, conforming⟩ := conforming_run (honest_start catalogue)
      (List.forall_mem_nil _) (List.forall_mem_nil _) passed
    rw [Conforming, catalogue_run] at conforming
    refine ⟨fun draft member => ⟨honest draft member, genuine draft member⟩, ?_⟩
    intro node member
    rcases conforming node member with ⟨schema, listed, conforms⟩
    exact ⟨conforms.present, schema, listed, conforms⟩

/-- A node of a name, and a node of that node; of another domain there is no schema. -/
theorem nodes_checked_of_chain :
    let catalogue : Catalogue := .ofList Catalogue.Builtin.concatVersions
    let join (arguments : List Argument) : Call :=
      .addNode "Concat" "" 1 (arguments.map some) .declared .empty
    ∃ first, (start catalogue).made? (join [.name "x"]) = some first ∧
      let session := (start catalogue).run [join [.name "x"], join [.node first]]
      session.builder.graph.nodes.length = 2 ∧
      (∀ node ∈ session.builder.graph.nodes,
        "" ∉ node.inputs ∧ ∃ schema ∈ catalogue.schemas, Conforms schema node) ∧
      (Building.makeNode "Concat" "other" 1 (.start 0) .declared .empty session.builder).1 =
        .error (.unknownSchema "Concat" "other" 1) := by
  intro catalogue join
  refine ⟨_, rfl, rfl, (nodes_checked.2 catalogue _ ?passed).2, ?unknown⟩
  case passed =>
    refine List.forall_mem_cons.mpr ⟨?named, List.forall_mem_singleton.mpr ?chained⟩
    case named => exact List.forall_mem_singleton.mpr trivial
    case chained => exact List.forall_mem_singleton.mpr ⟨catalogue, [], join [.name "x"], rfl⟩
  case unknown =>
    exact ((nodes_checked.1 _ 0 [] (.start 0) .start (List.forall_mem_nil _) "Concat" "other" 1
      .declared .empty).2 _).mpr (.unknown (by decide +kernel))

end Session

end OnnxForge.Build
