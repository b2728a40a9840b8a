import Mathlib.Data.List.Forall2
import OnnxForge.Network.OfGraph
import OnnxForge.Proofs.Network.Plan

/-!
# Compilations

A network that was generated tells the steps of its generation. Every node had a plan, which
was performed; the inputs and outputs were declared from what was known at the time; and all
identifiers are those of one naming, in which no two names have the same one. What networks
have in common follows from these steps, and not from the code of the generators.
-/

namespace OnnxForge.Network

open Attempt

variable {setting : Setting} {generators : Generators} {naming : Naming} {node : Node}
  {before after : Progress} {code : NodeCode}

/-- Whatever is on the left of related lists has its relative on the right. -/
theorem exists_of_forall₂ {α β : Type} {R : α → β → Prop} {left : List α} {right : List β}
    (related : List.Forall₂ R left right) {item : α} (member : item ∈ left) :
    ∃ relative ∈ right, R item relative := by
  induction related with
  | nil => cases member
  | cons first _ ih =>
      rcases List.mem_cons.mp member with rfl | later
      · exact ⟨_, List.mem_cons_self, first⟩
      · rcases ih later with ⟨relative, present, holds⟩
        exact ⟨relative, List.mem_cons_of_mem _ present, holds⟩

/-! ## Single nodes -/

/-- The code that performing a plan gives, for an output. -/
inductive Plan.Yields (setting : Setting) (naming : Naming) (output : String) :
    Plan → NodeCode → Prop where
  | plain {template value : Expression} {known : Inferred}
      (same : value.uncloned = setting.named naming.identifier template) :
      Yields setting naming output (.plain template known)
        ⟨none, ⟨naming.identifier output, value⟩⟩
  | embedding {weights : Weights} {template index : Expression} {key layer : String}
      (named : naming.nodes.get? key = some layer)
      (same : index.uncloned = setting.named naming.identifier template) :
      Yields setting naming output (.embedding weights template)
        ⟨some ⟨layer, weights⟩, ⟨naming.identifier output, .embed layer index⟩⟩

/-- What it takes to perform a plan for a node with an output. -/
structure Step (setting : Setting) (naming : Naming) (plan : Plan) (output : String)
    (before : Progress) (code : NodeCode) (after : Progress) : Prop where
  grows : before.naming.Grows after.naming
  knownNames : ∀ name ∈ plan.names, naming.Knows name
  knownOutput : naming.Knows output
  yields : plan.Yields setting naming output code
  inferred : after.inferred = before.inferred.insert output plan.known
  constants :
    after.constants = plan.names.foldl (setting.addRead naming.identifier) before.constants
  uses :
    before.uses.consumeAll
        (setting.schedule naming.identifier
          (plan.names.map fun name => (name, before.position))) =
      (code.assignment.value.reads, after.uses)

/-- An output is named, and what is known of it is recorded, after all else. -/
theorem finish_eq_ok {known : Inferred} {build : String → NodeCode} :
    (outputName node 0 >>= fun identifier =>
        infer node 0 known >>= fun _ => pure (build identifier)) before = (.ok code, after) ↔
      ∃ output, node.output? 0 = some output ∧
        code = build (before.naming.tensor output).1 ∧
        after = { before with
          naming := (before.naming.tensor output).2
          inferred := before.inferred.insert output known } := by
  constructor
  · intro run
    rcases bind_eq_ok.mp run with ⟨identifier, named, namedOutput, following⟩
    rcases outputName_eq_ok namedOutput with ⟨output, found, tensorNamed⟩
    rcases bind_pure_eq_ok.mp following with ⟨_, inferring, rfl⟩
    rw [infer, found] at inferring
    cases tensorNamed
    cases inferring
    exact ⟨output, found, rfl, rfl⟩
  · rintro ⟨output, found, rfl, rfl⟩
    rw [outputName, infer, found]
    rfl

theorem Plan.perform_eq_ok {plan : Plan}
    (run : plan.perform setting node before = (.ok code, after))
    (later : after.naming.Grows naming) :
    ∃ output, node.output? 0 = some output ∧
      Step setting naming plan output before code after := by
  cases plan with
  | plain template known =>
      rcases bind_eq_ok.mp run with ⟨value, read, readValue, following⟩
      rcases finish_eq_ok.mp following with ⟨output, found, rfl, rfl⟩
      have namedOutput := read.naming.grows_tensor output
      have ⟨reading, same⟩ := Setting.instantiate_eq_ok readValue (namedOutput.trans later)
      refine ⟨output, found, ?_⟩
      rw [← later.identifier_tensor]
      exact {
        grows := reading.grows.trans namedOutput
        knownNames := reading.known
        knownOutput := later.knows_tensor
        yields := .plain same
        inferred := congrArg (Table.insert · output known) reading.inferred
        constants := reading.constants
        uses := reading.uses }
  | embedding weights template =>
      rcases bind_eq_ok.mp run with ⟨layer, begun, namedLayer, rest⟩
      rcases bind_eq_ok.mp rest with ⟨index, read, readIndex, following⟩
      rcases finish_eq_ok.mp following with ⟨output, found, rfl, rfl⟩
      have namedOutput := read.naming.grows_tensor output
      have ⟨reading, same⟩ := Setting.instantiate_eq_ok readIndex (namedOutput.trans later)
      rcases before.naming.exists_get?_node node.name node.opType with ⟨key, named⟩
      have begins := before.naming.grows_node node.name node.opType
      cases namedLayer
      refine ⟨output, found, ?_⟩
      rw [← later.identifier_tensor]
      have stays := reading.grows.trans (namedOutput.trans later)
      exact {
        grows := begins.trans (reading.grows.trans namedOutput)
        knownNames := reading.known
        knownOutput := later.knows_tensor
        yields := .embedding (stays.nodes named) same
        inferred := congrArg (Table.insert · output ⟨some 3, some .float32⟩) reading.inferred
        constants := reading.constants
        uses := reading.uses }

theorem generateNode_eq_ok {position : Nat} :
    generateNode setting generators node position before = (.ok code, after) ↔
      isDefaultDomain node.domain = true ∧
        ∃ generator plan, generators.find node.opType = .ok generator ∧
          generator.plan setting before.inferred node = .ok plan ∧
          plan.perform setting node { before with position } = (.ok code, after) := by
  rw [generateNode]
  by_cases standard : isDefaultDomain node.domain
  · simp only [standard, Bool.not_true, Bool.false_eq_true, if_false, true_and]
    cases found : generators.find node.opType with
    | error fault =>
        constructor
        · intro failed
          cases failed
        · rintro ⟨_, _, same, _⟩
          cases same
    | ok generator =>
        constructor
        · intro run
          rcases Generator.generate_eq_ok.mp run with ⟨plan, planned, performed⟩
          exact ⟨generator, plan, rfl, planned, performed⟩
        · rintro ⟨_, plan, same, planned, performed⟩
          cases same
          exact Generator.generate_eq_ok.mpr ⟨plan, planned, performed⟩
  · simp only [standard, Bool.not_false, if_true]
    constructor
    · intro failed
      cases failed
    · rintro ⟨nonstandard, _⟩
      cases nonstandard

/-! ## Nodes in a row -/

/-- The steps from node to node, each with its plan. -/
inductive Generates (setting : Setting) (generators : Generators) (naming : Naming) :
    Nat → List Node → Progress → List NodeCode → Progress → Prop where
  | done {position : Nat} {progress : Progress} :
      Generates setting generators naming position [] progress [] progress
  | node {position : Nat} {node : Node} {rest : List Node} {generator : Generator} {plan : Plan}
      {output : String} {before between after : Progress} {code : NodeCode}
      {codes : List NodeCode}
      (found : generators.find node.opType = .ok generator)
      (planned : Planned setting before.inferred node generator plan)
      (output? : node.output? 0 = some output)
      (step : Step setting naming plan output { before with position } code between)
      (following : Generates setting generators naming (position + 1) rest between codes after) :
      Generates setting generators naming position (node :: rest) before (code :: codes) after

theorem Generates.grows {position : Nat} {nodes : List Node} {codes : List NodeCode}
    (generates : Generates setting generators naming position nodes before codes after) :
    before.naming.Grows after.naming := by
  induction generates with
  | done => exact .refl _
  | node _ _ _ step _ ih => exact step.grows.trans ih

theorem generates_of_mapM {nodes : List Node} {position : Nat} {codes : List NodeCode}
    (run : ((nodes.zipIdx position).mapM fun (node, position) =>
      generateNode setting generators node position) before = (.ok codes, after))
    (later : after.naming.Grows naming) :
    Generates setting generators naming position nodes before codes after := by
  induction nodes generalizing position before codes with
  | nil =>
      cases run
      exact .done
  | cons node rest ih =>
      rw [List.zipIdx_cons] at run
      rcases mapM_cons_eq_ok.mp run with ⟨code, others, between, generated, following, rfl⟩
      have steps := ih following
      rcases generateNode_eq_ok.mp generated with ⟨_, generator, plan, found, made, performed⟩
      rcases Plan.perform_eq_ok performed (steps.grows.trans later) with ⟨output, named, step⟩
      exact .node found (Generator.plan_planned made) named step steps

/-! ## All that the nodes read -/

namespace Generators

/-- The inputs that are read of a node. -/
def reads (generators : Generators) (setting : Setting) (node : Node) : List String :=
  match generators.get? node.opType with
  | none => []
  | some generator => generator.reads setting node

/-- The names that nodes read, with the positions of the nodes from a first one on. -/
def readsFrom (generators : Generators) (setting : Setting) (first : Nat) (nodes : List Node) :
    List (String × Nat) :=
  (nodes.zipIdx first).flatMap fun (node, position) =>
    (generators.reads setting node).map fun name => (name, position)

theorem readsFrom_cons (first : Nat) (node : Node) (rest : List Node) :
    generators.readsFrom setting first (node :: rest) =
      (generators.reads setting node).map (fun name => (name, first)) ++
        generators.readsFrom setting (first + 1) rest :=
  rfl

theorem find_eq_ok {operator : String} {generator : Generator} :
    generators.find operator = .ok generator ↔ generators.get? operator = some generator := by
  rw [find]
  cases generators.get? operator <;> simp

theorem reads_of_find {generator : Generator}
    (found : generators.find node.opType = .ok generator) :
    generators.reads setting node = generator.reads setting node := by
  rw [reads, find_eq_ok.mp found]

/-- A generator is registered for its own operator. -/
theorem operator_eq {chosen : List Generator} {operator : String}
    {generator : Generator} (found : (ofGenerators chosen).find operator = .ok generator) :
    generator.operator = operator := by
  have member := Table.mem_of_get?_ofList (find_eq_ok.mp found)
  rcases List.mem_map.mp member with ⟨registered, _, same⟩
  cases same
  rfl

/-- Inputs that are read are not missing. -/
theorem reads_sublist (generators : Generators) (setting : Setting) (node : Node) :
    (generators.reads setting node).Sublist (node.inputs.filter (· != "")) := by
  rw [reads]
  split
  · exact List.nil_sublist _
  next generator _ => exact generator.reads_sublist setting node

end Generators

/-- How the code of a node comes from a plan that was made for it. -/
inductive Made (setting : Setting) (generators : Generators) (naming : Naming) (node : Node)
    (code : NodeCode) : Prop where
  | of_plan {inferred : Table Inferred} {generator : Generator} {plan : Plan} {output : String}
      (found : generators.find node.opType = .ok generator)
      (planned : Planned setting inferred node generator plan)
      (output? : node.output? 0 = some output)
      (knownNames : ∀ name ∈ plan.names, naming.Knows name)
      (knownOutput : naming.Knows output)
      (yields : plan.Yields setting naming output code)

namespace Generates

variable {position : Nat} {nodes : List Node} {codes : List NodeCode}

theorem made (generates : Generates setting generators naming position nodes before codes after) :
    List.Forall₂ (Made setting generators naming) nodes codes := by
  induction generates with
  | done => exact .nil
  | node found planned output? step _ ih =>
      exact .cons
        (.of_plan found planned output? step.knownNames step.knownOutput step.yields) ih

/-- The constants come in the order in which the nodes read them. -/
theorem constants
    (generates : Generates setting generators naming position nodes before codes after) :
    after.constants = (nodes.flatMap (generators.reads setting)).foldl
      (setting.addRead naming.identifier) before.constants := by
  induction generates with
  | done => rfl
  | node found planned output? step _ ih =>
      rw [ih, step.constants, List.flatMap_cons, List.foldl_append, planned.names_eq,
        Generators.reads_of_find found]

/-- The reads of the nodes take away their uses one after the other. -/
theorem uses (generates : Generates setting generators naming position nodes before codes after) :
    before.uses.consumeAll
        (setting.schedule naming.identifier (generators.readsFrom setting position nodes)) =
      (codes.flatMap (·.assignment.value.reads), after.uses) := by
  induction generates with
  | done => rfl
  | node found planned output? step _ ih =>
      rw [Generators.readsFrom_cons, Setting.schedule_append, List.flatMap_cons,
        Generators.reads_of_find found, ← planned.names_eq]
      exact Uses.consumeAll_append step.uses ih

end Generates

/-! ## What is known of values -/

namespace Setting

variable {inferred : Table Inferred} {name output : String} {known : Inferred}

/-- What is known of a value stays while others are recorded. -/
theorem rankOf?_insert (different : name ≠ output) :
    setting.rankOf? (inferred.insert output known) name = setting.rankOf? inferred name := by
  rw [rankOf?, rankOf?, Table.get?_insert, if_neg different]

theorem elementTypeOf?_insert (different : name ≠ output) :
    setting.elementTypeOf? (inferred.insert output known) name =
      setting.elementTypeOf? inferred name := by
  rw [elementTypeOf?, elementTypeOf?, Table.get?_insert, if_neg different]

theorem isInitializer_eq_true {tensor : Tensor} (initial : setting.initializer? name = some tensor) :
    setting.isInitializer name = true := by
  rw [isInitializer, initial, Option.isSome_some]

theorem initializer?_eq_none (computed : setting.isInitializer name = false) :
    setting.initializer? name = none := by
  simpa [isInitializer] using computed

/-- What is recorded of a value is known of it, unless it was declared or initial. -/
theorem rankOf?_insert_self
    (undeclared : (setting.graph.valueInfos.get? output).bind ValueInfo.rank? = none)
    (computed : setting.isInitializer output = false) :
    setting.rankOf? (inferred.insert output known) output = known.rank := by
  rw [rankOf?, undeclared, initializer?_eq_none computed, Table.get?_insert, if_pos rfl]
  rfl

theorem elementTypeOf?_insert_self
    (undeclared : (setting.graph.valueInfos.get? output).bind ValueInfo.elementType = none)
    (computed : setting.isInitializer output = false) :
    setting.elementTypeOf? (inferred.insert output known) output = known.elementType := by
  rw [elementTypeOf?, undeclared, initializer?_eq_none computed, Table.get?_insert, if_pos rfl]
  rfl

end Setting

/-! ## Declarations -/

/-- How an input or an output is declared from what is known. -/
structure Declares (setting : Setting) (naming : Naming) (inferred : Table Inferred)
    (info : ValueInfo) (input : Input) : Prop where
  known : naming.Knows info.name
  name : input.name = naming.identifier info.name
  type : ∃ rank, setting.rankOf? inferred info.name = some rank ∧
    input.type = ⟨Nat.max rank 1,
      (setting.elementTypeOf? inferred info.name).elim .float .ofElementType⟩

theorem declare_run (setting : Setting) (name : String) (before : Progress) :
    declare setting name before =
      match setting.rankOf? before.inferred name with
      | none => (.error (.missingValueInfo name), before)
      | some rank =>
        (.ok ⟨(before.naming.tensor name).1, ⟨Nat.max rank 1,
            (setting.elementTypeOf? before.inferred name).elim .float .ofElementType⟩⟩,
          { before with naming := (before.naming.tensor name).2 }) := by
  rw [declare, bind_run, Setting.rank_run]
  cases setting.rankOf? before.inferred name <;> rfl

theorem mapM_declare_eq_ok {infos : List ValueInfo} {inputs : List Input}
    (run : (infos.mapM fun info => declare setting info.name) before = (.ok inputs, after))
    (later : after.naming.Grows naming) :
    before.naming.Grows after.naming ∧ after = { before with naming := after.naming } ∧
      List.Forall₂ (Declares setting naming before.inferred) infos inputs := by
  induction infos generalizing before inputs with
  | nil =>
      cases run
      exact ⟨.refl _, rfl, .nil⟩
  | cons info rest ih =>
      rcases mapM_cons_eq_ok.mp run with ⟨input, others, between, declared, following, rfl⟩
      have ⟨grows, same, declares⟩ := ih following
      rw [declare_run] at declared
      cases ranked : setting.rankOf? before.inferred info.name with
      | none =>
          rw [ranked] at declared
          cases declared
      | some rank =>
          rw [ranked] at declared
          dsimp only at declared
          cases declared
          have stays := grows.trans later
          refine ⟨(before.naming.grows_tensor info.name).trans grows, same, ?_⟩
          exact .cons ⟨stays.knows_tensor, stays.identifier_tensor.symm, rank, ranked, rfl⟩ declares

/-! ## Names and uses ahead of the nodes -/

theorem forM_tensorName_eq_ok {infos : List ValueInfo}
    (run : (infos.forM fun info => discard (tensorName info.name)) before = (.ok (), after)) :
    before.naming.Grows after.naming ∧ after = { before with naming := after.naming } := by
  induction infos generalizing before with
  | nil =>
      cases run
      exact ⟨.refl _, rfl⟩
  | cons info rest ih =>
      rcases bind_eq_ok.mp run with ⟨_, between, named, following⟩
      have ⟨grows, same⟩ := ih following
      cases named
      exact ⟨(before.naming.grows_tensor info.name).trans grows, same⟩

theorem forM_registerUse_eq_ok {occurring : List (String × Nat)}
    (run : (occurring.forM fun use => registerUse use.1 use.2) before = (.ok (), after))
    (later : after.naming.Grows naming) :
    before.naming.Grows after.naming ∧
      after = { before with
        naming := after.naming
        uses := before.uses.registerAll
          (occurring.map fun use => (naming.identifier use.1, use.2)) } ∧
      ∀ use ∈ occurring, naming.Knows use.1 := by
  induction occurring generalizing before with
  | nil =>
      cases run
      exact ⟨.refl _, rfl, List.forall_mem_nil _⟩
  | cons use rest ih =>
      rcases bind_eq_ok.mp run with ⟨_, between, registered, following⟩
      have ⟨grows, same, known⟩ := ih following
      cases registered
      have stays := grows.trans later
      refine ⟨(before.naming.grows_tensor use.1).trans grows, same.trans ?_, ?_⟩
      · rw [List.map_cons, stays.identifier_tensor]
        rfl
      · exact List.forall_mem_cons.mpr ⟨stays.knows_tensor, known⟩

/-! ## Whole graphs -/

/-- The occurrences of names in a graph that count as uses. -/
def counted (graph : Graph) : List (String × Nat) :=
  (occurrences graph).filter fun use => use.1 != ""

/-- The reads of the outputs of a graph. -/
def outputReads (graph : Graph) : List (String × Nat) :=
  graph.outputs.map fun output => (output.name, graph.nodes.length)

theorem registered_eq (setting : Setting) :
    ((occurrences setting.graph).filter fun use => isComputed setting.graph use.1) =
      (counted setting.graph).filter fun use => !setting.isInitializer use.1 := by
  rw [counted, List.filter_filter]
  apply List.filter_congr
  intro use _
  rw [Bool.and_comm]
  rfl

/-- The runs that a generation is made of, one after the other. -/
structure Stages (setting : Setting) (generators : Generators) (network : Network) where
  started : Progress
  named : Progress
  ready : Progress
  done : Progress
  closed : Progress
  final : Progress
  codes : List NodeCode
  declared : List Input
  declaring :
    (setting.graph.inputs.mapM fun input => declare setting input.name) .start =
      (.ok network.inputs, started)
  naming :
    (setting.graph.outputs.forM fun output => discard (tensorName output.name)) started =
      (.ok (), named)
  registering : registerUses setting.graph named = (.ok (), ready)
  generating :
    (setting.graph.nodes.zipIdx.mapM fun (node, position) =>
      generateNode setting generators node position) ready = (.ok codes, done)
  redeclaring :
    (setting.graph.outputs.mapM fun output => declare setting output.name) done =
      (.ok declared, closed)
  returning :
    (setting.graph.outputs.mapM fun output => setting.read "graph outputs" output.name)
        { closed with position := setting.graph.nodes.length } =
      (.ok network.returned, final)
  results : network.results = declared.map (·.type)
  layers : network.layers = codes.filterMap (·.layer)
  constants : network.constants = final.constants
  assignments : network.assignments = codes.map (·.assignment)

/-- A network is generated in stages. -/
theorem ofGraph_eq_ok {network : Network} :
    ofGraph setting generators = .ok network ↔
      Nonempty (Stages setting generators network) := by
  constructor
  · intro compiled
    obtain ⟨final, generated⟩ :
        ∃ final, generate setting generators .start = (.ok network, final) :=
      ⟨_, Prod.ext compiled rfl⟩
    rcases bind_eq_ok.mp generated with ⟨inputs, started, declaring, afterInputs⟩
    rcases bind_eq_ok.mp afterInputs with ⟨_, named, naming, afterNames⟩
    rcases bind_eq_ok.mp afterNames with ⟨_, ready, registering, afterUses⟩
    rcases bind_eq_ok.mp afterUses with ⟨codes, done, generating, afterNodes⟩
    rcases bind_eq_ok.mp afterNodes with ⟨declared, closed, redeclaring, afterOutputs⟩
    rcases bind_eq_ok.mp afterOutputs with ⟨_, _, moved, afterMove⟩
    cases moved
    rcases bind_eq_ok.mp afterMove with ⟨returned, _, returning, built⟩
    cases built
    exact ⟨⟨started, named, ready, done, closed, final, codes, declared, declaring, naming,
      registering, generating, redeclaring, returning, rfl, rfl, rfl, rfl⟩⟩
  · rintro ⟨stages⟩
    obtain ⟨inputs, results, layers, constants, assignments, returned⟩ := network
    obtain ⟨started, named, ready, done, closed, final, codes, declared, declaring, naming,
      registering, generating, redeclaring, returning, rfl, rfl, rfl, rfl⟩ := stages
    have generated : generate setting generators .start = (.ok _, final) :=
      bind_eq_ok.mpr ⟨inputs, started, declaring, bind_eq_ok.mpr ⟨(), named, naming,
        bind_eq_ok.mpr ⟨(), ready, registering, bind_eq_ok.mpr ⟨codes, done, generating,
          bind_eq_ok.mpr ⟨declared, closed, redeclaring, bind_eq_ok.mpr ⟨(), _, rfl,
            bind_eq_ok.mpr ⟨returned, final, returning, rfl⟩⟩⟩⟩⟩⟩⟩
    exact congrArg Prod.fst generated

/-- Before the first node, there are names and uses only. -/
theorem Stages.ready_eq {network : Network} (stages : Stages setting generators network) :
    stages.ready = { Progress.start with
      naming := stages.ready.naming
      uses := stages.ready.uses } := by
  have ⟨_, sameInputs, _⟩ := mapM_declare_eq_ok stages.declaring (.refl _)
  have ⟨_, sameNames⟩ := forM_tensorName_eq_ok stages.naming
  have ⟨_, sameUses, _⟩ := forM_registerUse_eq_ok stages.registering (.refl _)
  rw [sameUses, sameNames, sameInputs]

/-- The steps of the generation of a network. -/
structure Compilation (setting : Setting) (generators : Generators) (network : Network) where
  /-- The naming at the end, in which all names keep their identifiers. -/
  naming : Naming
  /-- The progress before the first node. -/
  ready : Progress
  codes : List NodeCode
  /-- The progress after the last node. -/
  done : Progress
  /-- The outputs as they are declared. -/
  declared : List Input
  distinct : naming.Distinct
  inputs : List.Forall₂ (Declares setting naming .empty) setting.graph.inputs network.inputs
  readyUses :
    ready.uses = .registerAll .empty
      (setting.schedule naming.identifier (counted setting.graph))
  readyConstants : ready.constants = []
  readyInferred : ready.inferred = .empty
  usesKnown :
    ∀ use ∈ counted setting.graph, setting.isInitializer use.1 = false → naming.Knows use.1
  generates : Generates setting generators naming 0 setting.graph.nodes ready codes done
  outputs :
    List.Forall₂ (Declares setting naming done.inferred) setting.graph.outputs declared
  results : network.results = declared.map (·.type)
  layers : network.layers = codes.filterMap (·.layer)
  assignments : network.assignments = codes.map (·.assignment)
  returned :
    network.returned.map Expression.uncloned =
      setting.graph.outputs.map fun output =>
        setting.named naming.identifier (.var output.name false)
  constants :
    network.constants = (setting.graph.outputs.map (·.name)).foldl
      (setting.addRead naming.identifier) done.constants
  returnedReads :
    (done.uses.consumeAll (setting.schedule naming.identifier (outputReads setting.graph))).1 =
      network.returned.flatMap Expression.reads

/-- A network that is generated in stages is compiled with the naming at the end. -/
theorem Stages.exists_compilation {network : Network}
    (stages : Stages setting generators network) :
    ∃ compilation : Compilation setting generators network,
      compilation.naming = stages.final.naming := by
  have ⟨reading, sameReturned⟩ := Setting.mapM_read_eq_ok stages.returning (.refl _)
  have ⟨growsOutputs, sameOutputs, outputs⟩ := mapM_declare_eq_ok stages.redeclaring reading.grows
  have fromDone := growsOutputs.trans reading.grows
  have generates := generates_of_mapM stages.generating fromDone
  have fromReady := generates.grows.trans fromDone
  have registering := stages.registering
  rw [registerUses, registered_eq] at registering
  have ⟨growsUses, sameUses, usesKnown⟩ := forM_registerUse_eq_ok registering fromReady
  have ⟨growsNames, sameNames⟩ := forM_tensorName_eq_ok stages.naming
  have fromStarted := growsNames.trans (growsUses.trans fromReady)
  have ⟨growsInputs, sameInputs, declares⟩ := mapM_declare_eq_ok stages.declaring fromStarted
  have constants := reading.constants
  have uses := reading.uses
  rw [sameOutputs] at constants uses
  rw [List.map_map] at uses
  rw [sameNames, sameInputs] at sameUses
  refine ⟨{
    naming := stages.final.naming
    ready := stages.ready
    codes := stages.codes
    done := stages.done
    declared := stages.declared
    distinct := (growsInputs.trans fromStarted).distinct Naming.distinct_empty
    inputs := declares
    readyUses := by rw [sameUses]; rfl
    readyConstants := by rw [stages.ready_eq]; rfl
    readyInferred := by rw [stages.ready_eq]; rfl
    usesKnown := fun use occurs computed =>
      usesKnown use (List.mem_filter.mpr ⟨occurs, by rw [computed]; rfl⟩)
    generates
    outputs
    results := stages.results
    layers := stages.layers
    assignments := stages.assignments
    returned := sameReturned
    constants := stages.constants.trans constants
    returnedReads := congrArg Prod.fst uses }, rfl⟩

theorem Compilation.of_ofGraph {network : Network}
    (compiled : ofGraph setting generators = .ok network) :
    Nonempty (Compilation setting generators network) := by
  rcases ofGraph_eq_ok.mp compiled with ⟨stages⟩
  rcases stages.exists_compilation with ⟨compilation, _⟩
  exact ⟨compilation⟩

namespace Compilation

variable {network : Network}

theorem knows_output (compilation : Compilation setting generators network) {output : ValueInfo}
    (member : output ∈ setting.graph.outputs) :
    compilation.naming.Knows output.name := by
  rcases exists_of_forall₂ compilation.outputs member with ⟨_, _, declares⟩
  exact declares.known

theorem knows_read (compilation : Compilation setting generators network)
    (member : node ∈ setting.graph.nodes) {name : String}
    (isRead : name ∈ generators.reads setting node) :
    compilation.naming.Knows name := by
  rcases exists_of_forall₂ compilation.generates.made member with ⟨code, _, made⟩
  obtain ⟨found, planned, _, knownNames, _, _⟩ := made
  rw [Generators.reads_of_find found, ← planned.names_eq] at isRead
  exact knownNames name isRead

end Compilation

end OnnxForge.Network
