import OnnxForge.Proofs.Build.Storage

/-!
# What a session has built

The graph of a builder is made of messages. The record of a session tells what they were
made of: each call that succeeds adds to it the samples, outputs, arrays and attributes
that the caller gave. The graph of every session is the graph of its record.
-/

namespace OnnxForge.Build

open Attempt

/-! ## Records -/

/-- What was brought into a graph, each kind in order. -/
@[ext]
structure Record where
  samples : List Tensor := []
  outputs : List Builder.Output := []
  arrays : List Tensor := []
  nodes : List Node := []

instance : Append Record where
  append earlier later :=
    { samples := earlier.samples ++ later.samples
      outputs := earlier.outputs ++ later.outputs
      arrays := earlier.arrays ++ later.arrays
      nodes := earlier.nodes ++ later.nodes }

namespace Record

variable (first second third : Record)

@[simp]
theorem append_samples : (first ++ second).samples = first.samples ++ second.samples :=
  rfl

@[simp]
theorem append_outputs : (first ++ second).outputs = first.outputs ++ second.outputs :=
  rfl

@[simp]
theorem append_arrays : (first ++ second).arrays = first.arrays ++ second.arrays :=
  rfl

@[simp]
theorem append_nodes : (first ++ second).nodes = first.nodes ++ second.nodes :=
  rfl

theorem append_assoc : first ++ second ++ third = first ++ (second ++ third) := by
  ext1 <;> exact List.append_assoc _ _ _

theorem append_empty : first ++ {} = first := by
  ext1 <;> exact List.append_nil _

end Record

/-! ## Graphs of records -/

/-- The messages of arrays that are initializers from a place on. -/
def initializersFrom (first : Nat) (arrays : List Tensor) : List Message.Tensor :=
  arrays.mapIdx fun offset array => array.toMessage (initializerName (first + offset))

@[simp]
theorem length_initializersFrom (first : Nat) (arrays : List Tensor) :
    (initializersFrom first arrays).length = arrays.length :=
  List.length_mapIdx

theorem initializersFrom_append (first : Nat) (arrays more : List Tensor) :
    initializersFrom first (arrays ++ more) =
      initializersFrom first arrays ++ initializersFrom (first + arrays.length) more := by
  rw [initializersFrom, List.mapIdx_append]
  simp only [initializersFrom, Nat.add_assoc, Nat.add_comm arrays.length]

/-- The declarations of a graph with those of more outputs. -/
def declaredAfter (declared : List Message.ValueInfo) (outputs : List Builder.Output) :
    List Message.ValueInfo :=
  outputs.foldl
    (fun declared output => declared ++ Builder.outputMessages declared.length output) declared

/-- The graph of what a record tells. -/
def Record.graph (record : Record) : Message.Graph :=
  { nodes := record.nodes.map Node.toMessage
    initializers := initializersFrom 0 record.arrays
    inputs := record.samples.mapIdx Builder.inputMessage
    outputs := declaredAfter [] record.outputs }

theorem Record.graph_append (earlier later : Record) :
    (earlier ++ later).graph =
      { nodes := earlier.graph.nodes ++ later.nodes.map Node.toMessage
        initializers := earlier.graph.initializers ++
          initializersFrom earlier.graph.initializers.length later.arrays
        inputs := earlier.graph.inputs ++ later.samples.mapIdx fun index sample =>
          Builder.inputMessage (earlier.graph.inputs.length + index) sample
        outputs := declaredAfter earlier.graph.outputs later.outputs } := by
  simp only [graph, append_nodes, append_arrays, append_samples, append_outputs, List.map_append,
    List.mapIdx_append, initializersFrom_append, declaredAfter, List.foldl_append,
    length_initializersFrom, List.length_mapIdx, Nat.zero_add,
    Nat.add_comm earlier.samples.length]

theorem Builder.declareAll_graph (builder : Builder) (outputs : List Builder.Output) :
    (builder.declareAll outputs).graph =
      { builder.graph with outputs := declaredAfter builder.graph.outputs outputs } := by
  induction outputs generalizing builder with
  | nil =>
      rw [Builder.declareAll, List.foldl_nil]
      cases builder.graph
      rfl
  | cons output rest ih => exact ih (builder.declare output)

/-! ## Operations as they were asked for -/

/-- The operation of a message, with the attributes that were given for it. -/
def Node.given (made : Message.Node) (attributes : Attributes) : Node :=
  ⟨made.name, made.opType, made.domain, made.inputs, made.outputs, attributes⟩

/-- A node is made with the attributes given. -/
def GivenAttributes (attributes : Attributes) (made : Message.Node) : Prop :=
  made = (Node.given made attributes).toMessage

section Given

variable {operator domain : String} {version : Int64} {count : OutputCount}
variable {attributes : Attributes} {before after : Builder} {node : Message.Node}

theorem Building.makeNode_given {inputs : Staging}
    (made : makeNode operator domain version inputs count attributes before =
      (.ok node, after)) :
    GivenAttributes attributes node := by
  rcases makeNode_eq_ok.mp made with ⟨_, _, _, rfl, _, _⟩
  rfl

theorem Building.addNode_given {arguments : List (Option Argument)}
    (made : addNode operator domain version arguments count attributes before =
      (.ok node, after)) :
    GivenAttributes attributes node := by
  rcases bind_eq_ok.mp made with ⟨_, _, _, making⟩
  exact makeNode_given making

end Given

end OnnxForge.Build

namespace OnnxForge.Binding

open Attempt Build

variable {attributes : Attributes} {before after : Builder} {node : Message.Node}

theorem Function.call_given {function : Function} {environment : Environment}
    (made : function.call environment attributes before = (.ok node, after)) :
    GivenAttributes attributes node := by
  rcases call_eq_ok.mp made with ⟨_, _, making⟩
  exact Building.addNode_given making

theorem Dispatcher.call_given {dispatcher : Dispatcher}
    {arguments : List (Option Argument)}
    (made : dispatcher.call arguments attributes before = (.ok node, after)) :
    GivenAttributes attributes node := by
  rcases call_eq_ok.mp made with ⟨_, _, _, _, _, _, _, _, making⟩
  exact Building.addNode_given making

end OnnxForge.Binding

namespace OnnxForge.Build

open Attempt

/-! ## Arrays as they were passed -/

def Argument.array? : Argument → Option Tensor
  | .array tensor => some tensor
  | _ => none

/-- The initializers of a staging are the arrays among its arguments, and these are as large
as they say. -/
theorem Collected.initializers_eq {base : Nat} {arguments : List Argument} {staging : Staging}
    (collected : Collected base arguments staging) :
    staging.initializers = initializersFrom base (arguments.filterMap Argument.array?) ∧
      ∀ array ∈ arguments.filterMap Argument.array?, array.consistent = true := by
  induction collected with
  | start => exact ⟨rfl, by simp⟩
  | @add arguments argument before after earlier added ih =>
      rcases ih with ⟨same, consistent⟩
      rcases Collecting.add_contribution added with ⟨names, new, contribution, rfl⟩
      have place : before.initializers.length =
          (arguments.filterMap Argument.array?).length := by
        rw [same, length_initializersFrom]
      rw [earlier.base_eq, place] at contribution
      rw [List.filterMap_append, initializersFrom_append, ← same]
      cases contribution with
      | array fits =>
          exact ⟨rfl, List.forall_mem_append.mpr
            ⟨consistent, List.forall_mem_cons.mpr ⟨fits, by simp⟩⟩⟩
      | name given => exact ⟨rfl, by simpa [Argument.array?] using consistent⟩
      | names given => exact ⟨rfl, by simpa [Argument.array?] using consistent⟩
      | node leads => exact ⟨rfl, by simpa [Argument.array?] using consistent⟩

/-! ## Sessions -/

/-- The attributes that a call gives a node. -/
def Call.attributes : Call → Attributes
  | .makeNode _ _ _ _ _ attributes | .addNode _ _ _ _ _ attributes
  | .function _ _ attributes | .dispatch _ _ attributes => attributes
  | _ => .empty

namespace Session

/-- What a call brings in that has been answered. -/
def brought (session : Session) (call : Call) : Answer → Record
  | .node made =>
    { arrays := (session.offered call).filterMap Argument.array?
      nodes := [Node.given made call.attributes] }
  | _ =>
    match call with
    | .input samples => { samples }
    | .declare outputs => { outputs }
    | .output arguments =>
      { outputs := arguments.filterMap fun argument =>
          (Builder.Output.ofArgument argument).toOption }
    | .addInitializer tensor => { arrays := [tensor] }
    | _ => {}

/-- What a call brings in, which is nothing if it fails. -/
def entry (session : Session) (call : Call) : Record :=
  ((session.answer? call).map (session.brought call)).getD {}

/-- What calls bring in, one after the other. -/
def record (session : Session) : List Call → Record
  | [] => {}
  | call :: rest => session.entry call ++ (session.perform call).record rest

end Session

/-- A builder has the graph that a record tells of, in which every array is as large as it
says. -/
structure Recorded (builder : Builder) (past : Record) : Prop where
  graph : builder.graph = past.graph
  consistent : ∀ array ∈ past.arrays, array.consistent = true

namespace Recorded

variable {builder after : Builder} {past : Record}

theorem start (catalogue : Catalogue) : Recorded (.start catalogue) {} :=
  ⟨rfl, by simp⟩

theorem idle (recorded : Recorded builder past) (same : after.graph = builder.graph) :
    Recorded after (past ++ {}) := by
  rw [Record.append_empty]
  exact ⟨same.trans recorded.graph, recorded.consistent⟩

theorem input (recorded : Recorded builder past) (samples : List Tensor) :
    Recorded (builder.input samples).2 (past ++ { samples }) where
  graph := by
    rw [Record.graph_append, Builder.input, recorded.graph]
    simp only [List.map_nil, List.append_nil, initializersFrom, List.mapIdx_nil]
    rfl
  consistent := by simpa using recorded.consistent

theorem declareAll (recorded : Recorded builder past) (outputs : List Builder.Output) :
    Recorded (builder.declareAll outputs) (past ++ { outputs }) where
  graph := by
    rw [Builder.declareAll_graph, Record.graph_append, recorded.graph]
    simp only [List.map_nil, List.append_nil, initializersFrom, List.mapIdx_nil]
    rfl
  consistent := by simpa using recorded.consistent

theorem withInitializer (recorded : Recorded builder past) {tensor : Tensor}
    (consistent : tensor.consistent = true) :
    Recorded
      (builder.withInitializers
        [tensor.toMessage (initializerName builder.graph.initializers.length)])
      (past ++ { arrays := [tensor] }) where
  graph := by
    rw [Record.graph_append, Builder.withInitializers, recorded.graph]
    simp only [List.map_nil, List.append_nil, initializersFrom, List.mapIdx_nil]
    rfl
  consistent := List.forall_mem_append.mpr ⟨recorded.consistent, by simpa using consistent⟩

theorem commit (recorded : Recorded builder past) {arguments : List Argument}
    {attributes : Attributes} {node : Message.Node}
    (committed : Committed arguments builder node after)
    (given : GivenAttributes attributes node) :
    Recorded after (past ++
      { arrays := arguments.filterMap Argument.array?
        nodes := [Node.given node attributes] }) := by
  rcases committed with ⟨_, collected, _, _⟩
  have ⟨initializers, consistent⟩ := collected.initializers_eq
  constructor
  · have made : (Node.given node attributes).toMessage = node := given.symm
    rw [Record.graph_append, ← recorded.graph, initializers]
    simp only [Builder.commit, Builder.counting, Builder.withNode, Builder.withInitializers,
      recorded.graph, List.append_nil, List.mapIdx_nil, List.map_cons, List.map_nil, made]
    rfl
  · exact List.forall_mem_append.mpr ⟨recorded.consistent, consistent⟩

end Recorded

namespace Session

variable {session : Session} {call : Call} {past : Record}

theorem recorded_of_refused (recorded : Recorded session.builder past) {fault : BuildError}
    (refused : session.building call session.builder = (.error fault, session.builder)) :
    Recorded (session.perform call).builder (past ++ session.entry call) := by
  rw [entry, answer?, perform, refused]
  exact recorded.idle rfl

theorem recorded_of_answered {answer : Answer} {after : Builder}
    (run : session.building call session.builder = (.ok answer, after))
    (recorded : Recorded after (past ++ session.brought call answer)) :
    Recorded (session.perform call).builder (past ++ session.entry call) := by
  rw [entry, answer?, perform, run]
  exact recorded

/-- A call that asks for a node brings it in with the arrays among its arguments. -/
theorem recorded_of_making (recorded : Recorded session.builder past)
    {making : Building Message.Node}
    (asks : session.building call = do
      let node ← making
      return .node node)
    (atomic : Atomic Builder.Grows making)
    (commits : ∀ {node after}, making session.builder = (.ok node, after) →
      Committed (session.offered call) session.builder node after)
    (given : ∀ {node after}, making session.builder = (.ok node, after) →
      GivenAttributes call.attributes node) :
    Recorded (session.perform call).builder (past ++ session.entry call) := by
  rcases atomic.refused_or_answered Answer.node session.builder with
    ⟨fault, refused⟩ | ⟨node, after, made, answered⟩
  · exact recorded_of_refused recorded (by rw [asks, refused])
  · exact recorded_of_answered (by rw [asks, answered])
      (recorded.commit (commits made) (given made))

/-- Outputs that were converted are those that can be. -/
theorem outputs_of_converted {arguments : List Argument} {outputs : List Builder.Output}
    (converted : arguments.mapM Builder.Output.ofArgument = .ok outputs) :
    (arguments.filterMap fun argument => (Builder.Output.ofArgument argument).toOption) =
      outputs := by
  induction arguments generalizing outputs with
  | nil =>
      cases converted
      rfl
  | cons argument rest ih =>
      rw [List.mapM_cons] at converted
      rcases outcome_bind_eq_ok.mp converted with ⟨output, first, following⟩
      rcases outcome_bind_eq_ok.mp following with ⟨others, remaining, done⟩
      cases done
      rw [List.filterMap_cons, first, ih remaining]
      rfl

/-- Every call adds its entry to what a builder has on record. -/
theorem recorded_perform (honest : session.Honest) (recorded : Recorded session.builder past)
    (call : Call) :
    Recorded (session.perform call).builder (past ++ session.entry call) := by
  cases call with
  | setOpsetVersion version => exact recorded.idle rfl
  | stage | copy _ | extend _ _ => exact recorded.idle rfl
  | input samples => exact recorded.input samples
  | declare outputs => exact recorded.declareAll outputs
  | output arguments =>
      have atomic := Building.output_atomic arguments
      rcases atomic.refused_or_answered (fun _ => Answer.done) session.builder with
        ⟨fault, refused⟩ | ⟨_, after, declared, answered⟩
      · exact recorded_of_refused recorded refused
      · rcases bind_eq_ok.mp declared with ⟨outputs, _, converted, declaring⟩
        rcases ofExcept_eq_ok.mp converted with ⟨accepted, rfl⟩
        cases declaring
        refine recorded_of_answered answered ?_
        simp only [brought, outputs_of_converted accepted]
        exact recorded.declareAll outputs
  | addInitializer tensor =>
      have atomic := Building.addInitializer_atomic .stops tensor
      rcases atomic.refused_or_answered (fun name => Answer.names [name]) session.builder with
        ⟨fault, refused⟩ | ⟨name, after, added, answered⟩
      · exact recorded_of_refused recorded refused
      · rcases bind_eq_ok.mp added with ⟨_, _, checked, _⟩
        have accepted := (ofExcept_eq_ok.mp checked).1
        rcases addInitializer_eq_ok added with ⟨rfl, rfl⟩
        exact recorded_of_answered answered
          (recorded.withInitializer (Tensor.consistent_iff.mpr (checkArray_eq_ok_iff.mp accepted)))
  | makeNode position operator domain version count attributes =>
      cases present : session.drafts[position]? with
      | none =>
          have nothing : session.building
              (.makeNode position operator domain version count attributes) session.builder =
              (.ok .done, session.builder) := by
            simp [building, present]
          exact recorded_of_answered nothing (recorded.idle rfl)
      | some draft =>
          rcases honest draft (List.mem_of_getElem? present) with ⟨base, collected⟩
          have asks : session.building
              (.makeNode position operator domain version count attributes) = do
                let node ←
                  Building.makeNode operator domain version draft.staging count attributes
                return .node node := by
            simp only [building, present]
          refine recorded_of_making recorded asks (Building.makeNode_atomic _ _ _ _ _ _) ?_
            Building.makeNode_given
          intro node after made
          simpa [offered, present] using Building.makeNode_committed collected made
  | addNode operator domain version arguments count attributes =>
      exact recorded_of_making recorded rfl (Building.addNode_atomic _ _ _ _ _ _)
        Building.addNode_committed Building.addNode_given
  | function function environment attributes =>
      exact recorded_of_making recorded rfl (function.call_atomic _ _)
        Binding.Function.call_committed Binding.Function.call_given
  | dispatch dispatcher arguments attributes =>
      exact recorded_of_making recorded rfl (dispatcher.call_atomic _ _)
        Binding.Dispatcher.call_committed Binding.Dispatcher.call_given

/-- The graph of a session is always the graph of its record. -/
theorem recorded_run (honest : session.Honest) (recorded : Recorded session.builder past)
    (calls : List Call) :
    Recorded (session.run calls).builder (past ++ session.record calls) := by
  induction calls generalizing session past with
  | nil => exact recorded.idle rfl
  | cons call rest ih =>
      rw [record, ← Record.append_assoc]
      exact ih (honest.perform call) (recorded_perform honest recorded call)

theorem recorded_start (catalogue : Catalogue) (calls : List Call) :
    Recorded ((start catalogue).run calls).builder ((start catalogue).record calls) :=
  recorded_run (honest_start catalogue) (.start catalogue) calls

end Session

end OnnxForge.Build
