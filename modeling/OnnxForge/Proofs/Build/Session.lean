import OnnxForge.Proofs.Build.Commit

/-!
# Sessions

A session is a builder with the stagings that are taken from it. Calls come in any
order: a staging may be taken early, gain arguments between other calls, be copied, and
be offered for a node late, more than once or never. Of the past a session keeps what a
caller has seen of it: the arguments that each staging accepted, and the answers.

Everything that a call can do to the builder is listed by `Effect`, so that a property
of all sessions has one case for each entry of that list.
-/

namespace OnnxForge.Build

open Attempt

/-- A staging that a caller holds, with the arguments that it has accepted. -/
structure Draft where
  staging : Staging
  arguments : List Argument

/-- The draft after an argument was added, if it was accepted. -/
def Draft.extend (draft : Draft) (argument : Option Argument) : Draft :=
  match Collecting.add argument draft.staging with
  | (.ok _, staging) => ⟨staging, draft.arguments ++ argument.toList⟩
  | (.error _, staging) => ⟨staging, draft.arguments⟩

/-- What a caller is given by a call that succeeds. -/
inductive Answer where
  | done
  | names (names : List String)
  | node (node : Message.Node)

/-- The names of values that an answer tells. -/
def Answer.values : Answer → List String
  | .done => []
  | .names told => told
  | .node made => made.outputs

/-- The node that an answer hands out. -/
def Answer.node? : Answer → Option Message.Node
  | .node made => some made
  | _ => none

/-- A builder in use. -/
structure Session where
  builder : Builder
  drafts : List Draft
  /-- The answers so far, in order. -/
  answers : List Answer

/-- A call of a session.  Drafts are given by their positions. -/
inductive Call where
  | setOpsetVersion (version : Int64)
  | input (samples : List Tensor)
  | declare (outputs : List Builder.Output)
  | output (arguments : List Argument)
  | addInitializer (tensor : Tensor)
  | stage
  | copy (draft : Nat)
  | extend (draft : Nat) (argument : Option Argument)
  | makeNode (draft : Nat) (operator domain : String) (version : Int64)
      (count : OutputCount) (attributes : Attributes)
  | addNode (operator domain : String) (version : Int64)
      (arguments : List (Option Argument)) (count : OutputCount) (attributes : Attributes)
  | function (function : Binding.Function) (environment : Binding.Environment)
      (attributes : Attributes)
  | dispatch (dispatcher : Binding.Dispatcher) (arguments : List (Option Argument))
      (attributes : Attributes)

namespace Session

/-- The session of a new builder. -/
def start (catalogue : Catalogue) : Session := ⟨.start catalogue, [], []⟩

/-- What a call does to the builder. A draft that does not exist makes no node. -/
def building (session : Session) : Call → Building Answer
  | .setOpsetVersion version => do
    modify fun builder => builder.withOpsetVersion version
    return .done
  | .input samples => do
    let names ← modifyGet fun builder => builder.input samples
    return .names names
  | .declare outputs => do
    modify fun builder => builder.declareAll outputs
    return .done
  | .output arguments => do
    Building.output arguments
    return .done
  | .addInitializer tensor => do
    let name ← Building.addInitializer .stops tensor
    return .names [name]
  | .stage | .copy _ | .extend _ _ => return .done
  | .makeNode position operator domain version count attributes =>
    match session.drafts[position]? with
    | none => return .done
    | some draft => do
      let node ←
        Building.makeNode operator domain version draft.staging count attributes
      return .node node
  | .addNode operator domain version arguments count attributes => do
    let node ← Building.addNode operator domain version arguments count attributes
    return .node node
  | .function function environment attributes => do
    let node ← function.call environment attributes
    return .node node
  | .dispatch dispatcher arguments attributes => do
    let node ← dispatcher.call arguments attributes
    return .node node

/-- What a call does to the drafts. -/
def drafting (session : Session) : Call → List Draft
  | .stage => session.drafts ++ [⟨session.builder.stage, []⟩]
  | .copy position => session.drafts ++ session.drafts[position]?.toList
  | .extend position argument => session.drafts.modify position (·.extend argument)
  | _ => session.drafts

/-- The answer to a call, unless it fails. -/
def answer? (session : Session) (call : Call) : Option Answer :=
  (session.building call session.builder).1.toOption

/-- The session after a call. -/
def perform (session : Session) (call : Call) : Session where
  builder := (session.building call session.builder).2
  drafts := session.drafting call
  answers := session.answers ++ (session.answer? call).toList

/-- The session after calls in order. -/
def run (session : Session) (calls : List Call) : Session :=
  calls.foldl perform session

/-- The node that a call makes, if it makes one. -/
def made? (session : Session) (call : Call) : Option Message.Node :=
  (session.answer? call).bind Answer.node?

/-- The arguments that a call makes a node of. -/
def offered (session : Session) : Call → List Argument
  | .makeNode position .. => (session.drafts[position]?.map (·.arguments)).getD []
  | .addNode _ _ _ arguments _ _ => arguments.filterMap id
  | .function _ environment _ => (Binding.Function.arguments environment).filterMap id
  | .dispatch _ arguments _ => arguments.filterMap id
  | _ => []

end Session

/-! ## Drafts -/

/-- A draft holds what collecting its arguments gave. -/
def Draft.Honest (draft : Draft) : Prop :=
  ∃ base, Collected base draft.arguments draft.staging

theorem Draft.honest_extend {draft : Draft} (honest : draft.Honest)
    (argument : Option Argument) :
    (draft.extend argument).Honest := by
  rcases honest with ⟨base, collected⟩
  cases added : Collecting.add argument draft.staging with
  | mk outcome staging =>
      rw [Draft.extend, added]
      cases outcome with
      | error fault =>
          rcases (Collecting.add_atomic argument).eq_of_error added with rfl
          exact ⟨base, collected⟩
      | ok _ =>
          cases argument with
          | none =>
              cases added
              exact ⟨base, by simpa using collected⟩
          | some argument => exact ⟨base, collected.add added⟩

namespace Session

variable {session : Session}

/-- What holds of a new draft and is kept by extending holds of all drafts after a call. -/
theorem forall_drafting {Holds : Draft → Prop} (call : Call)
    (staged : Holds ⟨session.builder.stage, []⟩)
    (extended : ∀ {draft position argument}, call = .extend position argument →
      Holds draft → Holds (draft.extend argument))
    (before : ∀ draft ∈ session.drafts, Holds draft) :
    ∀ draft ∈ session.drafting call, Holds draft := by
  intro draft member
  cases call with
  | stage =>
      rcases List.mem_append.mp member with old | new
      · exact before draft old
      · exact List.mem_singleton.mp new ▸ staged
  | copy position =>
      rcases List.mem_append.mp member with old | new
      · exact before draft old
      · exact before draft (List.mem_of_getElem? (Option.mem_toList.mp new))
  | extend position argument =>
      rcases List.mem_iff_getElem?.mp member with ⟨index, found⟩
      rw [drafting, List.getElem?_modify] at found
      rcases Option.map_eq_some_iff.mp found with ⟨old, present, changed⟩
      have holds := before old (List.mem_of_getElem? present)
      split at changed
      · exact changed ▸ extended rfl holds
      · exact changed ▸ holds
  | _ => exact before draft member

/-- Every draft of the session is honest. -/
def Honest (session : Session) : Prop :=
  ∀ draft ∈ session.drafts, draft.Honest

theorem honest_start (catalogue : Catalogue) : (start catalogue).Honest := by
  intro draft member
  cases member

/-- Drafts stay honest, however they are taken, copied and extended. -/
theorem Honest.perform (honest : session.Honest) (call : Call) :
    (session.perform call).Honest :=
  forall_drafting call ⟨_, .start⟩ (fun _ before => Draft.honest_extend before _) honest

end Session

/-! ## Effects -/

/-- Declared outputs are all that declaring changes. -/
theorem Builder.declareAll_eq (builder : Builder) (outputs : List Builder.Output) :
    ∃ declared, builder.declareAll outputs =
      { builder with
        graph := { builder.graph with outputs := builder.graph.outputs ++ declared } } := by
  induction outputs generalizing builder with
  | nil =>
      rcases builder with ⟨_, _, _, graph, _⟩
      cases graph
      exact ⟨[], by simp [Builder.declareAll]⟩
  | cons output rest ih =>
      rcases ih (builder.declare output) with ⟨declared, same⟩
      refine ⟨Builder.outputMessages builder.graph.outputs.length output ++ declared, ?_⟩
      rw [Builder.declareAll, List.foldl_cons, ← Builder.declareAll, same]
      simp [Builder.declare]

/--
What a call can do to a builder, with the answer that it gives.  A call that is refused
gives none.
-/
inductive Effect (arguments : List Argument) (before : Builder) :
    Option Answer → Builder → Prop where
  | refused : Effect arguments before none before
  | idle : Effect arguments before (some .done) before
  | version (version : Int64) :
      Effect arguments before (some .done) (before.withOpsetVersion version)
  | inputs (samples : List Tensor) :
      Effect arguments before (some (.names (before.input samples).1))
        (before.input samples).2
  | outputs (declared : List Message.ValueInfo) :
      Effect arguments before (some .done)
        { before with
          graph := { before.graph with outputs := before.graph.outputs ++ declared } }
  | initializer (tensor : Tensor) :
      Effect arguments before
        (some (.names [initializerName before.graph.initializers.length]))
        (before.withInitializers
          [tensor.toMessage (initializerName before.graph.initializers.length)])
  | node {node : Message.Node} {after : Builder}
      (committed : Committed arguments before node after) :
      Effect arguments before (some (.node node)) after

/-- The builder imports one operator set, the default one at its own version. -/
def Builder.ImportsOwn (builder : Builder) : Prop :=
  builder.opsetImport = [{ domain := "", version := builder.opsetVersion }]

namespace Effect

variable {arguments : List Argument} {before after : Builder} {answer : Option Answer}

/-- No call changes the catalogue. -/
theorem catalogue_eq (effect : Effect arguments before answer after) :
    after.catalogue = before.catalogue := by
  cases effect with
  | node committed =>
      cases committed
      rfl
  | _ => rfl

/-- The import stays at the version of the builder: only a new version changes either. -/
theorem importsOwn (effect : Effect arguments before answer after) (own : before.ImportsOwn) :
    after.ImportsOwn := by
  cases effect with
  | version version =>
      rw [Builder.ImportsOwn, Builder.withOpsetVersion, own]
      rfl
  | node committed =>
      cases committed
      exact own
  | _ => exact own

/-- The graph has one more node exactly if the answer is a node. -/
theorem nodes_eq (effect : Effect arguments before answer after) :
    after.graph.nodes = before.graph.nodes ++ (answer.bind Answer.node?).toList := by
  cases effect with
  | node committed => exact committed.nodes_eq
  | _ => exact (List.append_nil _).symm

end Effect

namespace Session

variable {session : Session} {call : Call}

theorem effect_of_refused {fault : BuildError}
    (run : session.building call session.builder = (.error fault, session.builder)) :
    Effect (session.offered call) session.builder (session.answer? call)
      (session.perform call).builder := by
  rw [answer?, perform, run]
  exact .refused

theorem effect_of_answered {answer : Answer} {after : Builder}
    (run : session.building call session.builder = (.ok answer, after))
    (effect : Effect (session.offered call) session.builder (some answer) after) :
    Effect (session.offered call) session.builder (session.answer? call)
      (session.perform call).builder := by
  rw [answer?, perform, run]
  exact effect

/-- A call that asks for a node makes one of the arguments offered, or is refused. -/
theorem effect_of_making {making : Building Message.Node}
    (asks : session.building call = do
      let node ← making
      return .node node)
    (atomic : Atomic Builder.Grows making)
    (commits : ∀ {node after}, making session.builder = (.ok node, after) →
      Committed (session.offered call) session.builder node after) :
    Effect (session.offered call) session.builder (session.answer? call)
      (session.perform call).builder := by
  rcases atomic.refused_or_answered Answer.node session.builder with
    ⟨fault, refused⟩ | ⟨node, after, made, answered⟩
  · exact effect_of_refused (by rw [asks, refused])
  · exact effect_of_answered (by rw [asks, answered]) (.node (commits made))

/-- The answer to a new initializer is its name. -/
theorem addInitializer_eq_ok {overflow : Overflow} {tensor : Tensor} {before after : Builder}
    {name : String}
    (added : Building.addInitializer overflow tensor before = (.ok name, after)) :
    name = initializerName before.graph.initializers.length ∧
      after = before.withInitializers [tensor.toMessage name] := by
  rcases bind_eq_ok.mp added with ⟨_, _, checked, storing⟩
  rcases ofExcept_eq_ok.mp checked with ⟨_, rfl⟩
  cases storing
  exact ⟨rfl, rfl⟩

theorem effect_of_declaring (arguments : List Argument) (before : Builder)
    (outputs : List Builder.Output) :
    Effect arguments before (some .done) (before.declareAll outputs) := by
  rcases before.declareAll_eq outputs with ⟨declared, same⟩
  rw [same]
  exact .outputs declared

/-- The effects are all that a call can do. -/
theorem perform_effect (honest : session.Honest) (call : Call) :
    Effect (session.offered call) session.builder (session.answer? call)
      (session.perform call).builder := by
  cases call with
  | setOpsetVersion version => exact .version version
  | input samples => exact .inputs samples
  | declare outputs => exact effect_of_declaring _ _ outputs
  | stage | copy _ | extend _ _ => exact .idle
  | output arguments =>
      have atomic := Building.output_atomic arguments
      rcases atomic.refused_or_answered (fun _ => Answer.done) session.builder with
        ⟨fault, refused⟩ | ⟨_, after, declared, answered⟩
      · exact effect_of_refused refused
      · rcases bind_eq_ok.mp declared with ⟨outputs, _, converted, declaring⟩
        rcases ofExcept_eq_ok.mp converted with ⟨_, rfl⟩
        cases declaring
        exact effect_of_answered answered (effect_of_declaring _ _ outputs)
  | addInitializer tensor =>
      have atomic := Building.addInitializer_atomic .stops tensor
      rcases atomic.refused_or_answered (fun name => Answer.names [name]) session.builder with
        ⟨fault, refused⟩ | ⟨name, after, added, answered⟩
      · exact effect_of_refused refused
      · rcases addInitializer_eq_ok added with ⟨rfl, rfl⟩
        exact effect_of_answered answered (.initializer tensor)
  | makeNode position operator domain version count attributes =>
      cases present : session.drafts[position]? with
      | none =>
          have nothing : session.building
              (.makeNode position operator domain version count attributes) session.builder =
              (.ok .done, session.builder) := by
            simp [building, present]
          exact effect_of_answered nothing .idle
      | some draft =>
          rcases honest draft (List.mem_of_getElem? present) with ⟨base, collected⟩
          have asks : session.building
              (.makeNode position operator domain version count attributes) = do
                let node ←
                  Building.makeNode operator domain version draft.staging count attributes
                return .node node := by
            simp only [building, present]
          refine effect_of_making asks (Building.makeNode_atomic _ _ _ _ _ _) ?_
          intro node after made
          simpa [offered, present] using Building.makeNode_committed collected made
  | addNode operator domain version arguments count attributes =>
      exact effect_of_making rfl (Building.addNode_atomic _ _ _ _ _ _)
        Building.addNode_committed
  | function function environment attributes =>
      exact effect_of_making rfl (function.call_atomic _ _) Binding.Function.call_committed
  | dispatch dispatcher arguments attributes =>
      exact effect_of_making rfl (dispatcher.call_atomic _ _) Binding.Dispatcher.call_committed

/-- The node that a call hands out is committed with the arguments offered. -/
theorem committed_of_made (honest : session.Honest)
    {node : Message.Node} (made : session.made? call = some node) :
    Committed (session.offered call) session.builder node (session.perform call).builder := by
  rcases Option.bind_eq_some_iff.mp made with ⟨answer, given, handed⟩
  have effect := perform_effect honest call
  rw [given] at effect
  generalize (session.perform call).builder = after at effect ⊢
  cases effect with
  | node committed =>
      rcases Option.some.inj handed with rfl
      exact committed
  | _ => cases handed

/-! ## Runs -/

/-- What a start has and every call keeps holds after every run. -/
theorem run_invariant (Invariant : Session → Prop)
    (preserved : ∀ session call, Invariant session → Invariant (session.perform call))
    (initial : Invariant session) (calls : List Call) :
    Invariant (session.run calls) := by
  induction calls generalizing session with
  | nil => exact initial
  | cons call rest ih => exact ih (preserved session call initial)

theorem Honest.run (honest : session.Honest) (calls : List Call) :
    (session.run calls).Honest :=
  run_invariant Honest (fun _ call before => before.perform call) honest calls

/-- What every effect keeps holds of the builder after every run. -/
theorem Honest.builder_invariant (honest : session.Honest) (Invariant : Builder → Prop)
    (preserved : ∀ {arguments before answer after},
      Effect arguments before answer after → Invariant before → Invariant after)
    (initial : Invariant session.builder) (calls : List Call) :
    Invariant (session.run calls).builder := by
  have invariant : (session.run calls).Honest ∧ Invariant (session.run calls).builder := by
    apply run_invariant fun later => later.Honest ∧ Invariant later.builder
    · rintro later call ⟨laterHonest, holds⟩
      exact ⟨laterHonest.perform call, preserved (perform_effect laterHonest call) holds⟩
    · exact ⟨honest, initial⟩
  exact invariant.2

theorem catalogue_run (catalogue : Catalogue) (calls : List Call) :
    ((start catalogue).run calls).builder.catalogue = catalogue :=
  (honest_start catalogue).builder_invariant (fun builder => builder.catalogue = catalogue)
    (fun effect same => effect.catalogue_eq.trans same) rfl calls

theorem importsOwn_run (catalogue : Catalogue) (calls : List Call) :
    ((start catalogue).run calls).builder.ImportsOwn :=
  (honest_start catalogue).builder_invariant Builder.ImportsOwn Effect.importsOwn rfl calls

end Session

end OnnxForge.Build
