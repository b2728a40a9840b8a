import OnnxForge.Proofs.Binding.Dispatch
import OnnxForge.Proofs.Graph.Declarations

/-!
# Nodes and the version in effect

A dispatcher makes nodes of the version in effect. As long as nodes come from dispatchers
alone, and the version of the graph is settled before the first one, every node conforms to
the schema that a reader of the model finds for it, who knows the version from the import
of the default operator set.
-/

namespace OnnxForge.Build

open Attempt Binding

/-- Every node conforms to the schema in effect for its operator. -/
def Builder.Resolved (builder : Builder) : Prop :=
  ∀ node ∈ builder.graph.nodes, ∃ schema,
    builder.catalogue.resolve? node.opType builder.opsetVersion node.domain = some schema ∧
      schema.fault? node = none

/-- A builder whose nodes conform may gain others that do. -/
theorem Builder.Resolved.append {before after : Builder} (resolved : before.Resolved)
    (catalogue : after.catalogue = before.catalogue)
    (version : after.opsetVersion = before.opsetVersion) {more : List Message.Node}
    (nodes : after.graph.nodes = before.graph.nodes ++ more)
    (conform : ∀ node ∈ more, ∃ schema,
      before.catalogue.resolve? node.opType before.opsetVersion node.domain = some schema ∧
        schema.fault? node = none) :
    after.Resolved := by
  rw [Resolved, catalogue, version, nodes]
  exact List.forall_mem_append.mpr ⟨resolved, conform⟩

end OnnxForge.Build

namespace OnnxForge.Binding

open Build

/-- The node of a dispatcher conforms to the schema in effect. -/
theorem Dispatcher.call_resolved {dispatcher : Dispatcher} {before after : Builder}
    {arguments : List (Option Argument)} {attributes : Attributes} {node : Message.Node}
    (generated : dispatcher ∈ (Bindings.ofCatalogue before.catalogue).dispatchers)
    (made : dispatcher.call arguments attributes before = (.ok node, after)) :
    ∃ schema,
      before.catalogue.resolve? node.opType before.opsetVersion node.domain = some schema ∧
        schema.fault? node = none := by
  rcases mem_dispatchers.mp generated with ⟨_, _, rfl⟩
  rcases call_eq_ok.mp made with ⟨schema, function, _, _, resolved, arm, _, _, making⟩
  rw [Builder.resolve_eq_ok] at resolved
  cases (armOf_resolved resolved).symm.trans arm
  have ⟨_, name, domain⟩ := Catalogue.mem_versionsOf.mp (Catalogue.mem_of_resolve? resolved)
  rcases Building.addNode_conforms making with ⟨sameName, sameDomain, other, found, conforms⟩
  have same : other = schema := by
    have known := Catalogue.get?_of_resolve? resolved
    rw [← name, ← domain] at known
    exact Option.some.inj (found.symm.trans known)
  rw [sameName, sameDomain]
  exact ⟨schema, by rw [← name, ← domain] at resolved; exact resolved, same ▸ conforms⟩

end OnnxForge.Binding

namespace OnnxForge.Build

open Attempt Binding

namespace Session

variable {session : Session} {call : Call}

/-! ## Growth along a session -/

theorem grows_of_attempt {α : Type} {attempt : Building α} {answer : α → Answer}
    (asks : session.building call = do
      let value ← attempt
      return answer value)
    (atomic : Atomic Builder.Grows attempt) :
    Builder.Grows session.builder (session.perform call).builder := by
  rw [perform, asks]
  rcases atomic.refused_or_answered answer session.builder with
    ⟨fault, refused⟩ | ⟨value, after, made, answered⟩
  · rw [refused]
    exact .refl _
  · rw [answered]
    exact atomic.related_of_ok made

/-- Every call lets the builder grow, unless it sets the version. -/
theorem perform_grows (keeps : ∀ version, call ≠ .setOpsetVersion version) :
    Builder.Grows session.builder (session.perform call).builder := by
  cases call with
  | setOpsetVersion version => exact (keeps version rfl).elim
  | input samples => exact session.builder.grows_input samples
  | declare outputs => exact session.builder.grows_declareAll outputs
  | stage | copy _ | extend _ _ => exact .refl _
  | output arguments => exact grows_of_attempt rfl (Building.output_atomic arguments)
  | addInitializer tensor =>
      exact grows_of_attempt rfl (Building.addInitializer_atomic .stops tensor)
  | makeNode position operator domain version count attributes =>
      cases present : session.drafts[position]? with
      | none =>
          rw [perform, building, present]
          exact .refl _
      | some draft =>
          have asks : session.building
              (.makeNode position operator domain version count attributes) = do
                let node ←
                  Building.makeNode operator domain version draft.staging count attributes
                return .node node := by
            simp only [building, present]
          exact grows_of_attempt asks (Building.makeNode_atomic _ _ _ _ _ _)
  | addNode operator domain version arguments count attributes =>
      exact grows_of_attempt rfl (Building.addNode_atomic _ _ _ _ _ _)
  | function function environment attributes =>
      exact grows_of_attempt rfl (function.call_atomic _ _)
  | dispatch dispatcher arguments attributes =>
      exact grows_of_attempt rfl (dispatcher.call_atomic _ _)

/-! ## Sessions with dispatchers -/

/-- The version is set before there is a node, and nodes are made by the dispatchers of the
catalogue alone. -/
def Dispatched (session : Session) : List Call → Prop
  | [] => True
  | call :: rest =>
    (∀ version, call = .setOpsetVersion version → session.builder.graph.nodes = []) ∧
      (session.made? call ≠ none → ∃ dispatcher arguments attributes,
        call = .dispatch dispatcher arguments attributes ∧
          dispatcher ∈ (Bindings.ofCatalogue session.builder.catalogue).dispatchers) ∧
      (session.perform call).Dispatched rest

theorem dispatch_of_made {dispatcher : Dispatcher} {arguments : List (Option Argument)}
    {attributes : Attributes} {node : Message.Node}
    (made : session.made? (.dispatch dispatcher arguments attributes) = some node) :
    ∃ after, dispatcher.call arguments attributes session.builder = (.ok node, after) := by
  rcases (dispatcher.call_atomic arguments attributes).refused_or_answered Answer.node
    session.builder with ⟨fault, refused⟩ | ⟨value, after, called, answered⟩
  · rw [made?, answer?, building, refused] at made
    cases made
  · rw [made?, answer?, building, answered] at made
    cases made
    exact ⟨after, called⟩

/-- A call keeps all nodes conforming. -/
theorem resolved_perform (honest : session.Honest) (resolved : session.builder.Resolved)
    (early : ∀ version, call = .setOpsetVersion version → session.builder.graph.nodes = [])
    (dispatched : session.made? call ≠ none → ∃ dispatcher arguments attributes,
      call = .dispatch dispatcher arguments attributes ∧
        dispatcher ∈ (Bindings.ofCatalogue session.builder.catalogue).dispatchers) :
    (session.perform call).builder.Resolved := by
  have nodes := (perform_effect honest call).nodes_eq
  change _ = _ ++ (session.made? call).toList at nodes
  by_cases sets : ∃ version, call = .setOpsetVersion version
  case pos =>
    rcases sets with ⟨version, rfl⟩
    have none : (session.perform (.setOpsetVersion version)).builder.graph.nodes = [] :=
      early version rfl
    rw [Builder.Resolved, none]
    exact List.forall_mem_nil _
  case neg =>
    have grows : Builder.Grows session.builder (session.perform call).builder :=
      perform_grows fun version same => sets ⟨version, same⟩
    refine resolved.append grows.catalogue grows.opsetVersion nodes fun node member => ?_
    have made := Option.mem_toList.mp member
    rcases dispatched (by rw [made]; exact Option.some_ne_none node) with
      ⟨dispatcher, arguments, attributes, rfl, generated⟩
    rcases dispatch_of_made made with ⟨after, called⟩
    exact dispatcher.call_resolved generated called

theorem resolved_run (honest : session.Honest) (resolved : session.builder.Resolved)
    {calls : List Call} (dispatched : session.Dispatched calls) :
    (session.run calls).builder.Resolved := by
  induction calls generalizing session with
  | nil => exact resolved
  | cons call rest ih =>
      rcases dispatched with ⟨early, byDispatcher, following⟩
      exact ih (honest.perform call) (resolved_perform honest resolved early byDispatcher)
        following

/--
A session sets its version before it has a node, and makes its nodes with the dispatchers of
its catalogue.  Its model then has one import of the default operator set, at whose version
every node conforms to the schema in effect, and every graph that is read of the model has
that version.
-/
theorem nodes_conform_at_import (catalogue : Catalogue) (calls : List Call)
    (dispatched : (start catalogue).Dispatched calls) :
    let builder := ((start catalogue).run calls).builder
    ∃ imported, builder.model.opsetImport.filter (isDefaultDomain ·.domain) = [imported] ∧
      (∀ node ∈ builder.graph.nodes, ∃ schema,
        catalogue.resolve? node.opType imported.version node.domain = some schema ∧
          schema.fault? node = none) ∧
      ∀ graph, Graph.ofMessage builder.model = .ok graph →
        graph.opsetVersion = some imported.version := by
  intro builder
  have resolved : builder.Resolved :=
    resolved_run (honest_start catalogue) (by intro node member; cases member) dispatched
  rw [Builder.Resolved, catalogue_run] at resolved
  have imports : builder.model.opsetImport = [{ domain := "", version := builder.opsetVersion }] :=
    importsOwn_run catalogue calls
  refine ⟨{ domain := "", version := builder.opsetVersion }, ?_, resolved, ?_⟩
  · rw [imports]
    rfl
  · intro graph accepted
    rcases Graph.ofMessage_eq_ok_iff.mp accepted with ⟨_, _, _, _, _, _, rfl⟩
    change (builder.model.opsetImport.find? _).map _ = _
    rw [imports]
    rfl

/-- At version 9 a node is made of the schema that came with version 6. -/
theorem nodes_conform_at_import_of_absolute :
    let catalogue : Catalogue := .ofList Catalogue.Builtin.absVersions
    let absolute : Call :=
      .dispatch (.ofOperator catalogue "Abs" "") [some (.name "x")] .empty
    let builder := ((start catalogue).run [.setOpsetVersion 9, absolute]).builder
    ∃ node schema, builder.graph.nodes = [node] ∧ schema.sinceVersion = 6 ∧
      catalogue.resolve? node.opType 9 node.domain = some schema ∧
      schema.fault? node = none := by
  intro catalogue absolute builder
  have generated : Dispatcher.ofOperator catalogue "Abs" "" ∈
      (Bindings.ofCatalogue catalogue).dispatchers := by
    decide +kernel
  have dispatched : (start catalogue).Dispatched [.setOpsetVersion 9, absolute] :=
    ⟨fun _ _ => rfl, fun made => (made rfl).elim, nofun,
      fun _ => ⟨_, _, _, rfl, generated⟩, trivial⟩
  rcases nodes_conform_at_import catalogue _ dispatched with ⟨imported, same, conform, _⟩
  rcases List.cons.inj same with ⟨rfl, _⟩
  rcases conform _ List.mem_cons_self with ⟨schema, resolved, conforms⟩
  refine ⟨_, schema, rfl, ?_, resolved, conforms⟩
  cases resolved
  rfl

end Session

end OnnxForge.Build
