import OnnxForge.Proofs.Atomicity
import OnnxForge.Proofs.Network.Closure
import OnnxForge.Proofs.Network.Naming

/-!
# Proper names along a generation

All that a generation names has a proper identifier. Most of its steps name tensors, and only
the layers of embeddings are named for nodes. What reads computed values gets variables whose
names are proper.
-/

namespace OnnxForge.Network

open Attempt

namespace Naming

variable {naming before after : Naming}

/-- Whether all identifiers in use are proper. -/
def Proper (naming : Naming) : Prop :=
  ∀ identifier ∈ naming.taken, Identifier.Proper identifier

theorem proper_empty : Naming.empty.Proper :=
  List.forall_mem_nil _

/-- The identifier of a tensor is proper when all are. -/
theorem Proper.identifier {name : String} (proper : naming.Proper) (known : naming.Knows name) :
    Identifier.Proper (naming.identifier name) :=
  proper _ (mem_taken (show naming.held? (.tensor name) = some _ from known))

/-- How a naming changes while tensors are named and nodes are not. -/
structure NamesTensors (before after : Naming) : Prop where
  grows : before.Grows after
  unnamed : after.unnamed = before.unnamed
  proper : before.Proper → after.Proper

namespace NamesTensors

theorem refl (naming : Naming) : naming.NamesTensors naming :=
  ⟨.refl naming, rfl, id⟩

theorem trans {first second third : Naming} (early : first.NamesTensors second)
    (late : second.NamesTensors third) :
    first.NamesTensors third :=
  ⟨early.grows.trans late.grows, late.unnamed.trans early.unnamed, late.proper ∘ early.proper⟩

theorem tensor (naming : Naming) (name : String) :
    naming.NamesTensors (naming.tensor name).2 := by
  refine ⟨naming.grows_tensor name, ?_, (naming.claims_tensor name).proper⟩
  rw [Naming.tensor]
  split <;> rfl

end NamesTensors

end Naming

/-! ## Steps that name tensors only -/

/-- How the progress changes while tensors are named and nodes are not. -/
def NamesTensors (before after : Progress) : Prop :=
  before.naming.NamesTensors after.naming

namespace NamesTensors

variable {setting : Setting}

theorem refl (progress : Progress) : NamesTensors progress progress :=
  Naming.NamesTensors.refl _

theorem trans {first second third : Progress} (early : NamesTensors first second)
    (late : NamesTensors second third) :
    NamesTensors first third :=
  Naming.NamesTensors.trans early late

theorem tensorName (name : String) : Respects NamesTensors (tensorName name) :=
  fun before => .tensor before.naming name

theorem discardName (name : String) : Respects NamesTensors (discard (Network.tensorName name)) :=
  tensorName name

theorem read (setting : Setting) (owner name : String) :
    Respects NamesTensors (setting.read owner name) := by
  rw [Setting.read]
  split
  · exact tensorName name
  · split
    · exact refl
    · exact tensorName name

theorem instantiate (setting : Setting) (owner : String) (template : Expression) :
    Respects NamesTensors (setting.instantiate owner template) := by
  induction template with
  | var name cloned => exact read setting owner name
  | constant field => exact refl
  | toInt operand ih => exact ih.bind (fun _ => refl) trans
  | max operand ih => exact ih.bind (fun _ => refl) trans
  | sum operand ih => exact ih.bind (fun _ => refl) trans
  | sumAlong operand axis ih => exact ih.bind (fun _ => refl) trans
  | squeeze operand rank axes ih => exact ih.bind (fun _ => refl) trans
  | select operand axis index ihOperand ihIndex =>
      exact ihOperand.bind (fun _ => ihIndex.bind (fun _ => refl) trans) trans
  | take operand indexRank rank axis index ihOperand ihIndex =>
      exact ihOperand.bind (fun _ => ihIndex.bind (fun _ => refl) trans) trans
  | embed layer index ih => exact ih.bind (fun _ => refl) trans

theorem declare (setting : Setting) (name : String) :
    Respects NamesTensors (declare setting name) := by
  intro before
  rw [declare_run]
  split
  · exact refl before
  · exact tensorName name before

theorem registerUse (name : String) (position : Nat) :
    Respects NamesTensors (registerUse name position) :=
  (tensorName name).bind (fun _ => refl) trans

/-- Code without a layer names tensors only. -/
theorem plain {node : Node} {template : Expression} {known : Inferred} {before after : Progress}
    {code : NodeCode}
    (performed : (Plan.plain template known).perform setting node before = (.ok code, after)) :
    NamesTensors before after := by
  rcases bind_eq_ok.mp performed with ⟨value, between, reading, following⟩
  rcases finish_eq_ok.mp following with ⟨output, _, rfl, rfl⟩
  have names := instantiate setting node.name template before
  rw [reading] at names
  exact names.trans (.tensor between.naming output)

end NamesTensors

/-! ## Names stay proper -/

variable {setting : Setting} {generators : Generators} {node : Node} {plan : Plan}
  {before after : Progress} {code : NodeCode} {network : Network}

/-- Proper names stay proper when a plan is performed, a layer with them. -/
theorem Plan.perform_proper (performed : plan.perform setting node before = (.ok code, after))
    (proper : before.naming.Proper) : after.naming.Proper := by
  cases plan with
  | plain template known => exact (NamesTensors.plain performed).proper proper
  | embedding weights template =>
      rcases bind_eq_ok.mp performed with ⟨layer, begun, named, rest⟩
      rcases bind_eq_ok.mp rest with ⟨index, between, reading, following⟩
      rcases finish_eq_ok.mp following with ⟨output, _, rfl, rfl⟩
      have names := NamesTensors.instantiate setting node.name template begun
      rw [reading] at names
      cases named
      exact (Naming.NamesTensors.trans names (.tensor between.naming output)).proper
        ((before.naming.claims_node node.name node.opType).proper proper)

/-- The variables that the code of a plan reads have proper names. -/
theorem Plan.names_proper (performed : plan.perform setting node before = (.ok code, after))
    (proper : before.naming.Proper) :
    ∀ name ∈ code.assignment.value.names, Identifier.Proper name := by
  rcases Plan.perform_eq_ok performed (.refl _) with ⟨_, _, step⟩
  intro name member
  rw [step.yields.names] at member
  rcases List.mem_map.mp member with ⟨given, isRead, rfl⟩
  exact (Plan.perform_proper performed proper).identifier
    (step.knownNames given (List.mem_filter.mp isRead).1)

theorem mapM_generateNode_proper {nodes : List Node} {position : Nat} {codes : List NodeCode}
    (run : ((nodes.zipIdx position).mapM fun (node, position) =>
      generateNode setting generators node position) before = (.ok codes, after))
    (proper : before.naming.Proper) : after.naming.Proper := by
  induction nodes generalizing position before codes with
  | nil =>
      cases run
      exact proper
  | cons node rest ih =>
      rw [List.zipIdx_cons] at run
      rcases mapM_cons_eq_ok.mp run with ⟨code, others, between, generated, following, rfl⟩
      rcases generateNode_eq_ok.mp generated with ⟨_, _, plan, _, _, performed⟩
      exact ih following (plan.perform_proper performed proper)

/-- The progress after a run that only names tensors. -/
theorem namesTensors_of_run {α : Type} {attempt : Generation α}
    {outcome : Except NetworkError α} (respects : Respects NamesTensors attempt)
    (run : attempt before = (outcome, after)) :
    before.naming.NamesTensors after.naming := by
  have names := respects before
  rwa [run] at names

namespace Stages

/-- Before the nodes and after them, only tensors are named. -/
theorem namesTensors (stages : Stages setting generators network) :
    Naming.empty.NamesTensors stages.ready.naming ∧
      stages.done.naming.NamesTensors stages.final.naming := by
  have declaring := namesTensors_of_run (respects_mapM NamesTensors.refl NamesTensors.trans
    (fun info : ValueInfo => NamesTensors.declare setting info.name) _) stages.declaring
  have outputs := namesTensors_of_run (respects_forM NamesTensors.refl NamesTensors.trans
    (fun info : ValueInfo => NamesTensors.discardName info.name) _) stages.naming
  have uses := namesTensors_of_run (respects_forM NamesTensors.refl NamesTensors.trans
    (fun use : String × Nat => NamesTensors.registerUse use.1 use.2) _) stages.registering
  have redeclaring := namesTensors_of_run (respects_mapM NamesTensors.refl NamesTensors.trans
    (fun info : ValueInfo => NamesTensors.declare setting info.name) _) stages.redeclaring
  have returning := namesTensors_of_run (respects_mapM NamesTensors.refl NamesTensors.trans
    (fun info : ValueInfo => NamesTensors.read setting "graph outputs" info.name) _)
    stages.returning
  exact ⟨declaring.trans (outputs.trans uses), redeclaring.trans returning⟩

/-- All names are proper at the end. -/
theorem proper (stages : Stages setting generators network) : stages.final.naming.Proper := by
  have ⟨ahead, following⟩ := stages.namesTensors
  have ready := ahead.proper Naming.proper_empty
  exact following.proper (mapM_generateNode_proper stages.generating ready)

end Stages

/-! ## What is read of a network -/

/-- Whether all variables that the function of a network reads have proper names. -/
structure ReadsProper (network : Network) : Prop where
  assigned : ∀ assignment ∈ network.assignments, ∀ name ∈ assignment.value.names,
    Identifier.Proper name
  returned : ∀ value ∈ network.returned, ∀ name ∈ value.names, Identifier.Proper name

theorem Compilation.readsProper (compilation : Compilation setting generators network)
    (proper : compilation.naming.Proper) :
    network.ReadsProper := by
  constructor
  · intro assignment member name isRead
    have assigned := compilation.assigned
    rcases List.append_of_mem member with ⟨earlier, later, split⟩
    rw [split] at assigned
    rcases forall₂_parts assigned with ⟨before, node, after, nodes, _, code, made, rfl⟩
    have present : node ∈ setting.graph.nodes :=
      nodes ▸ List.mem_append_right _ List.mem_cons_self
    rw [made.names] at isRead
    rcases List.mem_map.mp isRead with ⟨given, kept, rfl⟩
    exact proper.identifier (compilation.knows_read present (List.mem_filter.mp kept).1)
  · intro value member name isRead
    have ofOutput : value.uncloned ∈ setting.graph.outputs.map fun output =>
        setting.named compilation.naming.identifier (.var output.name false) :=
      compilation.returned ▸ List.mem_map_of_mem member
    rcases List.mem_map.mp ofOutput with ⟨output, isOutput, same⟩
    rw [← Expression.names_uncloned, ← same, Setting.names_named] at isRead
    rcases List.mem_map.mp isRead with ⟨given, kept, rfl⟩
    obtain rfl := List.mem_singleton.mp (List.mem_filter.mp kept).1
    exact proper.identifier (compilation.knows_output isOutput)

/-- The function of a compiled network reads variables with proper names. -/
theorem readsProper_of_ofGraph (compiled : ofGraph setting generators = .ok network) :
    network.ReadsProper := by
  rcases ofGraph_eq_ok.mp compiled with ⟨stages⟩
  rcases stages.exists_compilation with ⟨compilation, same⟩
  exact compilation.readsProper (same ▸ stages.proper)

end OnnxForge.Network
