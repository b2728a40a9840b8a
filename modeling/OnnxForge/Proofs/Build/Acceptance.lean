import OnnxForge.Catalogue.Builtin.Logic
import OnnxForge.Proofs.Build.Record
import OnnxForge.Proofs.Graph.RoundTrip

/-!
# Tensors that readers take

An array that enters a graph is checked for its length, whichever way it comes in. The
tensors of attributes enter as they are given. Readers ask more of both: the sizes have to
be numbers of 63 bits, and the elements have to be where the element type has them.
-/

namespace OnnxForge

/-- The tensors in the message of a graph: its initializers and those in the attributes of its
nodes. -/
def Message.Graph.tensors (graph : Message.Graph) : List Message.Tensor :=
  graph.initializers ++ graph.nodes.flatMap fun node =>
    node.attributes.flatMap fun attr => attr.tensor.toList ++ attr.tensors

/-- A reader takes the message of a tensor. -/
def Message.Tensor.Accepted (message : Message.Tensor) : Prop :=
  ∃ tensor, Tensor.ofMessage message = .ok tensor

theorem Tensor.toMessage_accepted_iff (name : String) (tensor : Tensor) :
    (tensor.toMessage name).Accepted ↔ tensor.Acceptable :=
  Tensor.ofMessage_ok_iff name tensor

theorem AttributeValue.tensors_accepted_iff (name : String) (value : AttributeValue) :
    (∀ message ∈ (value.toMessage name).tensor.toList ++ (value.toMessage name).tensors,
        message.Accepted) ↔
      ∀ tensor ∈ value.tensorList, tensor.Acceptable := by
  cases value <;> simp [toMessage, tensorList, Tensor.toMessage_accepted_iff]

theorem Node.tensors_accepted_iff (node : Node) :
    (∀ message ∈ node.toMessage.attributes.flatMap fun attr =>
        attr.tensor.toList ++ attr.tensors, message.Accepted) ↔
      ∀ tensor ∈ node.tensorList, tensor.Acceptable := by
  simp only [toMessage, tensorList, List.forall_mem_flatMap, List.forall_mem_map,
    AttributeValue.tensors_accepted_iff]

namespace Build

theorem initializers_accepted_iff (first : Nat) (arrays : List Tensor) :
    (∀ message ∈ initializersFrom first arrays, message.Accepted) ↔
      ∀ array ∈ arrays, array.Acceptable := by
  simp only [initializersFrom, List.mem_mapIdx, forall_exists_index]
  constructor
  · intro accepted array member
    rcases List.mem_iff_getElem.mp member with ⟨place, inside, rfl⟩
    exact (Tensor.toMessage_accepted_iff _ _).mp (accepted _ place inside rfl)
  · rintro acceptable message place inside rfl
    exact (Tensor.toMessage_accepted_iff _ _).mpr (acceptable _ (List.getElem_mem inside))

/-- The tensors that were brought into a graph. -/
def Record.tensors (record : Record) : List Tensor :=
  record.arrays ++ record.nodes.flatMap Node.tensorList

/-- Readers take all tensors of a graph exactly if all that were brought in are acceptable. -/
theorem Record.tensors_accepted_iff (record : Record) :
    (∀ message ∈ record.graph.tensors, message.Accepted) ↔
      ∀ tensor ∈ record.tensors, tensor.Acceptable := by
  rw [Message.Graph.tensors, Record.tensors, List.forall_mem_append, List.forall_mem_append]
  refine and_congr (initializers_accepted_iff 0 record.arrays) ?_
  rw [List.forall_mem_flatMap, List.forall_mem_flatMap, Record.graph, List.forall_mem_map]
  exact forall₂_congr fun node _ => node.tensors_accepted_iff

namespace Session

/--
Every array of a graph has as many elements as its shape asks for, whichever call brought it
in.  Readers take all tensors of the graph exactly if the arrays and the tensors of attributes
are acceptable to them.
-/
theorem arrays_checked (catalogue : Catalogue) (calls : List Call) :
    let graph := ((start catalogue).run calls).builder.graph
    let record := (start catalogue).record calls
    graph = record.graph ∧
    (∀ array ∈ record.arrays, array.consistent = true) ∧
    ((∀ message ∈ graph.tensors, message.Accepted) ↔
      ∀ tensor ∈ record.tensors, tensor.Acceptable) := by
  intro graph record
  have recorded : Recorded ((start catalogue).run calls).builder record :=
    recorded_start catalogue calls
  refine ⟨recorded.graph, recorded.consistent, ?_⟩
  rw [← record.tensors_accepted_iff, ← recorded.graph]

/-- The value of a constant may be any tensor: this one has an element where its shape asks
for two. -/
def halfConstant : Tensor :=
  ⟨.float32, [2], .float32 [0]⟩

/-- A call that makes a constant node of a tensor. -/
def constantCall (value : Tensor) : Call :=
  .addNode "Constant" "" 1 [] .declared (.ofList [("value", .tensor value)])

/-- The tensor of an attribute is taken into a graph unchecked, and readers refuse it. -/
theorem half_constant_refused :
    let session := (start (.ofList Catalogue.Builtin.constantVersions)).run
      [constantCall halfConstant]
    (∃ node, session.answers = [.node node]) ∧
      (∃ message ∈ session.builder.graph.tensors, ¬ message.Accepted) ∧
      Graph.ofMessage session.builder.model =
        .error (.invalidTensor "" (.wrongLength [2] 1)) := by
  intro session
  refine ⟨⟨_, rfl⟩, ⟨_, List.mem_cons_self, ?_⟩, rfl⟩
  rw [Tensor.toMessage_accepted_iff]
  intro acceptable
  cases acceptable.complete

end Session

end Build

end OnnxForge
