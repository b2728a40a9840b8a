import OnnxForge.Graph

/-!
# Graphs that can be executed

A graph can be executed from its first node to its last when every node comes after those
that compute its inputs. Nodes have one output each here, which is no tensor known in
advance.
-/

namespace OnnxForge.Graph

variable {graph : Graph} {done : List Node} {node : Node} {name : String}

/-- Whether a name stands for a value after some nodes. -/
def Provides (graph : Graph) (done : List Node) (name : String) : Prop :=
  name ∈ graph.inputs.map (·.name) ∨ graph.initializers.contains name = true ∨
    ∃ node ∈ done, name ∈ node.outputs

instance : Decidable (graph.Provides done name) :=
  inferInstanceAs (Decidable (_ ∨ _ ∨ _))

/-- Whether nodes can be executed in order after those that are done. -/
def InOrderAfter (graph : Graph) (done : List Node) : List Node → Prop
  | [] => True
  | node :: rest =>
    (∀ input ∈ node.inputs, input ≠ "" → graph.Provides done input) ∧
      graph.InOrderAfter (done ++ [node]) rest

instance decidableInOrderAfter (graph : Graph) (done : List Node) :
    (nodes : List Node) → Decidable (graph.InOrderAfter done nodes)
  | [] => isTrue trivial
  | node :: rest =>
    have := decidableInOrderAfter graph (done ++ [node]) rest
    inferInstanceAs (Decidable (_ ∧ _))

/-- Nodes have one output each, which is no initializer, and come after those that compute
their inputs. -/
structure Executable (graph : Graph) : Prop where
  single : ∀ node ∈ graph.nodes, node.outputs.length = 1
  computed : ∀ node ∈ graph.nodes, ∀ output ∈ node.outputs,
    graph.initializers.contains output = false
  inOrder : graph.InOrderAfter [] graph.nodes
  returned : ∀ output ∈ graph.outputs, graph.Provides graph.nodes output.name

/-- A name that is not the output of the last node is provided by those before it. -/
theorem Provides.of_append (provided : graph.Provides (done ++ [node]) name) {output : String}
    (outputs : node.outputs = [output]) (different : name ≠ output) :
    graph.Provides done name := by
  rcases provided with isInput | initial | ⟨other, member, ofOther⟩
  · exact .inl isInput
  · exact .inr (.inl initial)
  · rcases List.mem_append.mp member with earlier | last
    · exact .inr (.inr ⟨other, earlier, ofOther⟩)
    · obtain rfl := List.mem_singleton.mp last
      rw [outputs] at ofOther
      exact (different (List.mem_singleton.mp ofOther)).elim

/-- The inputs of every node are provided by those before it. -/
theorem InOrderAfter.provides {before after : List Node}
    (inOrder : graph.InOrderAfter done (before ++ node :: after)) {input : String}
    (member : input ∈ node.inputs) (present : input ≠ "") :
    graph.Provides (done ++ before) input := by
  induction before generalizing done with
  | nil =>
      rw [List.append_nil]
      exact inOrder.1 input member present
  | cons first rest ih =>
      have later := ih inOrder.2
      rwa [List.append_assoc, List.singleton_append] at later

end OnnxForge.Graph

/-- The one output of a node is its first. -/
theorem OnnxForge.Node.outputs_eq {node : Node} {output : String}
    (single : node.outputs.length = 1) (first : node.output? 0 = some output) :
    node.outputs = [output] := by
  rcases List.length_eq_one_iff.mp single with ⟨only, outputs⟩
  rw [output?, outputs] at first
  cases first
  exact outputs

/-- An input at a position is one of the inputs, and not missing. -/
theorem OnnxForge.Node.mem_of_input? {node : Node} {index : Nat} {input : String}
    (found : node.input? index = some input) : input ∈ node.inputs ∧ input ≠ "" := by
  rcases Option.filter_eq_some_iff.mp found with ⟨here, present⟩
  exact ⟨List.mem_of_getElem? here, by simpa using present⟩
