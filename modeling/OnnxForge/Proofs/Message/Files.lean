import OnnxForge.Proofs.Message.Limits

/-!
# Files of models

The file of a model gives the model back whenever a reader admits it: its messages are nested
no deeper than readers go, and its strings are short. What comes back is the model itself
unless an attribute has a number of its own that is a negative zero, which loses its sign.
Numbers in lists keep theirs.
-/

namespace OnnxForge.Message

/-! ## Numbers of attributes -/

/-- The pattern of the zero that has a sign. -/
def negativeZero : UInt32 := 0x80000000

/-- The numbers that attributes have besides their lists, in attributes, nodes and graphs and
in the messages nested in them. -/
def floats : Summary (List UInt32) (List UInt32) (List UInt32) where
  ofAttribute attr graph graphs := attr.float :: (graph.toList ++ graphs).flatten
  ofNode _ attributes := attributes.flatten
  ofGraph _ nodes := nodes.flatten

def Attribute.singleFloats (attr : Attribute) : List UInt32 :=
  attr.fold Message.floats

def Node.singleFloats (node : Node) : List UInt32 :=
  node.fold Message.floats

def Graph.singleFloats (graph : Graph) : List UInt32 :=
  graph.fold Message.floats

/-- The numbers that the attributes of a model have besides their lists. -/
def Model.singleFloats (model : Model) : List UInt32 :=
  model.graph.toList.flatMap Graph.singleFloats

theorem Attribute.singleFloats_eq (attr : Attribute) :
    attr.singleFloats =
      attr.float :: (attr.graph.toList ++ attr.graphs).flatMap Graph.singleFloats := by
  change _ = _ :: ((attr.graph.toList ++ attr.graphs).map Graph.singleFloats).flatten
  rw [← map_toList_append]
  exact Attribute.fold_eq Message.floats attr

theorem Node.singleFloats_eq (node : Node) :
    node.singleFloats = node.attributes.flatMap Attribute.singleFloats :=
  Node.fold_eq Message.floats node

theorem Graph.singleFloats_eq (graph : Graph) :
    graph.singleFloats = graph.nodes.flatMap Node.singleFloats :=
  Graph.fold_eq Message.floats graph

/-! ## Messages that come back as they were -/

theorem restoredFloat_eq_self_iff (bits : UInt32) :
    restoredFloat bits = bits ↔ bits ≠ negativeZero := by
  rw [restoredFloat, isZero, negativeZero]
  by_cases positive : bits = 0
  · subst positive
    decide
  by_cases negative : bits = 0x80000000
  · subst negative
    decide
  · simp [positive, negative]

/-- A list of messages comes back as it was when all of them do. -/
theorem map_restored_iff {α : Type} {restored : α → α} {floatsOf : α → List UInt32}
    {items : List α}
    (each : ∀ item ∈ items, restored item = item ↔ negativeZero ∉ floatsOf item) :
    items.map restored = items ↔ negativeZero ∉ items.flatMap floatsOf := by
  have kept : items.map restored = items ↔ ∀ item ∈ items, restored item = item := by
    rw [← List.map_inj_left, List.map_id']
  rw [kept, List.mem_flatMap, not_exists]
  simp only [not_and]
  exact forall₂_congr each

theorem optional_restored_iff {α : Type} {restored : α → α} {floatsOf : α → List UInt32}
    {item : Option α}
    (each : ∀ present ∈ item, restored present = present ↔ negativeZero ∉ floatsOf present) :
    item.map restored = item ↔ negativeZero ∉ item.toList.flatMap floatsOf := by
  cases item with
  | none => simp
  | some present => simpa using each present rfl

theorem Attribute.restored_iff_of_graphs {attr : Attribute}
    (present : ∀ graph ∈ attr.graph,
      graph.restored = graph ↔ negativeZero ∉ graph.singleFloats)
    (listed : ∀ graph ∈ attr.graphs,
      graph.restored = graph ↔ negativeZero ∉ graph.singleFloats) :
    attr.restored = attr ↔ negativeZero ∉ attr.singleFloats := by
  have own := restoredFloat_eq_self_iff attr.float
  have ofGraph := optional_restored_iff present
  have ofGraphs := map_restored_iff listed
  rw [Attribute.restored_eq, Attribute.singleFloats_eq]
  obtain ⟨⟩ := attr
  simp only [Attribute.mk.injEq, true_and, own, ofGraph, ofGraphs, List.flatMap_append,
    List.mem_cons, List.mem_append, not_or, ne_comm, ne_eq]

theorem Node.restored_iff_of_attributes {node : Node}
    (attributes : ∀ attr ∈ node.attributes,
      attr.restored = attr ↔ negativeZero ∉ attr.singleFloats) :
    node.restored = node ↔ negativeZero ∉ node.singleFloats := by
  have each := map_restored_iff attributes
  rw [Node.restored_eq, Node.singleFloats_eq, ← each]
  obtain ⟨⟩ := node
  simp only [Node.mk.injEq, true_and, and_true]

theorem Graph.restored_iff_of_nodes {graph : Graph}
    (nodes : ∀ node ∈ graph.nodes, node.restored = node ↔ negativeZero ∉ node.singleFloats) :
    graph.restored = graph ↔ negativeZero ∉ graph.singleFloats := by
  have each := map_restored_iff nodes
  rw [Graph.restored_eq, Graph.singleFloats_eq, ← each]
  obtain ⟨⟩ := graph
  simp only [Graph.mk.injEq, and_true]

theorem Graph.restored_iff (graph : Graph) :
    graph.restored = graph ↔ negativeZero ∉ graph.singleFloats :=
  (nested_induction (fun _ => Attribute.restored_iff_of_graphs)
    (fun _ => Node.restored_iff_of_attributes) (fun _ => Graph.restored_iff_of_nodes)).2.2 graph

theorem Model.restored_iff (model : Model) :
    model.restored = model ↔ negativeZero ∉ model.singleFloats := by
  have each := optional_restored_iff fun graph (_ : graph ∈ model.graph) => graph.restored_iff
  rw [Model.restored, Model.singleFloats, ← each]
  obtain ⟨⟩ := model
  simp only [Model.mk.injEq, true_and]

/-! ## Files -/

/-- Whether a reader admits a model: its levels and the lengths of its strings. -/
structure Model.Admitted (model : Model) : Prop where
  shallow : model.depth ≤ nestingLimit
  short : ∀ octets ∈ model.octetStrings, Short octets

/-- A file gives a model back if it is admitted, and nothing otherwise. It is the model itself
unless an attribute of it has a negative zero, which comes back without its sign. -/
theorem Model.decode_encode_eq {model : Model} (bounded : model.encode.length < UInt64.size) :
    (model.Admitted → Model.decode model.encode = some model.restored) ∧
      (¬ model.Admitted → Model.decode model.encode = none) ∧
      (model.restored = model ↔ negativeZero ∉ model.singleFloats) := by
  refine ⟨fun admitted => decode_encode admitted.shallow admitted.short bounded, ?_,
    model.restored_iff⟩
  intro refused
  rw [Option.eq_none_iff_forall_ne_some]
  intro found run
  have ⟨shallow, short⟩ := (decode_encode_iff bounded).mp ⟨found, run⟩
  exact refused ⟨shallow, short⟩

/-- A model with negative numbers, lists of numbers of every type, messages that are present
and empty, and extents that are zero or have no name. -/
def extremes (float : UInt32) : Model where
  irVersion := -1
  opsetImport := [{}]
  modelVersion := Int64.minValue
  graph := some {
    nodes := [{
      name := "é"
      attributes := [{
        type := -1
        float
        int := -2
        tensor := some {}
        graph := some {}
        floats := [0x80000000, 0x7fc00001]
        ints := [Int64.minValue, 0, 300] }] }]
    initializers := [{
      dims := [0, -1]
      dataType := Int32.minValue
      floatData := [0x80000000]
      int32Data := [Int32.minValue, -1, 0]
      stringData := [[], [0xff]]
      int64Data := [-1, 0]
      doubleData := [0x8000000000000000]
      uint64Data := [0xffffffffffffffff, 0] }]
    inputs := [
      { type := some {} },
      { type := some { tensor := some { shape := some [] } } },
      { type := some { tensor := some {
          shape := some
            [{ extent := some (.size 0) }, { extent := some (.parameter "") }, {}] } } }] }

theorem extremes_come_back :
    Model.decode (extremes 0x80000000).encode = some (extremes 0) ∧
      (extremes 0x80000000).restored ≠ extremes 0x80000000 := by
  have bounded : (extremes 0x80000000).encode.length < UInt64.size := by
    decide +kernel
  have ⟨back, _, same⟩ := Model.decode_encode_eq bounded
  have admitted : (extremes 0x80000000).Admitted := ⟨by decide +kernel, by decide +kernel⟩
  exact ⟨back admitted, fun kept => same.mp kept (by decide +kernel)⟩

end OnnxForge.Message
