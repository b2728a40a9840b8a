import OnnxForge.Message.Encode

/-!
# Nesting

Attributes, nodes and graphs are nested in one another. A summary of them is a fold, given
by what it makes of each kind when the messages nested in it are summarized; what holds of
all of them is shown by one induction. Three summaries matter to readers: how deep messages
are nested, which strings they hold, and what a message is like when it comes back from a
file, where the numbers of attributes that are negative zeros have lost their signs.
-/

namespace OnnxForge.Message

/-! ## Folds -/

/-- What a fold makes of each kind of message that may be nested in itself. -/
structure Summary (A N G : Type) where
  ofAttribute : Attribute → Option G → List G → A
  ofNode : Node → List A → N
  ofGraph : Graph → List N → G

section Fold

variable {A N G : Type}

mutual

def Attribute.fold (summary : Summary A N G) : Attribute → A
  | ⟨name, refAttrName, docString, type, float, int, string, tensor, graph, floats, ints,
      strings, tensors, graphs⟩ =>
    summary.ofAttribute
      ⟨name, refAttrName, docString, type, float, int, string, tensor, graph, floats, ints,
        strings, tensors, graphs⟩
      (Graph.foldOptional summary graph) (Graph.foldList summary graphs)

def Graph.foldOptional (summary : Summary A N G) : Option Graph → Option G
  | none => none
  | some graph => some (graph.fold summary)

def Graph.foldList (summary : Summary A N G) : List Graph → List G
  | [] => []
  | graph :: rest => graph.fold summary :: Graph.foldList summary rest

def Node.fold (summary : Summary A N G) : Node → N
  | ⟨inputs, outputs, name, opType, domain, attributes, docString⟩ =>
    summary.ofNode ⟨inputs, outputs, name, opType, domain, attributes, docString⟩
      (Attribute.foldList summary attributes)

def Attribute.foldList (summary : Summary A N G) : List Attribute → List A
  | [] => []
  | first :: rest => first.fold summary :: Attribute.foldList summary rest

def Graph.fold (summary : Summary A N G) : Graph → G
  | ⟨nodes, name, initializers, docString, inputs, outputs, valueInfos⟩ =>
    summary.ofGraph ⟨nodes, name, initializers, docString, inputs, outputs, valueInfos⟩
      (Node.foldList summary nodes)

def Node.foldList (summary : Summary A N G) : List Node → List N
  | [] => []
  | node :: rest => node.fold summary :: Node.foldList summary rest

end

variable (summary : Summary A N G)

theorem Graph.foldOptional_eq (graph : Option Graph) :
    Graph.foldOptional summary graph = graph.map (Graph.fold summary) := by
  cases graph <;> rfl

theorem Graph.foldList_eq (graphs : List Graph) :
    Graph.foldList summary graphs = graphs.map (Graph.fold summary) := by
  induction graphs with
  | nil => rfl
  | cons graph rest ih => rw [Graph.foldList, ih, List.map_cons]

theorem Attribute.foldList_eq (attributes : List Attribute) :
    Attribute.foldList summary attributes = attributes.map (Attribute.fold summary) := by
  induction attributes with
  | nil => rfl
  | cons first rest ih => rw [Attribute.foldList, ih, List.map_cons]

theorem Node.foldList_eq (nodes : List Node) :
    Node.foldList summary nodes = nodes.map (Node.fold summary) := by
  induction nodes with
  | nil => rfl
  | cons node rest ih => rw [Node.foldList, ih, List.map_cons]

theorem Attribute.fold_eq (attr : Attribute) :
    attr.fold summary = summary.ofAttribute attr (attr.graph.map (Graph.fold summary))
      (attr.graphs.map (Graph.fold summary)) := by
  obtain ⟨⟩ := attr
  rw [Attribute.fold, Graph.foldOptional_eq, Graph.foldList_eq]

theorem Node.fold_eq (node : Node) :
    node.fold summary = summary.ofNode node (node.attributes.map (Attribute.fold summary)) := by
  obtain ⟨⟩ := node
  rw [Node.fold, Attribute.foldList_eq]

theorem Graph.fold_eq (graph : Graph) :
    graph.fold summary = summary.ofGraph graph (graph.nodes.map (Node.fold summary)) := by
  obtain ⟨⟩ := graph
  rw [Graph.fold, Node.foldList_eq]

end Fold

theorem map_toList_append {α β : Type} (f : α → β) (first : Option α) (rest : List α) :
    (first.map f).toList ++ rest.map f = (first.toList ++ rest).map f := by
  rw [List.map_append, Option.toList_map]

/-- What holds of attributes when it holds of the graphs in them, of nodes when it holds of
their attributes and of graphs when it holds of their nodes holds of all of them. -/
theorem nested_induction {A : Attribute → Prop} {N : Node → Prop} {G : Graph → Prop}
    (ofAttribute : ∀ attr : Attribute, (∀ graph ∈ attr.graph, G graph) →
      (∀ graph ∈ attr.graphs, G graph) → A attr)
    (ofNode : ∀ node : Node, (∀ attr ∈ node.attributes, A attr) → N node)
    (ofGraph : ∀ graph : Graph, (∀ node ∈ graph.nodes, N node) → G graph) :
    (∀ attr, A attr) ∧ (∀ node, N node) ∧ ∀ graph, G graph := by
  have ⟨attributes, _, graphs, _, nodes, _, _⟩ := Attribute.fields.mutual_induct A
    (fun graphs => ∀ graph ∈ graphs, G graph) G
    (fun nodes => ∀ node ∈ nodes, N node) N
    (fun attributes => ∀ attr ∈ attributes, A attr)
    (fun present => ∀ graph ∈ present, G graph)
    (fun _ _ _ _ _ _ _ _ _ _ _ _ _ _ present listed => ofAttribute _ present listed)
    (fun _ _ _ _ _ _ _ listed => ofNode _ listed)
    (fun _ _ _ _ _ _ _ listed => ofGraph _ listed)
    (by simp) (by simp)
    (by simp) (fun _ _ first rest => List.forall_mem_cons.mpr ⟨first, rest⟩)
    (by simp) (fun _ _ first rest => List.forall_mem_cons.mpr ⟨first, rest⟩)
    (by simp) (fun _ _ first rest => List.forall_mem_cons.mpr ⟨first, rest⟩)
  exact ⟨attributes, nodes, graphs⟩

/-! ## Depth -/

/-- The levels taken by messages of the given depths that are nested in another. -/
def levels (depths : List Nat) : Nat :=
  depths.foldr (fun depth most => max (depth + 1) most) 0

theorem levels_le_iff {depths : List Nat} {bound : Nat} :
    levels depths ≤ bound ↔ ∀ depth ∈ depths, depth < bound := by
  induction depths with
  | nil => simp [levels]
  | cons depth rest ih =>
      rw [levels, List.foldr_cons, Nat.max_le, ← levels, ih, List.forall_mem_cons]
      exact Iff.rfl

/-- The depth of a shape, whose dimensions have nothing nested in them. -/
def shapeDepth (shape : List Dimension) : Nat :=
  levels (shape.map fun _ => 0)

def TensorType.depth (type : TensorType) : Nat :=
  levels (type.shape.toList.map shapeDepth)

def ValueType.depth (type : ValueType) : Nat :=
  levels (type.tensor.toList.map TensorType.depth)

def ValueInfo.depth (info : ValueInfo) : Nat :=
  levels (info.type.toList.map ValueType.depth)

theorem shapeDepth_le (shape : List Dimension) : shapeDepth shape ≤ 1 :=
  levels_le_iff.mpr (List.forall_mem_map.mpr fun _ _ => Nat.one_pos)

theorem TensorType.depth_le (type : TensorType) : type.depth ≤ 2 :=
  levels_le_iff.mpr (List.forall_mem_map.mpr fun shape _ => Nat.lt_succ_of_le (shapeDepth_le shape))

theorem ValueType.depth_le (type : ValueType) : type.depth ≤ 3 :=
  levels_le_iff.mpr (List.forall_mem_map.mpr fun tensor _ => Nat.lt_succ_of_le tensor.depth_le)

/-- Values do not nest: their types go down four levels at most. -/
theorem ValueInfo.depth_le (info : ValueInfo) : info.depth ≤ 4 :=
  levels_le_iff.mpr (List.forall_mem_map.mpr fun type _ => Nat.lt_succ_of_le type.depth_le)

/-- The depths of attributes, nodes and graphs. Tensors have nothing nested in them. -/
def depths : Summary Nat Nat Nat where
  ofAttribute attr graph graphs :=
    levels ((attr.tensor.toList ++ attr.tensors).map (fun _ => 0) ++ (graph.toList ++ graphs))
  ofNode _ attributes := levels attributes
  ofGraph graph nodes :=
    levels (nodes ++ graph.initializers.map (fun _ => 0) ++
      (graph.inputs ++ graph.outputs ++ graph.valueInfos).map ValueInfo.depth)

def Attribute.depth (attr : Attribute) : Nat :=
  attr.fold depths

def Node.depth (node : Node) : Nat :=
  node.fold depths

def Graph.depth (graph : Graph) : Nat :=
  graph.fold depths

theorem Attribute.depth_eq (attr : Attribute) :
    attr.depth = levels ((attr.tensor.toList ++ attr.tensors).map (fun _ => 0) ++
      (attr.graph.toList ++ attr.graphs).map Graph.depth) := by
  rw [← map_toList_append Graph.depth]
  exact Attribute.fold_eq depths attr

theorem Node.depth_eq (node : Node) :
    node.depth = levels (node.attributes.map Attribute.depth) :=
  Node.fold_eq depths node

theorem Graph.depth_eq (graph : Graph) :
    graph.depth = levels (graph.nodes.map Node.depth ++ graph.initializers.map (fun _ => 0) ++
      (graph.inputs ++ graph.outputs ++ graph.valueInfos).map ValueInfo.depth) :=
  Graph.fold_eq depths graph

def Model.depth (model : Model) : Nat :=
  levels (model.graph.toList.map Graph.depth ++ model.opsetImport.map fun _ => 0)

/-! ## Strings -/

def Tensor.octetStrings (tensor : Tensor) : List Bytes :=
  tensor.stringData ++
    [Text.Utf8.encode tensor.name, Text.Utf8.encode tensor.docString, tensor.rawData]

def Extent.octetStrings : Extent → List Bytes
  | .size _ => []
  | .parameter name => [Text.Utf8.encode name]

def Dimension.octetStrings (dimension : Dimension) : List Bytes :=
  dimension.extent.toList.flatMap Extent.octetStrings ++
    [Text.Utf8.encode dimension.denotation]

def TensorType.octetStrings (type : TensorType) : List Bytes :=
  (type.shape.getD []).flatMap Dimension.octetStrings

def ValueType.octetStrings (type : ValueType) : List Bytes :=
  type.tensor.toList.flatMap TensorType.octetStrings ++ [Text.Utf8.encode type.denotation]

def ValueInfo.octetStrings (info : ValueInfo) : List Bytes :=
  info.type.toList.flatMap ValueType.octetStrings ++
    [Text.Utf8.encode info.name, Text.Utf8.encode info.docString]

/-- The texts and strings of octets in attributes, nodes and graphs and in the messages
nested in them. -/
def octetStrings : Summary (List Bytes) (List Bytes) (List Bytes) where
  ofAttribute attr graph graphs :=
    [Text.Utf8.encode attr.name, Text.Utf8.encode attr.refAttrName,
      Text.Utf8.encode attr.docString, attr.string] ++ attr.strings ++
      (attr.tensor.toList ++ attr.tensors).flatMap Tensor.octetStrings ++
      (graph.toList ++ graphs).flatten
  ofNode node attributes :=
    (node.inputs ++ node.outputs ++
      [node.name, node.opType, node.domain, node.docString]).map Text.Utf8.encode ++
      attributes.flatten
  ofGraph graph nodes :=
    [Text.Utf8.encode graph.name, Text.Utf8.encode graph.docString] ++
      graph.initializers.flatMap Tensor.octetStrings ++
      (graph.inputs ++ graph.outputs ++ graph.valueInfos).flatMap ValueInfo.octetStrings ++
      nodes.flatten

def Attribute.octetStrings (attr : Attribute) : List Bytes :=
  attr.fold Message.octetStrings

def Node.octetStrings (node : Node) : List Bytes :=
  node.fold Message.octetStrings

def Graph.octetStrings (graph : Graph) : List Bytes :=
  graph.fold Message.octetStrings

theorem Attribute.octetStrings_eq (attr : Attribute) :
    attr.octetStrings =
      [Text.Utf8.encode attr.name, Text.Utf8.encode attr.refAttrName,
        Text.Utf8.encode attr.docString, attr.string] ++ attr.strings ++
        (attr.tensor.toList ++ attr.tensors).flatMap Tensor.octetStrings ++
        (attr.graph.toList ++ attr.graphs).flatMap Graph.octetStrings := by
  change _ = _ ++ ((attr.graph.toList ++ attr.graphs).map Graph.octetStrings).flatten
  rw [← map_toList_append]
  exact Attribute.fold_eq Message.octetStrings attr

theorem Node.octetStrings_eq (node : Node) :
    node.octetStrings =
      (node.inputs ++ node.outputs ++
        [node.name, node.opType, node.domain, node.docString]).map Text.Utf8.encode ++
        node.attributes.flatMap Attribute.octetStrings :=
  Node.fold_eq Message.octetStrings node

theorem Graph.octetStrings_eq (graph : Graph) :
    graph.octetStrings =
      [Text.Utf8.encode graph.name, Text.Utf8.encode graph.docString] ++
        graph.initializers.flatMap Tensor.octetStrings ++
        (graph.inputs ++ graph.outputs ++ graph.valueInfos).flatMap ValueInfo.octetStrings ++
        graph.nodes.flatMap Node.octetStrings :=
  Graph.fold_eq Message.octetStrings graph

/-- The texts and strings of octets in a model. -/
def Model.octetStrings (model : Model) : List Bytes :=
  [model.producerName, model.producerVersion, model.domain,
    model.docString].map Text.Utf8.encode ++
    model.opsetImport.map (fun opset => Text.Utf8.encode opset.domain) ++
    model.graph.toList.flatMap Graph.octetStrings

/-! ## What comes back -/

/-- A number as it comes back from a field of its own, which zeros do not have. -/
def restoredFloat (bits : UInt32) : UInt32 :=
  if isZero bits then 0 else bits

/-- Attributes, nodes and graphs as they come back. -/
def restored : Summary Attribute Node Graph where
  ofAttribute attr graph graphs :=
    { attr with float := restoredFloat attr.float, graph, graphs }
  ofNode node attributes := { node with attributes }
  ofGraph graph nodes := { graph with nodes }

def Attribute.restored (attr : Attribute) : Attribute :=
  attr.fold Message.restored

/-- A node as it comes back. -/
def Node.restored (node : Node) : Node :=
  node.fold Message.restored

/-- A graph as it comes back. -/
def Graph.restored (graph : Graph) : Graph :=
  graph.fold Message.restored

theorem Attribute.restored_eq (attr : Attribute) :
    attr.restored = { attr with
      float := restoredFloat attr.float
      graph := attr.graph.map Graph.restored
      graphs := attr.graphs.map Graph.restored } :=
  Attribute.fold_eq Message.restored attr

theorem Node.restored_eq (node : Node) :
    node.restored = { node with attributes := node.attributes.map Attribute.restored } :=
  Node.fold_eq Message.restored node

theorem Graph.restored_eq (graph : Graph) :
    graph.restored = { graph with nodes := graph.nodes.map Node.restored } :=
  Graph.fold_eq Message.restored graph

/-- A model as it comes back. -/
def Model.restored (model : Model) : Model :=
  { model with graph := model.graph.map Graph.restored }

end OnnxForge.Message
