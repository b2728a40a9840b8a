import OnnxForge.Proofs.Message.Fields

/-!
# Reading messages back

A message that is written is read back where it is nested no deeper than readers go and no
string in it is too long for them. It comes back as it was, but for the negative zeros of
attributes.
-/

namespace OnnxForge.Message

/-! ## Written fields -/

/-- The fields are ones that messages write. -/
def Written (fields : List Wire.Field) : Prop :=
  ∀ field ∈ fields, field.Written

section Written

variable {number : Nat}

@[simp]
theorem written_nil : Written [] := by
  intro field member
  cases member

@[simp]
theorem written_append {first second : List Wire.Field} :
    Written (first ++ second) ↔ Written first ∧ Written second :=
  List.forall_mem_append

theorem written_octets (positive : 0 < number) (small : number < 0x20000000) (octets : Bytes) :
    Wire.Field.Written ⟨number, .octets octets⟩ :=
  ⟨positive, small, rfl⟩

theorem written_varint (positive : 0 < number) (small : number < 0x20000000) (value : UInt64) :
    Wire.Field.Written ⟨number, .varint value⟩ :=
  ⟨positive, small, trivial⟩

theorem written_single {field : Wire.Field} (written : field.Written) : Written [field] := by
  intro other member
  rcases List.mem_singleton.mp member with rfl
  exact written

theorem written_leftOut {idle : Prop} [Decidable idle] {field : Wire.Field}
    (written : field.Written) :
    Written (if idle then [] else [field]) := by
  split
  · exact written_nil
  · exact written_single written

@[simp]
theorem written_int64Field (positive : 0 < number) (small : number < 0x20000000) (value : Int64) :
    Written (int64Field number value) :=
  written_leftOut (written_varint positive small _)

@[simp]
theorem written_int32Field (positive : 0 < number) (small : number < 0x20000000) (value : Int32) :
    Written (int32Field number value) :=
  written_leftOut (written_varint positive small _)

@[simp]
theorem written_floatField (positive : 0 < number) (small : number < 0x20000000) (bits : UInt32) :
    Written (floatField number bits) :=
  written_leftOut ⟨positive, small, trivial⟩

@[simp]
theorem written_bytesField (positive : 0 < number) (small : number < 0x20000000) (octets : Bytes) :
    Written (bytesField number octets) :=
  written_leftOut (written_octets positive small octets)

@[simp]
theorem written_textField (positive : 0 < number) (small : number < 0x20000000) (text : String) :
    Written (textField number text) :=
  written_bytesField positive small _

@[simp]
theorem written_packedField {α : Type} (positive : 0 < number) (small : number < 0x20000000)
    (write : α → Bytes) (values : List α) :
    Written (packedField number write values) :=
  written_leftOut (written_octets positive small _)

@[simp]
theorem written_bytesFields (positive : 0 < number) (small : number < 0x20000000)
    (values : List Bytes) :
    Written (bytesFields number values) := by
  intro field member
  rcases List.mem_map.mp member with ⟨octets, _, rfl⟩
  exact written_octets positive small octets

@[simp]
theorem written_messages {α : Type} (positive : 0 < number) (small : number < 0x20000000)
    (fieldsOf : α → List Wire.Field) (items : List α) :
    Written (items.map fun item => messageField number (fieldsOf item)) := by
  intro field member
  rcases List.mem_map.mp member with ⟨item, _, rfl⟩
  exact written_octets positive small _

@[simp]
theorem written_optional {α : Type} (positive : 0 < number) (small : number < 0x20000000)
    (fieldsOf : α → List Wire.Field) (item : Option α) :
    Written (item.elim [] fun present => [messageField number (fieldsOf present)]) := by
  cases item with
  | none => exact written_nil
  | some present => exact written_single (written_octets positive small _)

end Written

/-! ## Reading -/

/-- The octets of fields are read as an item where so many levels and so much room are left. -/
def ReadAs {α : Type} (read : Reader α) (depth : Nat) (fields : List Wire.Field) (item : α) :
    Prop :=
  ∀ room, (Wire.encode fields).length ≤ room → room < UInt64.size →
    read depth room (Wire.encode fields) = some item

section ReadAs

variable {α : Type} {read : Reader α} {depth : Nat} {fields : List Wire.Field} {item : α}

/-- A message is read from its fields when these lead to it. -/
theorem readAs_of_restores {empty : α} {add : α → Wire.Field → Option α}
    (reads : read depth = readFields depth empty add) (written : Written fields)
    (restores : Restores add fields empty item) :
    ReadAs read depth fields item := by
  intro room fits small
  rw [reads, readFields, Wire.fields?_encode written fits small, Option.bind_some]
  exact restores (Nat.lt_of_le_of_lt fits small)

/-- A message is read inside another one that leaves a level more than it needs. -/
theorem nested?_contentOf {need : Nat} (fits : need < depth)
    (reads : ∀ inner, need ≤ inner → ReadAs read inner fields item) (bounded : Bounded fields) :
    nested? read depth (contentOf (Wire.encode fields)) = some item := by
  obtain ⟨inner, rfl⟩ : ∃ inner, depth = inner + 1 := ⟨depth - 1, by omega⟩
  exact reads inner (by omega) _ (Nat.le_refl _) bounded

end ReadAs

/-! ## Tensors and types -/

theorem Tensor.written (tensor : Tensor) : Written tensor.fields := by
  simp [Tensor.fields, int64sField, floatsField, int32sField, doublesField, uint64sField]

theorem Tensor.readAs {tensor : Tensor} (short : ∀ octets ∈ tensor.octetStrings, Short octets)
    (depth : Nat) :
    ReadAs tensor? depth tensor.fields tensor := by
  simp only [Tensor.octetStrings, List.forall_mem_append, List.forall_mem_cons] at short
  obtain ⟨strings, name, docString, raw, _⟩ := short
  refine readAs_of_restores rfl tensor.written ?_
  simp only [Tensor.fields, List.append_assoc]
  refine .append (.int64s (fun _ _ => rfl) rfl _) ?_
  refine .append (.int32 (fun _ _ => rfl) rfl _) ?_
  refine .append (.floats (fun _ _ => rfl) rfl _) ?_
  refine .append (.int32s (fun _ _ => rfl) rfl _) ?_
  refine .append (.bytesList
    { get := (·.stringData), set := fun tensor stringData => { tensor with stringData } }
    (fun _ _ => rfl) strings) ?_
  refine .append (.int64s (fun _ _ => rfl) rfl _) ?_
  refine .append (.text (fun _ _ => rfl) rfl name) ?_
  refine .append (.text (fun _ _ => rfl) rfl docString) ?_
  refine .append (.bytes (fun _ _ => rfl) rfl raw) ?_
  refine .append (.doubles (fun _ _ => rfl) rfl _) ?_
  exact .last (.uint64s (fun _ _ => rfl) rfl _) rfl

theorem Extent.restores {extent : Extent}
    (short : ∀ octets ∈ extent.octetStrings, Short octets) :
    Restores Dimension.add extent.fields {} { extent := some extent } := by
  cases extent with
  | size value =>
      refine .single fun _ => ?_
      change some _ = _
      rw [Int64.toInt64_toUInt64]
  | parameter name =>
      refine .single fun _ => ?_
      have read : text? (contentOf (Text.Utf8.encode name)) = some name :=
        text?_contentOf (short _ List.mem_cons_self)
      change (text? (contentOf (Text.Utf8.encode name))).map _ = _
      rw [read, Option.map_some]

theorem Extent.written (extent : Extent) : Written extent.fields := by
  cases extent with
  | size value => exact written_single (written_varint (by decide) (by decide) _)
  | parameter name => exact written_single (written_octets (by decide) (by decide) _)

theorem Dimension.written (dimension : Dimension) : Written dimension.fields := by
  obtain ⟨extent, denotation⟩ := dimension
  cases extent with
  | none => simp [Dimension.fields]
  | some extent =>
      exact written_append.mpr ⟨extent.written, written_textField (by decide) (by decide) _⟩

theorem Dimension.readAs {dimension : Dimension}
    (short : ∀ octets ∈ dimension.octetStrings, Short octets) (depth : Nat) :
    ReadAs dimension? depth dimension.fields dimension := by
  refine readAs_of_restores rfl dimension.written ?_
  obtain ⟨extent, denotation⟩ := dimension
  simp only [Dimension.octetStrings, List.forall_mem_append, List.forall_mem_cons] at short
  obtain ⟨extentShort, denotationShort, _⟩ := short
  cases extent with
  | none => exact .last (.text (fun _ _ => rfl) rfl denotationShort) rfl
  | some extent =>
      refine .append (Extent.restores (by simpa using extentShort)) ?_
      exact .last (.text (fun _ _ => rfl) rfl denotationShort) rfl

theorem shape_readAs {shape : List Dimension} {depth : Nat} (fits : shapeDepth shape ≤ depth)
    (short : ∀ dimension ∈ shape, ∀ octets ∈ dimension.octetStrings, Short octets) :
    ReadAs shape? depth (shapeFields shape) shape := by
  have below := levels_le_iff.mp fits
  have nested : ∀ dimension ∈ shape, Bounded dimension.fields →
      nested? dimension? depth (contentOf (Wire.encode dimension.fields)) = some dimension :=
    fun dimension member => nested?_contentOf
      (below 0 (List.mem_map.mpr ⟨dimension, member, rfl⟩))
      fun inner _ => Dimension.readAs (short dimension member) inner
  refine readAs_of_restores rfl (by simp [shapeFields]) ?_
  exact .messages_same { get := id, set := fun _ shape => shape } (fun _ _ => rfl) nested

theorem TensorType.readAs {type : TensorType} {depth : Nat} (fits : type.depth ≤ depth)
    (short : ∀ octets ∈ type.octetStrings, Short octets) :
    ReadAs tensorType? depth type.fields type := by
  obtain ⟨elementType, shape⟩ := type
  have below := levels_le_iff.mp fits
  have nested : ∀ present ∈ shape, Bounded (shapeFields present) →
      nested? shape? depth (contentOf (Wire.encode (shapeFields present))) = some present := by
    rintro present rfl
    refine nested?_contentOf (below (shapeDepth present) List.mem_cons_self) fun inner enough => ?_
    exact shape_readAs enough (List.forall_mem_flatMap.mp short)
  refine readAs_of_restores rfl (by simp [TensorType.fields]) ?_
  refine .append (.int32 (fun _ _ => rfl) rfl _) ?_
  exact .last (.optional_same (fun type shape => { type with shape }) (fun _ _ => rfl) rfl
    nested) rfl

theorem ValueType.readAs {type : ValueType} {depth : Nat} (fits : type.depth ≤ depth)
    (short : ∀ octets ∈ type.octetStrings, Short octets) :
    ReadAs valueType? depth type.fields type := by
  obtain ⟨tensor, denotation⟩ := type
  have below := levels_le_iff.mp fits
  simp only [ValueType.octetStrings, List.forall_mem_append, List.forall_mem_cons] at short
  obtain ⟨tensorShort, denotationShort, _⟩ := short
  have nested : ∀ present ∈ tensor, Bounded present.fields →
      nested? tensorType? depth (contentOf (Wire.encode present.fields)) = some present := by
    rintro present rfl
    refine nested?_contentOf (below present.depth List.mem_cons_self) fun inner enough => ?_
    exact TensorType.readAs enough (by simpa using tensorShort)
  refine readAs_of_restores rfl (by simp [ValueType.fields]) ?_
  refine .append (.optional_same (fun type tensor => { type with tensor }) (fun _ _ => rfl) rfl
    nested) ?_
  exact .last (.text (fun _ _ => rfl) rfl denotationShort) rfl

theorem ValueInfo.readAs {info : ValueInfo} {depth : Nat} (fits : info.depth ≤ depth)
    (short : ∀ octets ∈ info.octetStrings, Short octets) :
    ReadAs valueInfo? depth info.fields info := by
  obtain ⟨name, type, docString⟩ := info
  have below := levels_le_iff.mp fits
  simp only [ValueInfo.octetStrings, List.forall_mem_append, List.forall_mem_cons] at short
  obtain ⟨typeShort, nameShort, docShort, _⟩ := short
  have nested : ∀ present ∈ type, Bounded present.fields →
      nested? valueType? depth (contentOf (Wire.encode present.fields)) = some present := by
    rintro present rfl
    refine nested?_contentOf (below present.depth List.mem_cons_self) fun inner enough => ?_
    exact ValueType.readAs enough (by simpa using typeShort)
  refine readAs_of_restores rfl (by simp [ValueInfo.fields]) ?_
  simp only [ValueInfo.fields, List.append_assoc]
  refine .append (.text (fun _ _ => rfl) rfl nameShort) ?_
  refine .append (.optional_same (fun info type => { info with type }) (fun _ _ => rfl) rfl
    nested) ?_
  exact .last (.text (fun _ _ => rfl) rfl docShort) rfl

theorem OperatorSet.readAs {opset : OperatorSet} (short : Short (Text.Utf8.encode opset.domain))
    (depth : Nat) :
    ReadAs operatorSet? depth opset.fields opset := by
  refine readAs_of_restores rfl (by simp [OperatorSet.fields]) ?_
  refine .append (.text (fun _ _ => rfl) rfl short) ?_
  exact .last (.int64 (fun opset version => { opset with version }) (fun _ _ => rfl) rfl _) rfl

/-! ## Attributes, nodes and graphs -/

theorem Graph.optionalField_eq (graph : Option Graph) :
    Graph.optionalField graph = graph.elim [] fun graph => [messageField 6 graph.fields] := by
  cases graph <;> rfl

theorem Graph.listFields_eq (graphs : List Graph) :
    Graph.listFields graphs = graphs.map fun graph => messageField 11 graph.fields := by
  induction graphs with
  | nil => rfl
  | cons graph rest ih => rw [Graph.listFields, ih, List.map_cons]

theorem Attribute.listFields_eq (attributes : List Attribute) :
    Attribute.listFields attributes = attributes.map fun attr => messageField 5 attr.fields := by
  induction attributes with
  | nil => rfl
  | cons first rest ih => rw [Attribute.listFields, ih, List.map_cons]

theorem Node.listFields_eq (nodes : List Node) :
    Node.listFields nodes = nodes.map fun node => messageField 1 node.fields := by
  induction nodes with
  | nil => rfl
  | cons node rest ih => rw [Node.listFields, ih, List.map_cons]

theorem attribute?_eq (depth : Nat) :
    attribute? depth =
      readFields depth {} (Attribute.add (nested? tensor? depth) (nested? graph? depth)) := by
  cases depth <;> rfl

theorem node?_eq (depth : Nat) :
    node? depth = readFields depth {} (Node.add (nested? attribute? depth)) := by
  cases depth <;> rfl

theorem graph?_eq (depth : Nat) :
    graph? depth = readFields depth {}
      (Graph.add (nested? node? depth) (nested? tensor? depth) (nested? valueInfo? depth)) := by
  cases depth <;> rfl

/-- A message that may be nested in itself is read back wherever it has levels enough. -/
def Readable {α : Type} (read : Reader α) (fieldsOf : α → List Wire.Field) (need : α → Nat)
    (strings : α → List Bytes) (restored : α → α) (message : α) : Prop :=
  (∀ octets ∈ strings message, Short octets) → ∀ depth, need message ≤ depth →
    ReadAs read depth (fieldsOf message) (restored message)

abbrev Attribute.Readable : Attribute → Prop :=
  Message.Readable attribute? Attribute.fields Attribute.depth Attribute.octetStrings
    Attribute.restored

abbrev Node.Readable : Node → Prop :=
  Message.Readable node? Node.fields Node.depth Node.octetStrings Node.restored

abbrev Graph.Readable : Graph → Prop :=
  Message.Readable graph? Graph.fields Graph.depth Graph.octetStrings Graph.restored

section Nested

variable {α : Type} {read : Reader α} {fieldsOf : α → List Wire.Field} {need : α → Nat}
variable {strings : α → List Bytes} {restored : α → α} {depth : Nat} {items : List α}

/-- Messages that are read back each are read inside another one. -/
theorem nested?_of_readable
    (readable : ∀ item ∈ items, Readable read fieldsOf need strings restored item)
    (short : ∀ item ∈ items, ∀ octets ∈ strings item, Short octets)
    (below : ∀ item ∈ items, need item < depth) :
    ∀ item ∈ items, Bounded (fieldsOf item) →
      nested? read depth (contentOf (Wire.encode (fieldsOf item))) = some (restored item) :=
  fun item member => nested?_contentOf (below item member)
    (readable item member (short item member))

end Nested

theorem Tensor.readable (tensor : Tensor) :
    Readable tensor? Tensor.fields (fun _ => 0) Tensor.octetStrings id tensor :=
  fun short depth _ => Tensor.readAs short depth

theorem ValueInfo.readable (info : ValueInfo) :
    Readable valueInfo? ValueInfo.fields ValueInfo.depth ValueInfo.octetStrings id info :=
  fun short _ fits => ValueInfo.readAs fits short

theorem Attribute.fields_eq (attr : Attribute) :
    attr.fields =
      textField 1 attr.name ++ textField 21 attr.refAttrName ++ textField 13 attr.docString ++
        int32Field 20 attr.type ++ floatField 2 attr.float ++ int64Field 3 attr.int ++
        bytesField 4 attr.string ++
        (attr.tensor.elim [] fun tensor => [messageField 5 tensor.fields]) ++
        (attr.graph.elim [] fun graph => [messageField 6 graph.fields]) ++
        floatsField 7 attr.floats ++ int64sField 8 attr.ints ++ bytesFields 9 attr.strings ++
        (attr.tensors.map fun tensor => messageField 10 tensor.fields) ++
        attr.graphs.map fun graph => messageField 11 graph.fields := by
  obtain ⟨⟩ := attr
  rw [Attribute.fields, Graph.optionalField_eq, Graph.listFields_eq]

theorem Attribute.written (attr : Attribute) : Written attr.fields := by
  simp [Attribute.fields_eq, floatsField, int64sField]

theorem Attribute.readable_of_graphs {attr : Attribute}
    (graphs : ∀ graph ∈ attr.graph.toList ++ attr.graphs, graph.Readable) :
    attr.Readable := by
  intro short depth fits
  rw [Attribute.restored_eq]
  rw [Attribute.depth_eq, levels_le_iff, List.forall_mem_append, List.forall_mem_map,
    List.forall_mem_map] at fits
  obtain ⟨tensorsBelow, graphsBelow⟩ := fits
  simp only [Attribute.octetStrings_eq, List.forall_mem_append, List.forall_mem_cons,
    List.forall_mem_flatMap] at short
  obtain ⟨⟨⟨⟨nameShort, refShort, docShort, stringShort, _⟩, stringsShort⟩, tensorShort,
    tensorsShort⟩, graphShort, graphsShort⟩ := short
  have tensorNested := nested?_of_readable (fun tensor _ => Tensor.readable tensor)
    (List.forall_mem_append.mpr ⟨tensorShort, tensorsShort⟩) tensorsBelow
  have graphNested := nested?_of_readable graphs
    (List.forall_mem_append.mpr ⟨graphShort, graphsShort⟩) graphsBelow
  rw [List.forall_mem_append] at tensorNested graphNested
  refine readAs_of_restores (attribute?_eq depth) attr.written ?_
  obtain ⟨name, refAttrName, docString, type, float, int, string, tensor, graph, floats, ints,
    strings, tensors, graphs⟩ := attr
  simp only [Attribute.fields_eq, List.append_assoc]
  refine .append (.text (fun _ _ => rfl) rfl nameShort) ?_
  refine .append (.text (fun _ _ => rfl) rfl refShort) ?_
  refine .append (.text (fun _ _ => rfl) rfl docShort) ?_
  refine .append (.int32 (fun _ _ => rfl) rfl _) ?_
  refine .append (.float (fun attr float => { attr with float }) (fun _ _ => rfl) rfl _) ?_
  refine .append (.int64 (fun attr int => { attr with int }) (fun _ _ => rfl) rfl _) ?_
  refine .append (.bytes (fun _ _ => rfl) rfl stringShort) ?_
  refine .append (.optional_same (fun attr tensor => { attr with tensor }) (fun _ _ => rfl) rfl
    (by simpa using tensorNested.1)) ?_
  refine .append (.optional (fun attr graph => { attr with graph }) (fun _ _ => rfl) rfl
    (by simpa using graphNested.1)) ?_
  refine .append (.floats (fun _ _ => rfl) rfl _) ?_
  refine .append (.int64s (fun _ _ => rfl) rfl _) ?_
  refine .append (.bytesList
    { get := (·.strings), set := fun attr strings => { attr with strings } }
    (fun _ _ => rfl) stringsShort) ?_
  refine .append (.messages_same
    { get := (·.tensors), set := fun attr tensors => { attr with tensors } }
    (fun _ _ => rfl) tensorNested.2) ?_
  exact .last (.messages
    { get := (·.graphs), set := fun attr graphs => { attr with graphs } }
    (fun _ _ => rfl) graphNested.2) rfl

theorem Node.fields_eq (node : Node) :
    node.fields =
      textFields 1 node.inputs ++ textFields 2 node.outputs ++ textField 3 node.name ++
        textField 4 node.opType ++ textField 7 node.domain ++
        (node.attributes.map fun attr => messageField 5 attr.fields) ++
        textField 6 node.docString := by
  obtain ⟨⟩ := node
  rw [Node.fields, Attribute.listFields_eq]

theorem Node.written (node : Node) : Written node.fields := by
  simp [Node.fields_eq, textFields]

theorem Node.readable_of_attributes {node : Node}
    (attributes : ∀ attr ∈ node.attributes, attr.Readable) :
    node.Readable := by
  intro short depth fits
  rw [Node.restored_eq]
  rw [Node.depth_eq, levels_le_iff, List.forall_mem_map] at fits
  simp only [Node.octetStrings_eq, List.forall_mem_append, List.forall_mem_cons,
    List.forall_mem_flatMap, List.forall_mem_map] at short
  obtain ⟨⟨⟨inputsShort, outputsShort⟩, nameShort, typeShort, domainShort, docShort, _⟩,
    attributesShort⟩ := short
  have nested := nested?_of_readable attributes attributesShort fits
  refine readAs_of_restores (node?_eq depth) node.written ?_
  obtain ⟨inputs, outputs, name, opType, domain, attributes, docString⟩ := node
  simp only [Node.fields_eq, List.append_assoc]
  refine .append (.texts
    { get := (·.inputs), set := fun node inputs => { node with inputs } }
    (fun _ _ => rfl) inputsShort) ?_
  refine .append (.texts
    { get := (·.outputs), set := fun node outputs => { node with outputs } }
    (fun _ _ => rfl) outputsShort) ?_
  refine .append (.text (fun _ _ => rfl) rfl nameShort) ?_
  refine .append (.text (fun _ _ => rfl) rfl typeShort) ?_
  refine .append (.text (fun _ _ => rfl) rfl domainShort) ?_
  refine .append (.messages
    { get := (·.attributes), set := fun node attributes => { node with attributes } }
    (fun _ _ => rfl) nested) ?_
  exact .last (.text (fun _ _ => rfl) rfl docShort) rfl

theorem Graph.fields_eq (graph : Graph) :
    graph.fields =
      (graph.nodes.map fun node => messageField 1 node.fields) ++ textField 2 graph.name ++
        (graph.initializers.map fun tensor => messageField 5 tensor.fields) ++
        textField 10 graph.docString ++
        (graph.inputs.map fun info => messageField 11 info.fields) ++
        (graph.outputs.map fun info => messageField 12 info.fields) ++
        graph.valueInfos.map fun info => messageField 13 info.fields := by
  obtain ⟨⟩ := graph
  rw [Graph.fields, Node.listFields_eq]

theorem Graph.written (graph : Graph) : Written graph.fields := by
  simp [Graph.fields_eq]

theorem Graph.readable_of_nodes {graph : Graph} (nodes : ∀ node ∈ graph.nodes, node.Readable) :
    graph.Readable := by
  intro short depth fits
  rw [Graph.restored_eq]
  simp only [Graph.depth_eq, levels_le_iff, List.forall_mem_append, List.forall_mem_map] at fits
  obtain ⟨⟨nodesBelow, initializersBelow⟩, ⟨inputsBelow, outputsBelow⟩, infosBelow⟩ := fits
  simp only [Graph.octetStrings_eq, List.forall_mem_append, List.forall_mem_cons,
    List.forall_mem_flatMap] at short
  obtain ⟨⟨⟨⟨nameShort, docShort, _⟩, initializersShort⟩, ⟨inputsShort, outputsShort⟩,
    infosShort⟩, nodesShort⟩ := short
  have infoReadable : ∀ infos : List ValueInfo, ∀ info ∈ infos, _ :=
    fun _ info _ => ValueInfo.readable info
  refine readAs_of_restores (graph?_eq depth) graph.written ?_
  obtain ⟨nodes, name, initializers, docString, inputs, outputs, valueInfos⟩ := graph
  simp only [Graph.fields_eq, List.append_assoc]
  refine .append (.messages
    { get := (·.nodes), set := fun graph nodes => { graph with nodes } }
    (fun _ _ => rfl) (nested?_of_readable nodes nodesShort nodesBelow)) ?_
  refine .append (.text (fun _ _ => rfl) rfl nameShort) ?_
  refine .append (.messages_same
    { get := (·.initializers), set := fun graph initializers => { graph with initializers } }
    (fun _ _ => rfl) (nested?_of_readable (fun tensor _ => Tensor.readable tensor)
      initializersShort initializersBelow)) ?_
  refine .append (.text (fun _ _ => rfl) rfl docShort) ?_
  refine .append (.messages_same
    { get := (·.inputs), set := fun graph inputs => { graph with inputs } }
    (fun _ _ => rfl) (nested?_of_readable (infoReadable _) inputsShort inputsBelow)) ?_
  refine .append (.messages_same
    { get := (·.outputs), set := fun graph outputs => { graph with outputs } }
    (fun _ _ => rfl) (nested?_of_readable (infoReadable _) outputsShort outputsBelow)) ?_
  exact .last (.messages_same
    { get := (·.valueInfos), set := fun graph valueInfos => { graph with valueInfos } }
    (fun _ _ => rfl) (nested?_of_readable (infoReadable _) infosShort infosBelow)) rfl

/-- A graph is read back where it has the levels that it needs and its strings are short. -/
theorem Graph.readable (graph : Graph) : graph.Readable :=
  (nested_induction
    (fun _ present listed => Attribute.readable_of_graphs
      (List.forall_mem_append.mpr ⟨by simpa using present, listed⟩))
    (fun _ => Node.readable_of_attributes) (fun _ => Graph.readable_of_nodes)).2.2 graph

/-! ## Models -/

theorem Model.written (model : Model) : Written model.fields := by
  simp [Model.fields]

/-- The file of a model gives the model back, where its messages are nested no deeper than
readers go, no string in it is too long for them, and it is not too long itself. -/
theorem Model.decode_encode {model : Model} (shallow : model.depth ≤ nestingLimit)
    (short : ∀ octets ∈ model.octetStrings, Short octets)
    (bounded : model.encode.length < UInt64.size) :
    Model.decode model.encode = some model.restored := by
  rw [Model.depth, levels_le_iff, List.forall_mem_append, List.forall_mem_map,
    List.forall_mem_map] at shallow
  simp only [Model.octetStrings, List.forall_mem_append, List.forall_mem_map,
    List.forall_mem_flatMap, List.forall_mem_cons] at short
  obtain ⟨⟨⟨producerShort, versionShort, domainShort, docShort, _⟩, importShort⟩,
    graphShort⟩ := short
  have graphNested := nested?_of_readable (fun graph _ => graph.readable) graphShort shallow.1
  have importNested : ∀ opset ∈ model.opsetImport, Bounded opset.fields →
      nested? operatorSet? nestingLimit (contentOf (Wire.encode opset.fields)) =
        some opset :=
    fun opset member => nested?_contentOf (shallow.2 opset member)
      fun inner _ => OperatorSet.readAs (importShort opset member) inner
  have read : ReadAs model? nestingLimit model.fields model.restored := by
    refine readAs_of_restores rfl model.written ?_
    simp only [Model.fields, List.append_assoc]
    refine .append (.int64 (fun model irVersion => { model with irVersion })
      (fun _ _ => rfl) rfl _) ?_
    refine .append (.messages_same
      { get := (·.opsetImport), set := fun model opsetImport => { model with opsetImport } }
      (fun _ _ => rfl) importNested) ?_
    refine .append (.text (fun _ _ => rfl) rfl producerShort) ?_
    refine .append (.text (fun _ _ => rfl) rfl versionShort) ?_
    refine .append (.text (fun _ _ => rfl) rfl domainShort) ?_
    refine .append (.int64 (fun model modelVersion => { model with modelVersion })
      (fun _ _ => rfl) rfl _) ?_
    refine .append (.text (fun _ _ => rfl) rfl docShort) ?_
    exact .last (.optional (fun model graph => { model with graph }) (fun _ _ => rfl) rfl
      (by simpa using graphNested)) rfl
  exact read fileRoom (Nat.le_pred_of_lt bounded) (by decide)

end OnnxForge.Message
