import OnnxForge.Proofs.Message.RoundTrip

/-!
# What readers ask of a message

A written message that is read back was nested no deeper than its reader goes, and has no
string that is too long: every field was taken on its own, and that of a nested message only
with a level left for it.
-/

namespace OnnxForge.Message

/-! ## Fields -/

/-- Every one of the fields is bounded, and is added to some state of the message. -/
def Takes {α : Type} (add : α → Wire.Field → Option α) (fields : List Wire.Field) : Prop :=
  ∀ field ∈ fields, Bounded [field] ∧ ∃ before after, add before field = some after

section Read

variable {α : Type} {add : α → Wire.Field → Option α} {fields : List Wire.Field}

theorem added_of_foldlM {before after : α} (run : fields.foldlM add before = some after) :
    ∀ field ∈ fields, ∃ before after, add before field = some after := by
  induction fields generalizing before with
  | nil =>
      intro field member
      cases member
  | cons field rest ih =>
      rw [List.foldlM_cons] at run
      rcases Option.bind_eq_some_iff.mp run with ⟨between, added, following⟩
      exact List.forall_mem_cons.mpr ⟨⟨before, between, added⟩, ih following⟩

/-- The fields of a message that is read were all taken. -/
theorem takes_of_read {read : Reader α} {depth room : Nat} {empty item : α}
    (reads : read depth = readFields depth empty add) (written : Written fields)
    (fits : (Wire.encode fields).length ≤ room) (small : room < UInt64.size)
    (run : read depth room (Wire.encode fields) = some item) :
    Takes add fields := by
  rw [reads, readFields, Wire.fields?_encode written fits small, Option.bind_some] at run
  have bounded : Bounded fields := Nat.lt_of_le_of_lt fits small
  exact fun field member => ⟨bounded.of_mem member, added_of_foldlM run field member⟩

end Read

/-- Every field of the number is a string, all of which has to be there. -/
def Stringy {α : Type} (add : α → Wire.Field → Option α) (number : Nat) : Prop :=
  ∀ message content after, add message ⟨number, .delimited content⟩ = some after →
    ∃ octets, complete? content = some octets

section Stringy

variable {α : Type} {add : α → Wire.Field → Option α} {number : Nat}

theorem Stringy.bytes {put : α → Bytes → α}
    (reads : ∀ message content,
      add message ⟨number, .delimited content⟩ = (complete? content).map (put message)) :
    Stringy add number := by
  intro message content after added
  rw [reads] at added
  rcases Option.map_eq_some_iff.mp added with ⟨octets, complete, _⟩
  exact ⟨octets, complete⟩

theorem Stringy.text {put : α → String → α}
    (reads : ∀ message content,
      add message ⟨number, .delimited content⟩ = (text? content).map (put message)) :
    Stringy add number := by
  intro message content after added
  rw [reads] at added
  rcases Option.map_eq_some_iff.mp added with ⟨text, read, _⟩
  rcases Option.bind_eq_some_iff.mp read with ⟨octets, complete, _⟩
  exact ⟨octets, complete⟩

theorem short_of_complete? {octets read : Bytes}
    (complete : complete? (contentOf octets) = some read) :
    Short octets := by
  rw [complete?] at complete
  split at complete
  next whole => exact whole.2.1
  next => cases complete

end Stringy

namespace Takes

variable {α β : Type} {add : α → Wire.Field → Option α} {number : Nat}

theorem append_iff {first second : List Wire.Field} :
    Takes add (first ++ second) ↔ Takes add first ∧ Takes add second :=
  List.forall_mem_append

theorem strings (stringy : Stringy add number) {values : List Bytes}
    (takes : Takes add (bytesFields number values)) :
    ∀ octets ∈ values, Short octets := by
  intro octets member
  rcases takes _ (List.mem_map_of_mem member) with ⟨_, before, after, added⟩
  rcases stringy before (contentOf octets) after added with ⟨read, complete⟩
  exact short_of_complete? complete

theorem texts (stringy : Stringy add number) {values : List String}
    (takes : Takes add (textFields number values)) :
    ∀ text ∈ values, Short (Text.Utf8.encode text) :=
  List.forall_mem_map.mp (strings stringy takes)

/-- A string is short also when it has no field, as it is empty then. -/
theorem string (stringy : Stringy add number) {octets : Bytes}
    (takes : Takes add (bytesField number octets)) :
    Short octets := by
  rw [bytesField] at takes
  split at takes
  next empty =>
    rw [List.isEmpty_iff.mp empty]
    exact (by decide : 0 < UInt32.size)
  next =>
    have listed : Takes add (bytesFields number [octets]) := takes
    exact strings stringy listed octets List.mem_cons_self

/-- Every message of a list was read. -/
theorem messages {γ : Type} {put : α → β → α} {read : Wire.Delimited → Option β}
    {fieldsOf : γ → List Wire.Field} {items : List γ}
    (reads : ∀ message content,
      add message ⟨number, .delimited content⟩ = (read content).map (put message))
    (takes : Takes add (items.map fun item => messageField number (fieldsOf item))) :
    ∀ item ∈ items, Bounded (fieldsOf item) ∧
      ∃ found, read (contentOf (Wire.encode (fieldsOf item))) = some found := by
  intro item member
  rcases takes _ (List.mem_map_of_mem member) with ⟨bounded, before, after, added⟩
  have run := (reads before (contentOf _)).symm.trans added
  rcases Option.map_eq_some_iff.mp run with ⟨found, found_eq, _⟩
  exact ⟨bounded.content, found, found_eq⟩

theorem optional {γ : Type} {put : α → β → α} {read : Wire.Delimited → Option β}
    {fieldsOf : γ → List Wire.Field} {item : Option γ}
    (reads : ∀ message content,
      add message ⟨number, .delimited content⟩ = (read content).map (put message))
    (takes : Takes add
      (item.elim [] fun present => [messageField number (fieldsOf present)])) :
    ∀ present ∈ item.toList, Bounded (fieldsOf present) ∧
      ∃ found, read (contentOf (Wire.encode (fieldsOf present))) = some found := by
  refine messages reads ?_
  cases item <;> exact takes

end Takes

/-! ## Messages -/

/-- Where a message is read there are levels enough for it, and its strings are short. -/
def Needs {α : Type} (read : Reader α) (fieldsOf : α → List Wire.Field) (need : α → Nat)
    (strings : α → List Bytes) (message : α) : Prop :=
  ∀ (depth room : Nat) (found : α), (Wire.encode (fieldsOf message)).length ≤ room →
    room < UInt64.size → read depth room (Wire.encode (fieldsOf message)) = some found →
      need message ≤ depth ∧ ∀ octets ∈ strings message, Short octets

section Nested

variable {α : Type} {read : Reader α} {fieldsOf : α → List Wire.Field} {need : α → Nat}
variable {strings : α → List Bytes} {depth : Nat} {items : List α}

/-- Messages nested in another one need a level more. -/
theorem needs_of_nested (needs : ∀ item ∈ items, Needs read fieldsOf need strings item)
    (taken : ∀ item ∈ items, Bounded (fieldsOf item) ∧
      ∃ found, nested? read depth (contentOf (Wire.encode (fieldsOf item))) = some found) :
    (∀ item ∈ items, need item < depth) ∧
      ∀ item ∈ items, ∀ octets ∈ strings item, Short octets := by
  have each : ∀ item ∈ items, need item < depth ∧ ∀ octets ∈ strings item, Short octets := by
    intro item member
    rcases taken item member with ⟨bounded, found, run⟩
    cases depth with
    | zero => cases run
    | succ inner =>
        have ⟨enough, short⟩ := needs item member inner _ found (Nat.le_refl _) bounded run
        exact ⟨Nat.lt_succ_of_le enough, short⟩
  exact ⟨fun item member => (each item member).1, fun item member => (each item member).2⟩

end Nested

theorem Tensor.needs (tensor : Tensor) :
    Needs tensor? Tensor.fields (fun _ => 0) Tensor.octetStrings tensor := by
  intro depth room found fits small run
  have takes := takes_of_read rfl tensor.written fits small run
  simp only [Tensor.fields, Takes.append_iff] at takes
  obtain ⟨⟨⟨⟨⟨⟨⟨⟨⟨⟨_, _⟩, _⟩, _⟩, strings⟩, _⟩, name⟩, docString⟩, raw⟩, _⟩, _⟩ := takes
  refine ⟨Nat.zero_le _, ?_⟩
  simp only [Tensor.octetStrings, List.forall_mem_append, List.forall_mem_cons]
  exact ⟨strings.strings (.bytes fun _ _ => rfl), name.string (.text fun _ _ => rfl),
    docString.string (.text fun _ _ => rfl), raw.string (.bytes fun _ _ => rfl), by simp⟩

theorem Dimension.needs (dimension : Dimension) :
    Needs dimension? Dimension.fields (fun _ => 0) Dimension.octetStrings dimension := by
  intro depth room found fits small run
  have takes := takes_of_read rfl dimension.written fits small run
  rw [Dimension.fields, Takes.append_iff] at takes
  refine ⟨Nat.zero_le _, List.forall_mem_append.mpr ⟨?_, ?_⟩⟩
  · obtain ⟨_ | _ | name, denotation⟩ := dimension
    · simp
    · simp [Extent.octetStrings]
    · have listed : Takes Dimension.add (textFields 2 [name]) := takes.1
      simpa [Extent.octetStrings] using listed.texts (.text fun _ _ => rfl)
  · exact List.forall_mem_singleton.mpr (takes.2.string (.text fun _ _ => rfl))

theorem shape_needs (shape : List Dimension) :
    Needs shape? shapeFields shapeDepth (List.flatMap Dimension.octetStrings) shape := by
  intro depth room found fits small run
  have takes := takes_of_read rfl (by simp [shapeFields]) fits small run
  rcases needs_of_nested (fun dimension _ => dimension.needs)
    (takes.messages fun _ _ => rfl) with ⟨below, short⟩
  exact ⟨levels_le_iff.mpr (List.forall_mem_map.mpr below), List.forall_mem_flatMap.mpr short⟩

theorem TensorType.needs (type : TensorType) :
    Needs tensorType? TensorType.fields TensorType.depth TensorType.octetStrings type := by
  intro depth room found fits small run
  have takes := takes_of_read rfl (by simp [TensorType.fields]) fits small run
  rw [TensorType.fields, Takes.append_iff] at takes
  rcases needs_of_nested (fun shape _ => shape_needs shape)
    (takes.2.optional fun _ _ => rfl) with ⟨below, short⟩
  refine ⟨levels_le_iff.mpr (List.forall_mem_map.mpr below), ?_⟩
  obtain ⟨_, _ | shape⟩ := type
  · simp [TensorType.octetStrings]
  · exact short shape List.mem_cons_self

theorem ValueType.needs (type : ValueType) :
    Needs valueType? ValueType.fields ValueType.depth ValueType.octetStrings type := by
  intro depth room found fits small run
  have takes := takes_of_read rfl (by simp [ValueType.fields]) fits small run
  rw [ValueType.fields, Takes.append_iff] at takes
  rcases needs_of_nested (fun tensor _ => tensor.needs)
    (takes.1.optional fun _ _ => rfl) with ⟨below, short⟩
  refine ⟨levels_le_iff.mpr (List.forall_mem_map.mpr below), ?_⟩
  exact List.forall_mem_append.mpr ⟨List.forall_mem_flatMap.mpr short,
    List.forall_mem_singleton.mpr (takes.2.string (.text fun _ _ => rfl))⟩

theorem ValueInfo.needs (info : ValueInfo) :
    Needs valueInfo? ValueInfo.fields ValueInfo.depth ValueInfo.octetStrings info := by
  intro depth room found fits small run
  have takes := takes_of_read rfl (by simp [ValueInfo.fields]) fits small run
  simp only [ValueInfo.fields, Takes.append_iff] at takes
  obtain ⟨⟨name, type⟩, docString⟩ := takes
  rcases needs_of_nested (fun type _ => type.needs)
    (type.optional fun _ _ => rfl) with ⟨below, short⟩
  refine ⟨levels_le_iff.mpr (List.forall_mem_map.mpr below), ?_⟩
  simp only [ValueInfo.octetStrings, List.forall_mem_append, List.forall_mem_cons]
  exact ⟨List.forall_mem_flatMap.mpr short, name.string (.text fun _ _ => rfl),
    docString.string (.text fun _ _ => rfl), by simp⟩

theorem OperatorSet.needs (opset : OperatorSet) :
    Needs operatorSet? OperatorSet.fields (fun _ => 0)
      (fun opset => [Text.Utf8.encode opset.domain]) opset := by
  intro depth room found fits small run
  have takes := takes_of_read rfl (by simp [OperatorSet.fields]) fits small run
  rw [OperatorSet.fields, Takes.append_iff] at takes
  exact ⟨Nat.zero_le _, List.forall_mem_singleton.mpr (takes.1.string (.text fun _ _ => rfl))⟩

/-! ## Attributes, nodes and graphs -/

abbrev Attribute.Needs : Attribute → Prop :=
  Message.Needs attribute? Attribute.fields Attribute.depth Attribute.octetStrings

abbrev Node.Needs : Node → Prop :=
  Message.Needs node? Node.fields Node.depth Node.octetStrings

abbrev Graph.Needs : Graph → Prop :=
  Message.Needs graph? Graph.fields Graph.depth Graph.octetStrings

theorem Attribute.needs_of_graphs {attr : Attribute}
    (graphs : ∀ graph ∈ attr.graph.toList ++ attr.graphs, graph.Needs) :
    attr.Needs := by
  intro depth room found fits small run
  have takes := takes_of_read (attribute?_eq depth) attr.written fits small run
  simp only [Attribute.fields_eq, Takes.append_iff] at takes
  obtain ⟨⟨⟨⟨⟨⟨⟨⟨⟨⟨⟨⟨⟨name, refAttrName⟩, docString⟩, _⟩, _⟩, _⟩, string⟩, tensor⟩, graph⟩, _⟩,
    _⟩, strings⟩, tensors⟩, graphsTaken⟩ := takes
  rcases needs_of_nested (fun tensor _ => Tensor.needs tensor)
    (List.forall_mem_append.mpr
      ⟨tensor.optional fun _ _ => rfl, tensors.messages fun _ _ => rfl⟩)
    with ⟨tensorsBelow, tensorsShort⟩
  rcases needs_of_nested graphs
    (List.forall_mem_append.mpr
      ⟨graph.optional fun _ _ => rfl, graphsTaken.messages fun _ _ => rfl⟩)
    with ⟨graphsBelow, graphsShort⟩
  constructor
  · rw [Attribute.depth_eq, levels_le_iff]
    exact List.forall_mem_append.mpr
      ⟨List.forall_mem_map.mpr tensorsBelow, List.forall_mem_map.mpr graphsBelow⟩
  · simp only [Attribute.octetStrings_eq, List.forall_mem_append, List.forall_mem_cons]
    exact ⟨⟨⟨⟨name.string (.text fun _ _ => rfl), refAttrName.string (.text fun _ _ => rfl),
      docString.string (.text fun _ _ => rfl), string.string (.bytes fun _ _ => rfl), by simp⟩,
      strings.strings (.bytes fun _ _ => rfl)⟩, List.forall_mem_flatMap.mpr tensorsShort⟩,
      List.forall_mem_flatMap.mpr graphsShort⟩

theorem Node.needs_of_attributes {node : Node}
    (attributes : ∀ attr ∈ node.attributes, attr.Needs) :
    node.Needs := by
  intro depth room found fits small run
  have takes := takes_of_read (node?_eq depth) node.written fits small run
  simp only [Node.fields_eq, Takes.append_iff] at takes
  obtain ⟨⟨⟨⟨⟨⟨inputs, outputs⟩, name⟩, opType⟩, domain⟩, taken⟩, docString⟩ := takes
  rcases needs_of_nested attributes (taken.messages fun _ _ => rfl) with ⟨below, short⟩
  constructor
  · rw [Node.depth_eq, levels_le_iff]
    exact List.forall_mem_map.mpr below
  · simp only [Node.octetStrings_eq, List.forall_mem_append, List.forall_mem_map,
      List.forall_mem_cons]
    exact ⟨⟨⟨inputs.texts (.text fun _ _ => rfl), outputs.texts (.text fun _ _ => rfl)⟩,
      name.string (.text fun _ _ => rfl), opType.string (.text fun _ _ => rfl),
      domain.string (.text fun _ _ => rfl), docString.string (.text fun _ _ => rfl), by simp⟩,
      List.forall_mem_flatMap.mpr short⟩

theorem Graph.needs_of_nodes {graph : Graph} (nodes : ∀ node ∈ graph.nodes, node.Needs) :
    graph.Needs := by
  intro depth room found fits small run
  have takes := takes_of_read (graph?_eq depth) graph.written fits small run
  simp only [Graph.fields_eq, Takes.append_iff] at takes
  obtain ⟨⟨⟨⟨⟨⟨nodesTaken, name⟩, initializers⟩, docString⟩, inputs⟩, outputs⟩, infos⟩ := takes
  rcases needs_of_nested nodes (nodesTaken.messages fun _ _ => rfl) with ⟨nodesBelow, nodesShort⟩
  rcases needs_of_nested (fun tensor _ => Tensor.needs tensor)
    (initializers.messages fun _ _ => rfl) with ⟨tensorsBelow, tensorsShort⟩
  rcases needs_of_nested (fun info _ => ValueInfo.needs info)
    (List.forall_mem_append.mpr ⟨List.forall_mem_append.mpr
      ⟨inputs.messages fun _ _ => rfl, outputs.messages fun _ _ => rfl⟩,
      infos.messages fun _ _ => rfl⟩) with ⟨infosBelow, infosShort⟩
  constructor
  · rw [Graph.depth_eq, levels_le_iff]
    exact List.forall_mem_append.mpr ⟨List.forall_mem_append.mpr
      ⟨List.forall_mem_map.mpr nodesBelow, List.forall_mem_map.mpr tensorsBelow⟩,
      List.forall_mem_map.mpr infosBelow⟩
  · simp only [Graph.octetStrings_eq, List.forall_mem_append, List.forall_mem_cons]
    exact ⟨⟨⟨⟨name.string (.text fun _ _ => rfl), docString.string (.text fun _ _ => rfl),
      by simp⟩, List.forall_mem_flatMap.mpr tensorsShort⟩, by
        simpa only [List.forall_mem_append, List.forall_mem_flatMap] using infosShort⟩,
      List.forall_mem_flatMap.mpr nodesShort⟩

/-- A graph is read back only where it has the levels that it needs and its strings are
short. -/
theorem Graph.needs (graph : Graph) : graph.Needs :=
  (nested_induction
    (fun _ present listed => Attribute.needs_of_graphs
      (List.forall_mem_append.mpr ⟨by simpa using present, listed⟩))
    (fun _ => Node.needs_of_attributes) (fun _ => Graph.needs_of_nodes)).2.2 graph

/-! ## Models -/

/-- The file of a model is read exactly if its messages are nested no deeper than readers go
and no string in it is too long for them. -/
theorem Model.decode_encode_iff {model : Model} (bounded : model.encode.length < UInt64.size) :
    (∃ found, Model.decode model.encode = some found) ↔
      model.depth ≤ nestingLimit ∧ ∀ octets ∈ model.octetStrings, Short octets := by
  constructor
  · rintro ⟨found, run⟩
    have takes := takes_of_read rfl model.written (Nat.le_pred_of_lt bounded) (by decide) run
    simp only [Model.fields, Takes.append_iff] at takes
    obtain ⟨⟨⟨⟨⟨⟨⟨_, imports⟩, producer⟩, version⟩, domain⟩, _⟩, docString⟩, graph⟩ := takes
    rcases needs_of_nested (fun opset _ => OperatorSet.needs opset)
      (imports.messages fun _ _ => rfl) with ⟨importsBelow, importsShort⟩
    rcases needs_of_nested (fun graph _ => Graph.needs graph)
      (graph.optional fun _ _ => rfl) with ⟨graphBelow, graphShort⟩
    constructor
    · exact levels_le_iff.mpr (List.forall_mem_append.mpr
        ⟨List.forall_mem_map.mpr graphBelow, List.forall_mem_map.mpr importsBelow⟩)
    · simp only [Model.octetStrings, List.forall_mem_append, List.forall_mem_map,
        List.forall_mem_cons]
      exact ⟨⟨⟨producer.string (.text fun _ _ => rfl), version.string (.text fun _ _ => rfl),
        domain.string (.text fun _ _ => rfl), docString.string (.text fun _ _ => rfl), by simp⟩,
        fun opset member => importsShort opset member _ List.mem_cons_self⟩,
        List.forall_mem_flatMap.mpr graphShort⟩
  · rintro ⟨shallow, short⟩
    exact ⟨_, Model.decode_encode shallow short bounded⟩

end OnnxForge.Message
