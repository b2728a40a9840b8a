import OnnxForge.Catalogue.Conformance
import OnnxForge.Proofs.Graph.RoundTrip

/-!
# What keeps to a schema

An operation without missing inputs keeps to a schema of its operator by three things: how
many inputs and outputs it has, and its attributes. The first of these that fails is the
fault that is told, attributes being taken in the order of their names and mandatory ones in
the order of their declarations.
-/

namespace OnnxForge

/-- A table has a value for the names of its entries. -/
theorem Table.contains_eq_any {α : Type} (table : Table α) (name : String) :
    table.contains name = table.entries.any fun entry => entry.1 == name := by
  rw [← contains_ofList, ofList_entries]

namespace Schema

variable (schema : Schema)

/-- Whether an attribute is declared, and has the type of its first declaration. -/
def Declares (name : String) (value : AttributeValue) : Prop :=
  ∃ spec, schema.attribute? name = some spec ∧ spec.type = value.type

/-- Whether nodes may have so many inputs. -/
def AllowsInputs (count : Nat) : Prop :=
  schema.minInput ≤ count ∧ count ≤ schema.maxInput

/-- Whether nodes may have so many outputs. -/
def AllowsOutputs (count : Nat) : Prop :=
  schema.minOutput ≤ count ∧ count ≤ schema.maxOutput

/-- Whether an attribute that is declared may stay away, or is given. -/
def Satisfied (attributes : Attributes) (spec : AttributeSpec) : Prop :=
  spec.required = true → attributes.contains spec.name = true

/-- So many inputs and outputs and these attributes keep to the schema. -/
structure Admits (inputs outputs : Nat) (attributes : Attributes) : Prop where
  inputs : schema.AllowsInputs inputs
  outputs : schema.AllowsOutputs outputs
  declared : ∀ entry ∈ attributes.entries, schema.Declares entry.1 entry.2
  given : ∀ spec ∈ schema.attributes, Satisfied attributes spec

/-- The first thing by which a node with so many inputs and outputs and these attributes does
not keep to the schema. -/
inductive Refuses (node : String) (inputs outputs : Nat) (attributes : Attributes) :
    ConformanceFault → Prop
  | inputs (refused : ¬ schema.AllowsInputs inputs) :
      Refuses node inputs outputs attributes
        (.inputCount node inputs schema.minInput schema.maxInput)
  | outputs (reached : schema.AllowsInputs inputs) (refused : ¬ schema.AllowsOutputs outputs) :
      Refuses node inputs outputs attributes
        (.outputCount node outputs schema.minOutput schema.maxOutput)
  | undeclared (reached : schema.AllowsInputs inputs ∧ schema.AllowsOutputs outputs)
      {earlier later : List (String × AttributeValue)} {name : String} {value : AttributeValue}
      (split : attributes.entries = earlier ++ (name, value) :: later)
      (declared : ∀ entry ∈ earlier, schema.Declares entry.1 entry.2)
      (missing : schema.attribute? name = none) :
      Refuses node inputs outputs attributes (.undeclaredAttribute name schema.name)
  | otherType (reached : schema.AllowsInputs inputs ∧ schema.AllowsOutputs outputs)
      {earlier later : List (String × AttributeValue)} {name : String} {value : AttributeValue}
      {spec : AttributeSpec}
      (split : attributes.entries = earlier ++ (name, value) :: later)
      (declared : ∀ entry ∈ earlier, schema.Declares entry.1 entry.2)
      (found : schema.attribute? name = some spec) (other : spec.type ≠ value.type) :
      Refuses node inputs outputs attributes (.attributeType node name)
  | notGiven (reached : schema.AllowsInputs inputs ∧ schema.AllowsOutputs outputs)
      (declared : ∀ entry ∈ attributes.entries, schema.Declares entry.1 entry.2)
      {earlier later : List AttributeSpec} {spec : AttributeSpec}
      (split : schema.attributes = earlier ++ spec :: later)
      (given : ∀ other ∈ earlier, Satisfied attributes other)
      (missing : ¬ Satisfied attributes spec) :
      Refuses node inputs outputs attributes (.missingAttribute spec.name node)

variable {schema} {node : Node} {fault : ConformanceFault}

/-! ## Counts -/

theorem not_allowsInputs_iff {count : Nat} :
    ¬ schema.AllowsInputs count ↔ count < schema.minInput ∨ schema.maxInput < count := by
  rw [AllowsInputs, not_and_or, Nat.not_le, Nat.not_le]

theorem not_allowsOutputs_iff {count : Nat} :
    ¬ schema.AllowsOutputs count ↔ count < schema.minOutput ∨ schema.maxOutput < count := by
  rw [AllowsOutputs, not_and_or, Nat.not_le, Nat.not_le]

theorem countFault?_of_inputs {message : Message.Node}
    (refused : ¬ schema.AllowsInputs message.inputs.length) :
    schema.countFault? message = some (.inputCount message.name message.inputs.length
      schema.minInput schema.maxInput) := by
  rw [countFault?, if_pos (not_allowsInputs_iff.mp refused)]

theorem countFault?_of_outputs {message : Message.Node}
    (reached : schema.AllowsInputs message.inputs.length)
    (refused : ¬ schema.AllowsOutputs message.outputs.length) :
    schema.countFault? message = some (.outputCount message.name message.outputs.length
      schema.minOutput schema.maxOutput) := by
  rw [countFault?, if_neg (not_allowsInputs_iff.not.mp (not_not.mpr reached)),
    if_pos (not_allowsOutputs_iff.mp refused)]

theorem countFault?_of_reached {message : Message.Node}
    (reached : schema.AllowsInputs message.inputs.length ∧
      schema.AllowsOutputs message.outputs.length) :
    schema.countFault? message = none := by
  rw [countFault?, if_neg (not_allowsInputs_iff.not.mp (not_not.mpr reached.1)),
    if_neg (not_allowsOutputs_iff.not.mp (not_not.mpr reached.2))]

/-! ## Attributes -/

theorem attributeFault?_eq_none_iff {label name : String} {value : AttributeValue} :
    schema.attributeFault? label (value.toMessage name) = none ↔ schema.Declares name value := by
  rw [attributeFault?, AttributeValue.toMessage_name, AttributeValue.ofCode?_toMessage, Declares]
  cases schema.attribute? name with
  | none => simp
  | some spec => simp [eq_comm]

theorem attributeFault?_eq_some_iff {label name : String} {value : AttributeValue} :
    schema.attributeFault? label (value.toMessage name) = some fault ↔
      (schema.attribute? name = none ∧ fault = .undeclaredAttribute name schema.name) ∨
      ∃ spec, schema.attribute? name = some spec ∧ spec.type ≠ value.type ∧
        fault = .attributeType label name := by
  rw [attributeFault?, AttributeValue.toMessage_name, AttributeValue.ofCode?_toMessage]
  cases schema.attribute? name with
  | none => simp [eq_comm]
  | some spec => by_cases same : value.type = spec.type <;> simp [same, eq_comm]

/-- The first fault of an attribute of a node. -/
def attributesFault? (schema : Schema) (node : Node) : Option ConformanceFault :=
  node.attributes.entries.findSome? fun entry =>
    schema.attributeFault? node.name (entry.2.toMessage entry.1)

theorem attributesFault?_eq_none_iff :
    schema.attributesFault? node = none ↔
      ∀ entry ∈ node.attributes.entries, schema.Declares entry.1 entry.2 := by
  rw [attributesFault?, List.findSome?_eq_none_iff]
  simp only [attributeFault?_eq_none_iff]

/-- Whether a node lacks an attribute. -/
theorem lacks_iff {spec : AttributeSpec} :
    (spec.required && !node.toMessage.attributes.any fun attr => attr.name == spec.name) = true ↔
      ¬ Satisfied node.attributes spec := by
  have named : (node.toMessage.attributes.any fun attr => attr.name == spec.name) =
      node.attributes.contains spec.name := by
    rw [Table.contains_eq_any, Node.toMessage, List.any_map]
    simp only [Function.comp_def, AttributeValue.toMessage_name]
  rw [named, Satisfied, Bool.and_eq_true, Bool.not_eq_true', Classical.not_imp,
    Bool.not_eq_true]

theorem missingFault?_eq_none_iff :
    schema.missingFault? node.toMessage = none ↔
      ∀ spec ∈ schema.attributes, Satisfied node.attributes spec := by
  rw [missingFault?, Option.map_eq_none_iff, List.find?_eq_none]
  simp only [lacks_iff, not_not]

theorem missingFault?_eq_some_iff :
    schema.missingFault? node.toMessage = some fault ↔
      ∃ earlier spec later, schema.attributes = earlier ++ spec :: later ∧
        (∀ other ∈ earlier, Satisfied node.attributes other) ∧
        ¬ Satisfied node.attributes spec ∧ fault = .missingAttribute spec.name node.name := by
  have satisfied : ∀ spec : AttributeSpec,
      (!(spec.required && !node.toMessage.attributes.any fun attr => attr.name == spec.name)) =
        true ↔ Satisfied node.attributes spec := fun spec => by
    rw [Bool.not_eq_true', Bool.eq_false_iff, Ne, lacks_iff, not_not]
  rw [missingFault?, Option.map_eq_some_iff]
  simp only [List.find?_eq_some_iff_append, lacks_iff, satisfied]
  constructor
  · rintro ⟨spec, ⟨missing, earlier, later, split, given⟩, rfl⟩
    exact ⟨earlier, spec, later, split, given, missing, rfl⟩
  · rintro ⟨earlier, spec, later, split, given, missing, rfl⟩
    exact ⟨spec, ⟨missing, earlier, later, split, given⟩, rfl⟩

/-! ## Nodes -/

/-- An input that is not missing is allowed. -/
theorem inputFault?_of_present {message : Message.Node} (present : "" ∉ message.inputs) :
    schema.inputFault? message = none := by
  rw [inputFault?, Option.map_eq_none_iff, List.find?_eq_none]
  intro input member
  have named : input.1 ≠ "" := fun missing =>
    present (missing ▸ List.fst_mem_of_mem_zipIdx member)
  simp [allowsInput, named]

/-- Of a node of the operator, with all its inputs, the counts come first, then the attributes
it has, and then those it lacks. -/
theorem fault?_toMessage (isOf : schema.isOf node.opType node.domain = true)
    (present : "" ∉ node.inputs) :
    schema.fault? node.toMessage =
      (schema.countFault? node.toMessage).or
        ((schema.attributesFault? node).or (schema.missingFault? node.toMessage)) := by
  have operator : schema.operatorFault? node.toMessage = none := if_pos isOf
  have inputs : schema.inputFault? node.toMessage = none := inputFault?_of_present present
  have attributes : node.toMessage.attributes.findSome? (schema.attributeFault? node.name) =
      schema.attributesFault? node := List.findSome?_map
  rw [fault?, operator, inputs]
  change (schema.countFault? node.toMessage <|>
    node.toMessage.attributes.findSome? (schema.attributeFault? node.name) <|> _) = _
  rw [attributes]
  cases schema.countFault? node.toMessage <;> cases schema.attributesFault? node <;> rfl

theorem refuses_of_fault? (isOf : schema.isOf node.opType node.domain = true)
    (present : "" ∉ node.inputs) (told : schema.fault? node.toMessage = some fault) :
    schema.Refuses node.name node.inputs.length node.outputs.length node.attributes fault := by
  rw [fault?_toMessage isOf present] at told
  by_cases enough : schema.AllowsInputs node.inputs.length
  case neg =>
    have counts : schema.countFault? node.toMessage = _ := countFault?_of_inputs enough
    rw [counts] at told
    rcases Option.some.inj told with rfl
    exact .inputs enough
  by_cases fitting : schema.AllowsOutputs node.outputs.length
  case neg =>
    have counts : schema.countFault? node.toMessage = _ := countFault?_of_outputs enough fitting
    rw [counts] at told
    rcases Option.some.inj told with rfl
    exact .outputs enough fitting
  have counts : schema.countFault? node.toMessage = none :=
    countFault?_of_reached ⟨enough, fitting⟩
  rw [counts, Option.none_or] at told
  rcases Option.or_eq_some_iff.mp told with refused | ⟨allDeclared, lacking⟩
  · rcases List.findSome?_eq_some_iff.mp refused with
      ⟨earlier, ⟨name, value⟩, later, split, faulty, before⟩
    have declared : ∀ entry ∈ earlier, schema.Declares entry.1 entry.2 := fun entry member =>
      attributeFault?_eq_none_iff.mp (before entry member)
    rcases attributeFault?_eq_some_iff.mp faulty with ⟨missing, rfl⟩ | ⟨spec, found, other, rfl⟩
    · exact .undeclared ⟨enough, fitting⟩ split declared missing
    · exact .otherType ⟨enough, fitting⟩ split declared found other
  · rcases missingFault?_eq_some_iff.mp lacking with
      ⟨earlier, spec, later, split, given, missing, rfl⟩
    exact .notGiven ⟨enough, fitting⟩ (attributesFault?_eq_none_iff.mp allDeclared) split given
      missing

theorem Refuses.fault?_eq (isOf : schema.isOf node.opType node.domain = true)
    (present : "" ∉ node.inputs)
    (refuses : schema.Refuses node.name node.inputs.length node.outputs.length node.attributes
      fault) :
    schema.fault? node.toMessage = some fault := by
  rw [fault?_toMessage isOf present]
  have faulty : ∀ {earlier later entry}, node.attributes.entries = earlier ++ entry :: later →
      (∀ other ∈ earlier, schema.Declares other.1 other.2) →
      schema.attributeFault? node.name (entry.2.toMessage entry.1) = some fault →
        schema.attributesFault? node = some fault := fun split declared first =>
    List.findSome?_eq_some_iff.mpr ⟨_, _, _, split, first, fun other member =>
      attributeFault?_eq_none_iff.mpr (declared other member)⟩
  have counted : schema.AllowsInputs node.inputs.length ∧
      schema.AllowsOutputs node.outputs.length → schema.countFault? node.toMessage = none :=
    fun reached => countFault?_of_reached reached
  cases refuses with
  | inputs refused =>
      have counts : schema.countFault? node.toMessage = _ := countFault?_of_inputs refused
      rw [counts]
      rfl
  | outputs reached refused =>
      have counts : schema.countFault? node.toMessage = _ := countFault?_of_outputs reached refused
      rw [counts]
      rfl
  | undeclared reached split declared missing =>
      rw [counted reached, faulty split declared
        (attributeFault?_eq_some_iff.mpr (.inl ⟨missing, rfl⟩))]
      rfl
  | otherType reached split declared found other =>
      rw [counted reached, faulty split declared
        (attributeFault?_eq_some_iff.mpr (.inr ⟨_, found, other, rfl⟩))]
      rfl
  | notGiven reached declared split given missing =>
      rw [counted reached, attributesFault?_eq_none_iff.mpr declared]
      exact missingFault?_eq_some_iff.mpr ⟨_, _, _, split, given, missing, rfl⟩

/-- The fault that is told is the first thing by which the node does not keep to the schema. -/
theorem fault?_eq_some_iff (isOf : schema.isOf node.opType node.domain = true)
    (present : "" ∉ node.inputs) :
    schema.fault? node.toMessage = some fault ↔
      schema.Refuses node.name node.inputs.length node.outputs.length node.attributes fault :=
  ⟨refuses_of_fault? isOf present, fun refuses => refuses.fault?_eq isOf present⟩

/-- A node without fault is one that the schema admits. -/
theorem fault?_eq_none_iff (isOf : schema.isOf node.opType node.domain = true)
    (present : "" ∉ node.inputs) :
    schema.fault? node.toMessage = none ↔
      schema.Admits node.inputs.length node.outputs.length node.attributes := by
  rw [fault?_toMessage isOf present, Option.or_eq_none_iff, Option.or_eq_none_iff,
    attributesFault?_eq_none_iff, missingFault?_eq_none_iff]
  constructor
  · rintro ⟨uncounted, declared, given⟩
    by_cases enough : schema.AllowsInputs node.inputs.length
    · by_cases fitting : schema.AllowsOutputs node.outputs.length
      · exact ⟨enough, fitting, declared, given⟩
      · cases uncounted.symm.trans (countFault?_of_outputs enough fitting)
    · cases uncounted.symm.trans (countFault?_of_inputs enough)
  · intro admits
    exact ⟨countFault?_of_reached ⟨admits.inputs, admits.outputs⟩, admits.declared, admits.given⟩

end Schema

end OnnxForge
