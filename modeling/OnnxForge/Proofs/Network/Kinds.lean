import Mathlib.Data.List.Infix
import OnnxForge.Proofs.Network.Ranks

/-!
# Kinds of indices

What slices are selected at, taken at or looked up by has to be a tensor of integers. Generated
code makes integers of an index that is known to hold floating point numbers. The kind that an
index has is settled elsewhere: by the signature, by the constants, and by the operations in
between. There a value without an element type counts as floating point numbers, so an index
of which nothing is known is one of them and stays one.
-/

namespace OnnxForge.Network

/-! ## Kinds of expressions -/

/-- What is selected or taken at, or looked up by, in an expression. -/
def Expression.indices : Expression → List Expression
  | .var _ _ | .constant _ => []
  | .toInt operand | .max operand | .sum operand => operand.indices
  | .sumAlong operand _ | .squeeze operand _ _ => operand.indices
  | .select operand _ index | .take operand _ _ _ index =>
    operand.indices ++ index :: index.indices
  | .embed _ index => index :: index.indices

/-- The kinds of the values that an expression may read. -/
structure Kinding where
  localKind? : String → Option TensorKind
  constantKind? : String → Option TensorKind

namespace Kinding

/-- The kind of a value. Operations keep the kind of their operand, unless they make integers
of it, or look up rows. -/
def kind? (kinding : Kinding) : Expression → Option TensorKind
  | .var name _ => kinding.localKind? name
  | .constant field => kinding.constantKind? field
  | .toInt _ => some .int
  | .max operand | .sum operand => kinding.kind? operand
  | .sumAlong operand _ | .squeeze operand _ _ => kinding.kind? operand
  | .select operand _ _ | .take operand _ _ _ _ => kinding.kind? operand
  | .embed _ _ => some .float

/-- The kinds once a variable is bound. -/
def bind (kinding : Kinding) (assignment : Assignment) : Kinding :=
  { kinding with
    localKind? := fun name =>
      if name = assignment.name then kinding.kind? assignment.value else kinding.localKind? name }

/-- All indices of a value are integers. -/
def Indexes (kinding : Kinding) (value : Expression) : Prop :=
  ∀ index ∈ value.indices, kinding.kind? index = some .int

instance (kinding : Kinding) (value : Expression) : Decidable (kinding.Indexes value) :=
  inferInstanceAs (Decidable (∀ index ∈ value.indices, kinding.kind? index = some .int))

/-- All indices of assignments, one after the other, and of the values returned after them are
integers. -/
def IndexesAll (kinding : Kinding) (returned : List Expression) : List Assignment → Prop
  | [] => ∀ value ∈ returned, kinding.Indexes value
  | assignment :: rest =>
    kinding.Indexes assignment.value ∧ (kinding.bind assignment).IndexesAll returned rest

instance decidableIndexesAll (kinding : Kinding) (returned : List Expression) :
    (assignments : List Assignment) → Decidable (kinding.IndexesAll returned assignments)
  | [] => inferInstanceAs (Decidable (∀ value ∈ returned, kinding.Indexes value))
  | assignment :: rest =>
    have := decidableIndexesAll (kinding.bind assignment) returned rest
    inferInstanceAs (Decidable (_ ∧ _))

end Kinding

/-- The kinds when the function of a network begins: those of its parameters and constants. -/
def kinding (network : Network) : Kinding where
  localKind? name := (network.inputs.find? (·.name == name)).map (·.type.kind)
  constantKind? field := (network.constants.find? (·.name == field)).map (·.kind)

/-- Whether all indices of the function are integers. -/
def IndexedByIntegers (network : Network) : Prop :=
  network.kinding.IndexesAll network.returned network.assignments

instance (network : Network) : Decidable network.IndexedByIntegers :=
  inferInstanceAs (Decidable (network.kinding.IndexesAll _ _))

variable {setting : Setting} {generators : Generators} {naming : Naming} {node : Node}
  {inferred : Table Inferred} {kinding : Kinding}

/-! ## Expressions over names -/

namespace Expression

theorem indices_uncloned (value : Expression) :
    value.uncloned.indices = value.indices.map uncloned := by
  induction value with
  | select operand axis index ihOperand ihIndex =>
      simp only [uncloned, indices, ihOperand, ihIndex, List.map_append, List.map_cons]
  | take operand indexRank rank axis index ihOperand ihIndex =>
      simp only [uncloned, indices, ihOperand, ihIndex, List.map_append, List.map_cons]
  | embed layer index ih => simp only [uncloned, indices, ih, List.map_cons]
  | var | constant => rfl
  | toInt _ ih | max _ ih | sum _ ih | sumAlong _ _ ih | squeeze _ _ _ ih => exact ih

theorem indices_named (identifier : String → String) (template : Expression) :
    (setting.named identifier template).indices =
      template.indices.map (setting.named identifier) := by
  induction template with
  | var name cloned =>
      rw [Setting.named]
      split <;> rfl
  | select operand axis index ihOperand ihIndex =>
      simp only [Setting.named, indices, ihOperand, ihIndex, List.map_append, List.map_cons]
  | take operand indexRank rank axis index ihOperand ihIndex =>
      simp only [Setting.named, indices, ihOperand, ihIndex, List.map_append, List.map_cons]
  | embed layer index ih => simp only [Setting.named, indices, ih, List.map_cons]
  | constant => rfl
  | toInt _ ih | max _ ih | sum _ ih | sumAlong _ _ ih | squeeze _ _ _ ih => exact ih

/-- The index of slices is their own; they may be slices of slices, at an index of slices. -/
theorem indices_gather (operand index : Expression) (dataRank indexRank axis : Nat) :
    (Gather.expression operand index dataRank indexRank axis).indices =
      operand.indices ++ index :: index.indices := by
  simp only [Gather.expression]
  split
  · rfl
  · split <;> rfl

theorem indices_sumsAlong (axes : List Nat) (operand : Expression) :
    (ReduceSum.Reduction.sumsAlong axes operand).indices = operand.indices := by
  induction axes generalizing operand with
  | nil => rfl
  | cons axis rest ih => exact ih (operand.sumAlong axis)

theorem indices_reduction (reduction : ReduceSum.Reduction) (operand : Expression) :
    (reduction.expression operand).indices = operand.indices := by
  cases reduction with
  | identity | total => rfl
  | kept axes | dropped axes rank => exact indices_sumsAlong axes operand

theorem indices_indexOf (inferred : Table Inferred) (indices : String) :
    (Gather.indexOf setting inferred indices).indices = [] := by
  rw [Gather.indexOf]
  split <;> rfl

end Expression

namespace Kinding

/-- Clones have no say in kinds. -/
@[simp]
theorem kind?_uncloned (kinding : Kinding) (value : Expression) :
    kinding.kind? value.uncloned = kinding.kind? value := by
  induction value with
  | var | constant | toInt | embed => rfl
  | max _ ih | sum _ ih | sumAlong _ _ ih | squeeze _ _ _ ih => exact ih
  | select _ _ _ ih _ | take _ _ _ _ _ ih _ => exact ih

theorem indexes_uncloned {value : Expression} :
    kinding.Indexes value.uncloned ↔ kinding.Indexes value := by
  rw [Indexes, Indexes, Expression.indices_uncloned, List.forall_mem_map]
  simp only [kind?_uncloned]

/-- The kinds of names: those of the values that take their places. -/
def behind (kinding : Kinding) (setting : Setting) (identifier : String → String) : Kinding :=
  { kinding with
    localKind? := fun name => kinding.kind? (setting.named identifier (.var name false)) }

/-- An expression over names has the kind that it has once values take their places. -/
theorem kind?_named (identifier : String → String) (template : Expression) :
    kinding.kind? (setting.named identifier template) =
      (kinding.behind setting identifier).kind? template := by
  induction template with
  | var | constant | toInt | embed => rfl
  | max _ ih | sum _ ih | sumAlong _ _ ih | squeeze _ _ _ ih => exact ih
  | select _ _ _ ih _ | take _ _ _ _ _ ih _ => exact ih

/-- A constant takes the place of the name of an initializer. -/
theorem kind?_initializer {identifier : String → String} {name : String} {tensor : Tensor}
    (initial : setting.initializer? name = some tensor) :
    kinding.kind? (setting.named identifier (.var name false)) =
      kinding.constantKind? (identifier name) := by
  rw [Setting.named, if_pos (Setting.isInitializer_eq_true initial)]
  rfl

/-- A variable takes the place of any other name. -/
theorem kind?_computed {identifier : String → String} {name : String}
    (computed : setting.initializer? name = none) :
    kinding.kind? (setting.named identifier (.var name false)) =
      kinding.localKind? (identifier name) := by
  rw [Setting.named, if_neg (by simp [Setting.isInitializer, computed])]
  rfl

theorem kind?_gather (operand index : Expression) (dataRank indexRank axis : Nat) :
    kinding.kind? (Gather.expression operand index dataRank indexRank axis) =
      kinding.kind? operand := by
  simp only [Gather.expression]
  split
  · rfl
  · split <;> rfl

theorem kind?_reduction (reduction : ReduceSum.Reduction) (operand : Expression) :
    kinding.kind? (reduction.expression operand) = kinding.kind? operand := by
  have summed : ∀ (axes : List Nat) (operand : Expression),
      kinding.kind? (ReduceSum.Reduction.sumsAlong axes operand) = kinding.kind? operand := by
    intro axes
    induction axes with
    | nil => exact fun _ => rfl
    | cons axis rest ih => exact fun operand => ih (operand.sumAlong axis)
  cases reduction with
  | identity | total => rfl
  | kept axes | dropped axes rank => exact summed axes operand

/-- An index over a name is integers if its name is, or if integers are made of it. -/
theorem kind?_indexOf (indices : String) :
    kinding.kind? (Gather.indexOf setting inferred indices) = some .int ↔
      kinding.localKind? indices = some .int ∨
        (setting.elementTypeOf? inferred indices).any ElementType.isFloat = true := by
  rw [Gather.indexOf]
  split
  next isFloat => exact iff_of_true rfl (.inr isFloat)
  next other => exact (or_iff_left other).symm

end Kinding

/-! ## What a graph tells of its values -/

namespace Generator

/-- The input that the value of a node is made of. -/
def data? (node : Node) : Generator → Option String
  | gather | reduceSum => node.input? 0
  | max => (node.inputs.filter (· != "")).head?

/-- The data of a node is one of its inputs. -/
theorem mem_of_data? {generator : Generator} {data : String}
    (hasData : generator.data? node = some data) : data ∈ node.inputs ∧ data ≠ "" := by
  cases generator with
  | gather | reduceSum => exact Node.mem_of_input? hasData
  | max => simpa using List.mem_filter.mp (List.mem_of_mem_head? hasData)

/-- Whether a node looks rows up in a table of its own. -/
def looksUp (setting : Setting) (node : Node) : Generator → Bool
  | gather => (setting.embeddings.get? node.name).isSome
  | max | reduceSum => false

end Generator

/-- Something that is told of the values of a graph: of some whatever nodes compute, of others
before the first node, and of the rest what is told of the data that they are made of. -/
structure Trait (α : Type) where
  settled : String → Option α
  initial : String → Option α
  /-- What is told of rows that are looked up. -/
  rows : α

namespace Trait

variable {α : Type} (trait : Trait α) (setting : Setting) (generators : Generators)

/-- What is told of a value, where this much was recorded. -/
def told (recorded : String → Option α) (name : String) : Option α :=
  trait.settled name <|> recorded name

/-- What a node passes on to its output. -/
def passedOn (recorded : String → Option α) (node : Node) (generator : Generator) : Option α :=
  if generator.looksUp setting node then some trait.rows
  else (generator.data? node).bind (trait.told recorded)

/-- What is recorded once a node is computed. -/
def record (recorded : String → Option α) (node : Node) : String → Option α :=
  match generators.get? node.opType, node.output? 0 with
  | some generator, some output => fun name =>
    if name = output then trait.passedOn setting recorded node generator else recorded name
  | _, _ => recorded

/-- What is recorded after some nodes. -/
def recordedAfter (done : List Node) : String → Option α :=
  done.foldl (trait.record setting generators) trait.initial

/-- What is told of a value after some nodes. -/
def after (done : List Node) : String → Option α :=
  trait.told (trait.recordedAfter setting generators done)

variable {trait setting generators} {done : List Node} {generator : Generator}
  {name output : String}

theorem recordedAfter_append (found : generators.get? node.opType = some generator)
    (output? : node.output? 0 = some output) :
    trait.recordedAfter setting generators (done ++ [node]) name =
      if name = output then
        trait.passedOn setting (trait.recordedAfter setting generators done) node generator
      else trait.recordedAfter setting generators done name := by
  rw [recordedAfter, List.foldl_append, List.foldl_cons, List.foldl_nil, record, found, output?]
  rfl

/-- What is settled of a value stays. -/
theorem after_of_settled {value : α} (settled : trait.settled name = some value) :
    trait.after setting generators done name = some value := by
  rw [after, told, settled]
  rfl

theorem after_append_of_ne (found : generators.get? node.opType = some generator)
    (output? : node.output? 0 = some output) (different : name ≠ output) :
    trait.after setting generators (done ++ [node]) name =
      trait.after setting generators done name := by
  rw [after, after, told, told, recordedAfter_append found output?, if_neg different]

/-- Of an output of which nothing is settled, what its node passes on is told. -/
theorem after_append_output (found : generators.get? node.opType = some generator)
    (output? : node.output? 0 = some output) :
    trait.after setting generators (done ++ [node]) output =
      (trait.settled output <|>
        if generator.looksUp setting node then some trait.rows
        else (generator.data? node).bind (trait.after setting generators done)) := by
  rw [after, told, recordedAfter_append found output?, if_pos rfl]
  rfl

end Trait

namespace Setting

variable (setting : Setting) (generators : Generators)

/-- Element types: declared ones count before those of initializers, and both before those of
data. -/
def types : Trait ElementType where
  settled name :=
    (setting.graph.valueInfos.get? name).bind ValueInfo.elementType <|>
      (setting.initializer? name).map Tensor.elementType
  initial _ := none
  rows := .float32

/-- Kinds: initializers are constants, and inputs have the kinds of the signature, in which
floating point numbers stand in for an unknown element type. -/
def kinds : Trait TensorKind where
  settled name := (setting.initializer? name).map fun tensor => .ofElementType tensor.elementType
  initial name := (setting.graph.inputs.find? (·.name == name)).map fun info =>
    (setting.elementTypeOf? .empty info.name).elim .float .ofElementType
  rows := .float

/-- The element type that is known of a value after some nodes. -/
def typeAfter? : List Node → String → Option ElementType :=
  setting.types.after setting generators

/-- The kind that a value has after some nodes. -/
def kindAfter? : List Node → String → Option TensorKind :=
  setting.kinds.after setting generators

variable {setting generators} {done : List Node} {generator : Generator} {name output : String}

theorem elementTypeOf?_eq (inferred : Table Inferred) (name : String) :
    setting.elementTypeOf? inferred name =
      setting.types.told (fun name => (inferred.get? name).bind Inferred.elementType) name := by
  simp only [elementTypeOf?, Trait.told, types]
  cases (setting.graph.valueInfos.get? name).bind ValueInfo.elementType <;> rfl

theorem typeAfter?_nil :
    setting.typeAfter? generators [] name = setting.elementTypeOf? .empty name :=
  (elementTypeOf?_eq .empty name).symm

/-- Only the kinds of initializers are settled. -/
theorem kinds_settled_eq_none (initial : setting.initializer? name = none) :
    setting.kinds.settled name = none :=
  congrArg (Option.map _) initial

theorem kindAfter?_initializer {tensor : Tensor}
    (initial : setting.initializer? name = some tensor) :
    setting.kindAfter? generators done name = some (.ofElementType tensor.elementType) :=
  Trait.after_of_settled (congrArg (Option.map _) initial)

/-- An output has the kind of its data, or that of rows. -/
theorem kindAfter?_append (found : generators.get? node.opType = some generator)
    (output? : node.output? 0 = some output) (computed : setting.initializer? output = none) :
    setting.kindAfter? generators (done ++ [node]) output =
      if generator.looksUp setting node then some .float
      else (generator.data? node).bind (setting.kindAfter? generators done) := by
  rw [kindAfter?, Trait.after_append_output found output?, kinds_settled_eq_none computed]
  rfl

/-- An output has the element type that is declared of it, or else that of its data or rows. -/
theorem typeAfter?_append (found : generators.get? node.opType = some generator)
    (output? : node.output? 0 = some output) (computed : setting.initializer? output = none) :
    setting.typeAfter? generators (done ++ [node]) output =
      ((setting.graph.valueInfos.get? output).bind ValueInfo.elementType <|>
        if generator.looksUp setting node then some .float32
        else (generator.data? node).bind (setting.typeAfter? generators done)) := by
  rw [typeAfter?, Trait.after_append_output found output?]
  simp only [types, computed]
  cases (setting.graph.valueInfos.get? output).bind ValueInfo.elementType <;> rfl

end Setting

/-! ## Kinds of plans -/

namespace Plan

/-- What is selected or taken at, or looked up by, in a plan. -/
def indices : Plan → List Expression
  | plain value _ => value.indices
  | embedding _ index => index :: index.indices

/-- The kind of the value that is planned. -/
def kind? (kinding : Kinding) : Plan → Option TensorKind
  | plain value _ => kinding.kind? value
  | embedding _ _ => some .float

end Plan

namespace Planned

variable {generator : Generator} {plan : Plan}

/-- A node has the kind of its data, or that of rows. -/
theorem kind?_eq (planned : Planned setting inferred node generator plan) (kinding : Kinding) :
    plan.kind? kinding =
      if generator.looksUp setting node then some .float
      else (generator.data? node).bind kinding.localKind? := by
  cases planned with
  | slices hasData _ general _ _ _ =>
      simp only [Generator.looksUp, Generator.data?, general, hasData]
      exact Kinding.kind?_gather _ _ _ _ _
  | lookUp _ _ configured _ _ =>
      simp only [Generator.looksUp, configured]
      rfl
  | largest single =>
      simp only [Generator.looksUp, Generator.data?, single]
      rfl
  | sums hasData _ _ =>
      simp only [Generator.looksUp, Generator.data?, hasData]
      exact Kinding.kind?_reduction _ _

/-- A node is known to have the element type of its data, or that of rows. -/
theorem elementType_eq (planned : Planned setting inferred node generator plan) :
    plan.known.elementType =
      if generator.looksUp setting node then some .float32
      else (generator.data? node).bind (setting.elementTypeOf? inferred) := by
  cases planned with
  | slices hasData _ general _ _ _ =>
      simp only [Generator.looksUp, Generator.data?, general, hasData]
      rfl
  | lookUp _ _ configured _ _ =>
      simp only [Generator.looksUp, configured]
      rfl
  | largest single =>
      simp only [Generator.looksUp, Generator.data?, single]
      rfl
  | sums hasData _ _ =>
      simp only [Generator.looksUp, Generator.data?, hasData]
      rfl

/-- Unless rows are looked up there is data, which is read. -/
theorem exists_data (planned : Planned setting inferred node generator plan)
    (general : generator.looksUp setting node = false) :
    ∃ data ∈ plan.names, generator.data? node = some data := by
  rw [planned.names_eq]
  cases planned with
  | slices hasData _ none _ _ _ => exact ⟨_, by simp [Generator.reads, none, hasData], hasData⟩
  | lookUp _ _ configured _ _ => simp [Generator.looksUp, configured] at general
  | largest single =>
      exact ⟨_, by simp [Generator.reads, single], congrArg List.head? single⟩
  | sums hasData _ _ => exact ⟨_, by simp [Generator.reads, hasData], hasData⟩

/-- Indices are read. -/
theorem indices_mem (planned : Planned setting inferred node .gather plan) {indices : String}
    (hasIndices : node.input? 1 = some indices) : indices ∈ plan.names := by
  rw [planned.names_eq, Generator.reads]
  split <;> simp [hasIndices]

/-- The only index is that of a node that gathers. -/
theorem forall_indices_iff (planned : Planned setting inferred node generator plan)
    {holds : Expression → Prop} :
    (∀ index ∈ plan.indices, holds index) ↔
      (generator = .gather → ∀ indices ∈ node.input? 1,
        holds (Gather.indexOf setting inferred indices)) := by
  cases planned with
  | slices _ hasIndices _ _ _ _ =>
      simp [Plan.indices, Expression.indices_gather, Expression.indices_indexOf,
        Expression.indices, hasIndices]
  | lookUp _ hasIndices _ _ _ =>
      simp [Plan.indices, Expression.indices_indexOf, hasIndices]
  | largest _ => simp [Plan.indices, Expression.indices]
  | sums _ _ _ =>
      simp [Plan.indices, Expression.indices_reduction, Expression.indices]

end Planned

namespace Plan.Yields

variable {plan : Plan} {output : String} {code : NodeCode}

/-- The code of a plan is an expression over names, with the values that the names stand for. -/
theorem exists_template (yields : plan.Yields setting naming output code) :
    ∃ template : Expression,
      code.assignment.value.uncloned = setting.named naming.identifier template ∧
        template.indices = plan.indices ∧
        ∀ kinding : Kinding, kinding.kind? template = plan.kind? kinding := by
  cases yields with
  | @plain template _ _ same => exact ⟨template, same, rfl, fun _ => rfl⟩
  | @embedding _ template _ _ layer _ same =>
      exact ⟨.embed layer template, congrArg (Expression.embed layer) same, rfl, fun _ => rfl⟩

theorem kind?_eq (yields : plan.Yields setting naming output code) (kinding : Kinding) :
    kinding.kind? code.assignment.value =
      plan.kind? (kinding.behind setting naming.identifier) := by
  rcases yields.exists_template with ⟨template, same, _, kinds⟩
  rw [← Kinding.kind?_uncloned, same, Kinding.kind?_named, kinds]

theorem indexes_iff (yields : plan.Yields setting naming output code) (kinding : Kinding) :
    kinding.Indexes code.assignment.value ↔
      ∀ index ∈ plan.indices,
        (kinding.behind setting naming.identifier).kind? index = some .int := by
  rcases yields.exists_template with ⟨template, same, indices, _⟩
  rw [← Kinding.indexes_uncloned, same, Kinding.Indexes, Expression.indices_named,
    List.forall_mem_map, indices]
  simp only [Kinding.kind?_named]

end Plan.Yields

/-! ## Kinds along a function -/

/-- Whether what a generation knows of values, and their kinds, are what the graph tells of them
after some nodes. -/
structure Agrees (setting : Setting) (generators : Generators) (naming : Naming)
    (done : List Node) (inferred : Table Inferred) (kinding : Kinding) : Prop where
  types : ∀ name, setting.elementTypeOf? inferred name = setting.typeAfter? generators done name
  kinds : ∀ name, naming.Knows name → Readable setting generators name →
    kinding.kind? (setting.named naming.identifier (.var name false)) =
      setting.kindAfter? generators done name

/-- Whether slices can be taken at a name after some nodes: it has integers, or it is known to
have floating point numbers, of which integers are made. -/
def Setting.GivesIntegers (setting : Setting) (generators : Generators) (done : List Node)
    (name : String) : Prop :=
  setting.kindAfter? generators done name = some .int ∨
    (setting.typeAfter? generators done name).any ElementType.isFloat = true

/-- Whether something holds of the index of every node that gathers, once the nodes before it
are done. -/
def Generators.IndicesAfter (generators : Generators) (holds : List Node → String → Prop)
    (done : List Node) : List Node → Prop
  | [] => True
  | node :: rest =>
    (generators.get? node.opType = some .gather →
      ∀ indices ∈ node.input? 1, holds done indices) ∧
      generators.IndicesAfter holds (done ++ [node]) rest

instance decidableIndicesAfter (generators : Generators) (holds : List Node → String → Prop)
    [∀ done name, Decidable (holds done name)] (done : List Node) :
    (nodes : List Node) → Decidable (generators.IndicesAfter holds done nodes)
  | [] => isTrue trivial
  | node :: rest =>
    have := decidableIndicesAfter generators holds (done ++ [node]) rest
    inferInstanceAs (Decidable (_ ∧ _))

namespace Agrees

variable {done : List Node} {generator : Generator} {plan : Plan} {name output : String}
  {code : NodeCode}

/-- The element types that are known go on to be those that the graph tells. -/
theorem elementTypeOf?_append (agrees : Agrees setting generators naming done inferred kinding)
    (found : generators.get? node.opType = some generator)
    (planned : Planned setting inferred node generator plan)
    (output? : node.output? 0 = some output) (name : String) :
    setting.elementTypeOf? (inferred.insert output plan.known) name =
      setting.typeAfter? generators (done ++ [node]) name := by
  by_cases same : name = output
  · rw [same, Setting.typeAfter?, Trait.after_append_output found output?,
      Setting.elementTypeOf?_eq, Trait.told, Table.get?_insert, if_pos rfl, Option.bind_some,
      planned.elementType_eq, funext agrees.types]
    rfl
  · rw [Setting.elementTypeOf?_insert same, agrees.types, Setting.typeAfter?,
      Trait.after_append_of_ne found output? same]

/-- The kinds of values go on to be those that the graph tells. -/
theorem kind?_append (agrees : Agrees setting generators naming done inferred kinding)
    (distinct : naming.Distinct) (found : generators.get? node.opType = some generator)
    (planned : Planned setting inferred node generator plan)
    (output? : node.output? 0 = some output)
    (knownNames : ∀ name ∈ plan.names, naming.Knows name)
    (readable : ∀ name ∈ plan.names, Readable setting generators name)
    (knownOutput : naming.Knows output) (yields : plan.Yields setting naming output code)
    (knows : naming.Knows name) (readableName : Readable setting generators name) :
    (kinding.bind code.assignment).kind? (setting.named naming.identifier (.var name false)) =
      setting.kindAfter? generators (done ++ [node]) name := by
  have now := agrees.kinds name knows readableName
  cases initial : setting.initializer? name with
  | some tensor =>
      rw [Setting.kindAfter?_initializer initial, Kinding.kind?_initializer initial] at now ⊢
      exact now
  | none =>
      rw [Kinding.kind?_computed initial] at now ⊢
      by_cases same : name = output
      · subst same
        have bound : (kinding.bind code.assignment).localKind? (naming.identifier name) =
            kinding.kind? code.assignment.value := if_pos yields.name.symm
        rw [bound, yields.kind?_eq, planned.kind?_eq,
          Setting.kindAfter?_append found output? initial]
        cases general : generator.looksUp setting node with
        | true => rfl
        | false =>
            rcases planned.exists_data general with ⟨data, isRead, hasData⟩
            rw [hasData]
            exact agrees.kinds data (knownNames data isRead) (readable data isRead)
      · have apart : naming.identifier name ≠ code.assignment.name := fun one =>
          same (distinct.identifier_inj knows knownOutput (one.trans yields.name))
        rw [Setting.kindAfter?, Trait.after_append_of_ne found output? same]
        exact (if_neg apart).trans now

/-- An index is integers when the graph tells it. -/
theorem kind?_indexOf (agrees : Agrees setting generators naming done inferred kinding)
    {indices : String} (knows : naming.Knows indices)
    (readable : Readable setting generators indices) :
    (kinding.behind setting naming.identifier).kind? (Gather.indexOf setting inferred indices) =
        some .int ↔
      setting.GivesIntegers generators done indices := by
  rw [Kinding.kind?_indexOf, agrees.types, Setting.GivesIntegers,
    ← agrees.kinds indices knows readable]
  rfl

end Agrees

namespace Generates

variable {position : Nat} {nodes done : List Node} {before after : Progress}
  {codes : List NodeCode} {returned : List Expression}

/-- The indices of a function are integers when the graph tells that of the index of every node
that gathers. -/
theorem indexesAll_iff
    (generates : Generates setting generators naming position nodes before codes after)
    (distinct : naming.Distinct) (within : ∀ node ∈ nodes, node ∈ setting.graph.nodes)
    (agrees : Agrees setting generators naming done before.inferred kinding)
    (plain : ∀ value ∈ returned, value.indices = []) :
    kinding.IndexesAll returned (codes.map (·.assignment)) ↔
      generators.IndicesAfter (setting.GivesIntegers generators) done nodes := by
  induction generates generalizing done kinding with
  | done =>
      refine iff_of_true (fun value member => ?_) trivial
      rw [Kinding.Indexes, plain value member]
      exact List.forall_mem_nil _
  | @node position node rest generator plan output before between after code codes found planned
      output? step _ ih =>
      have ⟨isNode, withinRest⟩ := List.forall_mem_cons.mp within
      have registered := Generators.find_eq_ok.mp found
      have readable : ∀ name ∈ plan.names, Readable setting generators name :=
        fun _ => planned.readable found isNode
      have next : Agrees setting generators naming (done ++ [node]) between.inferred
          (kinding.bind code.assignment) := {
        types := fun name => by
          rw [step.inferred]
          exact agrees.elementTypeOf?_append registered planned output? name
        kinds := fun _ => agrees.kind?_append distinct registered planned output?
          step.knownNames readable step.knownOutput step.yields }
      refine and_congr ?_ (ih withinRest next)
      rw [step.yields.indexes_iff, planned.forall_indices_iff, registered, Option.some.injEq]
      refine forall_congr' fun gathers => ?_
      subst gathers
      refine forall₂_congr fun indices hasIndices => ?_
      have isRead := planned.indices_mem hasIndices
      exact agrees.kind?_indexOf (step.knownNames indices isRead) (readable indices isRead)

end Generates

namespace Compilation

variable {network : Network} {name : String}

/-- A parameter has the kind that the graph tells of its input. -/
theorem localKind?_eq (compilation : Compilation setting generators network)
    (knows : compilation.naming.Knows name) :
    network.kinding.localKind? (compilation.naming.identifier name) =
      setting.kinds.initial name := by
  have related := compilation.find?_inputs knows
  dsimp only [kinding, Setting.kinds]
  generalize setting.graph.inputs.find? _ = info?, network.inputs.find? _ = input?
    at related ⊢
  cases related with
  | none => rfl
  | some declares =>
      rcases declares.type with ⟨_, _, type⟩
      rw [Option.map_some, Option.map_some, type]

/-- The kinds of parameters and constants are what the graph tells before its first node. -/
theorem agrees (compilation : Compilation setting generators network) :
    Agrees setting generators compilation.naming [] compilation.ready.inferred
      network.kinding where
  types name := by
    rw [compilation.readyInferred, Setting.typeAfter?_nil]
  kinds name knows readable := by
    cases initial : setting.initializer? name with
    | some tensor =>
        rw [Setting.kindAfter?_initializer initial, Kinding.kind?_initializer initial]
        have isRead := readable (Setting.isInitializer_eq_true initial)
        exact congrArg (Option.map Constant.kind) (compilation.find?_constants isRead initial)
    | none =>
        rw [Kinding.kind?_computed initial, Setting.kindAfter?, Trait.after, Trait.told,
          Setting.kinds_settled_eq_none initial]
        exact compilation.localKind?_eq knows

/-- Values that are returned select nothing. -/
theorem indices_returned (compilation : Compilation setting generators network)
    {value : Expression} (member : value ∈ network.returned) : value.indices = [] := by
  have named := List.mem_map_of_mem (f := Expression.uncloned) member
  rw [compilation.returned] at named
  rcases List.mem_map.mp named with ⟨output, _, same⟩
  have none := Expression.indices_uncloned value
  rw [← same, Expression.indices_named] at none
  exact List.map_eq_nil_iff.mp none.symm

/-- All indices of a function are integers when the graph tells that of them. -/
theorem indexedByIntegers_iff (compilation : Compilation setting generators network) :
    network.IndexedByIntegers ↔
      generators.IndicesAfter (setting.GivesIntegers generators) [] setting.graph.nodes := by
  rw [IndexedByIntegers, compilation.assignments]
  exact compilation.generates.indexesAll_iff compilation.distinct (fun _ => id)
    compilation.agrees fun _ => compilation.indices_returned

end Compilation

/-! ## Indices of known element types -/

namespace Setting

variable (setting : Setting) (generators : Generators)

/-- Whether the element types that are declared of values are those of their kinds. -/
def DeclaresKinds : Prop :=
  ∀ entry ∈ setting.graph.valueInfos.entries, ∀ elementType ∈ entry.2.elementType,
    ∀ done ∈ setting.graph.nodes.inits,
      ∀ kind ∈ setting.kindAfter? generators done entry.1, kind = .ofElementType elementType

/-- Whether the values after some nodes have the kinds of their element types, where an unknown
one counts as floating point numbers. -/
def KindsFollow (done : List Node) : Prop :=
  ∀ name, setting.graph.Provides done name →
    setting.kindAfter? generators done name =
      some ((setting.typeAfter? generators done name).elim .float .ofElementType)

/-- Whether a value is known to have numbers, after some nodes. -/
def KnowsNumbers (done : List Node) (name : String) : Prop :=
  ∃ elementType ∈ setting.typeAfter? generators done name,
    elementType.isInt = true ∨ elementType.isFloat = true

instance : Decidable (setting.DeclaresKinds generators) :=
  inferInstanceAs (Decidable (∀ entry ∈ setting.graph.valueInfos.entries,
    ∀ elementType ∈ entry.2.elementType, ∀ done ∈ setting.graph.nodes.inits,
      ∀ kind ∈ setting.kindAfter? generators done entry.1, kind = .ofElementType elementType))

instance (done : List Node) (name : String) :
    Decidable (setting.KnowsNumbers generators done name) :=
  inferInstanceAs (Decidable (∃ elementType ∈ setting.typeAfter? generators done name,
    elementType.isInt = true ∨ elementType.isFloat = true))

variable {setting generators} {done : List Node} {name : String}

/-- Integers are given at a name of which numbers are known, and only there. -/
theorem KindsFollow.givesIntegers_iff (follow : setting.KindsFollow generators done)
    (provided : setting.graph.Provides done name) :
    setting.GivesIntegers generators done name ↔ setting.KnowsNumbers generators done name := by
  rw [GivesIntegers, KnowsNumbers, follow name provided]
  cases setting.typeAfter? generators done name with
  | none => simp
  | some elementType => cases elementType <;> decide

/-- The kind of a value follows from its element type, if it does so from the one that is known
besides what is declared. -/
theorem DeclaresKinds.kindAfter?_eq (declares : setting.DeclaresKinds generators)
    (within : done <+: setting.graph.nodes) (known : Option ElementType)
    (kind : setting.kindAfter? generators done name = some (known.elim .float .ofElementType))
    (type : setting.typeAfter? generators done name =
      ((setting.graph.valueInfos.get? name).bind ValueInfo.elementType <|> known)) :
    setting.kindAfter? generators done name =
      some ((setting.typeAfter? generators done name).elim .float .ofElementType) := by
  cases declared : (setting.graph.valueInfos.get? name).bind ValueInfo.elementType with
  | none =>
      rw [type, declared]
      exact kind
  | some elementType =>
      rcases Option.bind_eq_some_iff.mp declared with ⟨info, found, isType⟩
      have same := declares (name, info) (Table.mem_entries_of_get? found) elementType isType
        done ((List.mem_inits _ _).mpr within) _ kind
      rw [kind, same, type, declared]
      rfl

theorem DeclaresKinds.kindAfter?_initializer (declares : setting.DeclaresKinds generators)
    (within : done <+: setting.graph.nodes) {tensor : Tensor}
    (initial : setting.initializer? name = some tensor) :
    setting.kindAfter? generators done name =
      some ((setting.typeAfter? generators done name).elim .float .ofElementType) := by
  apply declares.kindAfter?_eq within (some tensor.elementType)
    (Setting.kindAfter?_initializer initial)
  rw [typeAfter?, Trait.after, Trait.told]
  simp only [types, initial]
  cases (setting.graph.valueInfos.get? name).bind ValueInfo.elementType <;> rfl

/-- Inputs have the kinds of the signature. -/
theorem DeclaresKinds.kindsFollow_nil (declares : setting.DeclaresKinds generators) :
    setting.KindsFollow generators [] := by
  intro name provided
  cases initial : setting.initializer? name with
  | some tensor => exact declares.kindAfter?_initializer List.nil_prefix initial
  | none =>
      rcases provided with isInput | isInitial | ⟨_, absurdity, _⟩
      · rcases exists_find?_eq isInput with ⟨info, _, found, rfl⟩
        rw [kindAfter?, Trait.after, Trait.told, kinds_settled_eq_none initial, typeAfter?_nil]
        exact congrArg (Option.map _) found
      · have computed : ¬ setting.isInitializer name = true := by simp [isInitializer, initial]
        exact (computed isInitial).elim
      · cases absurdity

/-- A node that is generated passes its kind on as it does its element type. -/
theorem KindsFollow.append {inferred : Table Inferred} {generator : Generator} {plan : Plan}
    {output : String} (follow : setting.KindsFollow generators done)
    (declares : setting.DeclaresKinds generators)
    (within : done ++ [node] <+: setting.graph.nodes)
    (provides : ∀ input ∈ node.inputs, input ≠ "" → setting.graph.Provides done input)
    (outputs : node.outputs = [output])
    (found : generators.get? node.opType = some generator)
    (planned : Planned setting inferred node generator plan) :
    setting.KindsFollow generators (done ++ [node]) := by
  intro name provided
  have output? : node.output? 0 = some output := by
    rw [Node.output?, outputs]
    rfl
  cases initial : setting.initializer? name with
  | some tensor => exact declares.kindAfter?_initializer within initial
  | none =>
      by_cases same : name = output
      · subst same
        have passed : ∃ known : Option ElementType,
            setting.kindAfter? generators (done ++ [node]) name =
                some (known.elim .float .ofElementType) ∧
              (if generator.looksUp setting node then some .float32
                else (generator.data? node).bind (setting.typeAfter? generators done)) =
                known := by
          rw [kindAfter?_append found output? initial]
          cases general : generator.looksUp setting node with
          | true => exact ⟨some .float32, rfl, rfl⟩
          | false =>
              rcases planned.exists_data general with ⟨data, _, hasData⟩
              rcases Generator.mem_of_data? hasData with ⟨isInput, present⟩
              rw [hasData]
              exact ⟨_, follow data (provides data isInput present), rfl⟩
        rcases passed with ⟨known, kind, type⟩
        apply declares.kindAfter?_eq within known kind
        rw [typeAfter?_append found output? initial, type]
      · have earlier := follow name (provided.of_append outputs same)
        rwa [kindAfter?, typeAfter?, Trait.after_append_of_ne found output? same,
          Trait.after_append_of_ne found output? same]

end Setting

/-- Of the index of every node that gathers, integers are given exactly where numbers are
known. -/
theorem Generates.indicesAfter_iff {position : Nat} {nodes done : List Node}
    {before after : Progress} {codes : List NodeCode}
    (generates : Generates setting generators naming position nodes before codes after)
    (executable : setting.graph.Executable) (declares : setting.DeclaresKinds generators)
    (split : done ++ nodes = setting.graph.nodes)
    (inOrder : setting.graph.InOrderAfter done nodes)
    (follow : setting.KindsFollow generators done) :
    generators.IndicesAfter (setting.GivesIntegers generators) done nodes ↔
      generators.IndicesAfter (setting.KnowsNumbers generators) done nodes := by
  induction generates generalizing done with
  | done => exact Iff.rfl
  | @node position node rest generator plan output before between after code codes found planned
      output? step _ ih =>
      have splitNext : (done ++ [node]) ++ rest = setting.graph.nodes := by
        rwa [List.append_assoc, List.singleton_append]
      have isNode : node ∈ setting.graph.nodes := by simp [← split]
      have outputs := Node.outputs_eq (executable.single node isNode) output?
      have followNext := follow.append declares ⟨rest, splitNext⟩ inOrder.1 outputs
        (Generators.find_eq_ok.mp found) planned
      refine and_congr ?_ (ih splitNext inOrder.2 followNext)
      refine forall_congr' fun _ => forall₂_congr fun indices hasIndices => ?_
      have ⟨isInput, present⟩ := Node.mem_of_input? hasIndices
      exact follow.givesIntegers_iff (inOrder.1 indices isInput present)

/-- The indices of the function of a graph that can be executed are integers where the graph
tells that they are, or that they are floating point numbers. Where the element types that are
declared are those of the kinds, this is whenever their element types are known to be numbers.
The code tells the kinds and the indices. -/
theorem network_indexed {network : Network} (executable : setting.graph.Executable)
    (compiled : ofGraph setting generators = .ok network) :
    (network.IndexedByIntegers ↔
        generators.IndicesAfter (setting.GivesIntegers generators) [] setting.graph.nodes) ∧
      (setting.DeclaresKinds generators →
        (network.IndexedByIntegers ↔
          generators.IndicesAfter (setting.KnowsNumbers generators) [] setting.graph.nodes)) ∧
      ∀ layout, Source.module? (network.code layout) = some network.listing := by
  obtain ⟨compilation⟩ := Compilation.of_ofGraph compiled
  refine ⟨compilation.indexedByIntegers_iff, fun declares => ?_, module?_of_ofGraph compiled⟩
  rw [compilation.indexedByIntegers_iff]
  exact compilation.generates.indicesAfter_iff executable declares rfl executable.inOrder
    declares.kindsFollow_nil

/-- A graph with slices at the largest of some integers and at floating point numbers, and with
rows that are looked up for slices. -/
def choosing : Setting where
  graph := {
    name := "choosing"
    nodes := [
      ⟨"max", "Max", "", ["places"], ["last"], .empty⟩,
      ⟨"pick", "Gather", "", ["table", "last"], ["picked"], .empty⟩,
      ⟨"mark", "Gather", "", ["ids", "marks"], ["marked"], .empty⟩,
      ⟨"embed", "Gather", "", ["rows", "marked"], ["found"], .empty⟩]
    inputs := [
      ⟨"places", some .int64, some [.size 4]⟩, ⟨"marks", some .float32, some [.size 2]⟩,
      ⟨"ids", some .int32, some [.size 5, .size 3]⟩,
      ⟨"table", none, some [.size 6, .size 2]⟩]
    outputs := [⟨"picked", none, none⟩, ⟨"found", none, none⟩]
    valueInfos := .ofList [
      ("places", ⟨"places", some .int64, some [.size 4]⟩),
      ("marks", ⟨"marks", some .float32, some [.size 2]⟩),
      ("ids", ⟨"ids", some .int32, some [.size 5, .size 3]⟩),
      ("table", ⟨"table", none, some [.size 6, .size 2]⟩)]
    initializers := .ofList [("rows", ⟨.float32, [3, 2], .float32 [0, 1, 2, 3, 4, 5]⟩)]
    opsetVersion := none }
  embeddings := .ofList [("embed", ⟨3, 2⟩)]

theorem choosing_indexed :
    choosing.graph.Executable ∧ choosing.DeclaresKinds .standard ∧
      ∃ network, ofGraph choosing .standard = .ok network ∧
        network.assignments = [
          ⟨"last", .max (.var "places" false)⟩,
          ⟨"picked", .select (.var "table" false) 0 (.var "last" false)⟩,
          ⟨"marked", .select (.var "ids" false) 0 (.toInt (.var "marks" false))⟩,
          ⟨"found", .embed "embed" (.var "marked" false)⟩] ∧
        network.IndexedByIntegers := by
  let network : Network := {
    inputs := [
      ⟨"places", ⟨1, .int⟩⟩, ⟨"marks", ⟨1, .float⟩⟩, ⟨"ids", ⟨2, .int⟩⟩,
      ⟨"table", ⟨2, .float⟩⟩]
    results := [⟨2, .float⟩, ⟨3, .float⟩]
    layers := [⟨"embed", .given ⟨.float32, [3, 2], .float32 [0, 1, 2, 3, 4, 5]⟩⟩]
    constants := []
    assignments := [
      ⟨"last", .max (.var "places" false)⟩,
      ⟨"picked", .select (.var "table" false) 0 (.var "last" false)⟩,
      ⟨"marked", .select (.var "ids" false) 0 (.toInt (.var "marks" false))⟩,
      ⟨"found", .embed "embed" (.var "marked" false)⟩]
    returned := [.var "picked" false, .var "found" false] }
  have executable : choosing.graph.Executable := ⟨by decide, by decide, by decide, by decide⟩
  have declares : choosing.DeclaresKinds .standard := by decide +kernel
  have compiled : ofGraph choosing .standard = .ok network := by decide +kernel
  have indexed := (network_indexed executable compiled).2.1 declares
  exact ⟨executable, declares, network, compiled, rfl, indexed.mpr (by decide +kernel)⟩

/-- A graph with slices at an index of which no element type is known. -/
def untyped : Setting where
  graph := {
    name := "untyped"
    nodes := [⟨"pick", "Gather", "", ["table", "ids"], ["picked"], .empty⟩]
    inputs := [
      ⟨"table", some .float32, some [.size 4, .size 2]⟩, ⟨"ids", none, some [.size 3]⟩]
    outputs := [⟨"picked", none, none⟩]
    valueInfos := .ofList [
      ("table", ⟨"table", some .float32, some [.size 4, .size 2]⟩),
      ("ids", ⟨"ids", none, some [.size 3]⟩)]
    initializers := .empty
    opsetVersion := none }
  embeddings := .empty

/-- The index is a parameter with floating point numbers, and no integers are made of it. -/
theorem untyped_floating :
    untyped.graph.Executable ∧ untyped.DeclaresKinds .standard ∧
      (untyped.graph.valueInfos.get? "ids").bind ValueInfo.elementType = none ∧
      ∃ network, ofGraph untyped .standard = .ok network ∧
        network.inputs = [⟨"table", ⟨2, .float⟩⟩, ⟨"ids", ⟨1, .float⟩⟩] ∧
        network.assignments =
          [⟨"picked", .select (.var "table" false) 0 (.var "ids" false)⟩] ∧
        ¬ network.IndexedByIntegers := by
  let network : Network := {
    inputs := [⟨"table", ⟨2, .float⟩⟩, ⟨"ids", ⟨1, .float⟩⟩]
    results := [⟨2, .float⟩]
    layers := []
    constants := []
    assignments := [⟨"picked", .select (.var "table" false) 0 (.var "ids" false)⟩]
    returned := [.var "picked" false] }
  have executable : untyped.graph.Executable := ⟨by decide, by decide, by decide, by decide⟩
  have compiled : ofGraph untyped .standard = .ok network := by decide +kernel
  exact ⟨executable, by decide +kernel, by decide, network, compiled, rfl, rfl, by decide⟩

end OnnxForge.Network
