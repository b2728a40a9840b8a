import Mathlib.Data.List.Dedup
import OnnxForge.Proofs.Network.Axes
import OnnxForge.Proofs.Network.Compilation
import OnnxForge.Proofs.Network.Execution

/-!
# Types of values

The rank and the element type that a value of a graph has, and what a generation knows of
them. That is declared, or recorded when the node of the value is generated. Both are the
same but for scalars, which are recorded as the vectors that carry them.
-/

namespace OnnxForge.Network

open Attempt

/-! ## Ranks that are recorded -/

/-- Whether a rank that is known can be that of a value. Scalars are carried as vectors. -/
def StandsFor (known rank : Nat) : Prop :=
  known = rank ∨ rank = 0 ∧ known = 1

/-- The ranks that stand for one are declared alike. -/
theorem StandsFor.max_eq {known rank : Nat} (stands : StandsFor known rank) :
    Nat.max known 1 = Nat.max rank 1 := by
  rcases stands with rfl | ⟨rfl, rfl⟩ <;> rfl

/-- The rank recorded of slices stands for their rank. -/
theorem Gather.resultRank_standsFor (dataRank indexRank : Nat) :
    StandsFor (resultRank dataRank indexRank) (dataRank - 1 + indexRank) := by
  rw [resultRank]
  rcases Nat.eq_zero_or_pos (dataRank - 1 + indexRank) with scalar | positive
  · rw [scalar]
    exact .inr ⟨rfl, rfl⟩
  · exact .inl (Nat.max_eq_left positive)

namespace ReduceSum

/-- Where an axis stands, counted from the end when it is negative. -/
def axisPlace (rank : Nat) (axis : Int64) : Int :=
  if axis.toInt < 0 then rank + axis.toInt else axis.toInt

/-- The rank of a sum. Every axis counts once, wherever it is counted from. -/
def sumRank (request : Request) (rank : Nat) : Nat :=
  if request.axes.isEmpty then
    if request.emptyMeansNone || request.keepsAxes then rank else 0
  else if request.keepsAxes then rank
  else rank - (request.axes.map (axisPlace rank)).dedup.length

variable {node : Node} {data : String} {rank known other : Nat} {request : Request}
  {reduction : Reduction}

/-- There are as many positions as different axes. -/
theorem length_positions {axes : List Int64} {places : List Nat}
    (found : positions node data (some rank) axes = .ok places) :
    places.length = (axes.map (axisPlace rank)).dedup.length := by
  have ⟨increasing, places_iff, located⟩ := positions_eq_ok found
  have distinct : (places.map Int.ofNat).Nodup :=
    List.pairwise_map.mpr (increasing.imp fun before same =>
      Nat.ne_of_lt before (Int.ofNat.inj same))
  have same : (places.map Int.ofNat).Perm (axes.map (axisPlace rank)).dedup := by
    rw [List.perm_ext_iff_of_nodup distinct (List.nodup_dedup _)]
    intro place
    rw [List.mem_dedup, List.mem_map, List.mem_map]
    constructor
    · rintro ⟨position, member, rfl⟩
      rcases (places_iff position).mp member with ⟨axis, isAxis, found⟩
      exact ⟨axis, isAxis, (axisPosition?_eq_some.mp found).2.symm⟩
    · rintro ⟨axis, isAxis, rfl⟩
      rcases located axis isAxis with ⟨position, found⟩
      have member := (places_iff position).mpr ⟨axis, isAxis, found⟩
      exact ⟨position, member, (axisPosition?_eq_some.mp found).2⟩
  rw [← same.length_eq, List.length_map]

/-- The rank recorded of a sum stands for its rank. -/
theorem resultRank_standsFor
    (found : ReduceSum.reduction node data (some rank) request = .ok reduction) :
    ∃ result, reduction.resultRank (some rank) = some result ∧
      StandsFor result (sumRank request rank) := by
  rw [ReduceSum.reduction] at found
  rw [sumRank]
  cases empty : request.axes.isEmpty with
  | false =>
      rw [empty] at found
      rcases outcome_bind_eq_ok.mp found with ⟨places, located, along⟩
      rw [reductionAlong] at along
      cases keeps : request.keepsAxes with
      | true =>
          rw [keeps] at along
          cases along
          exact ⟨rank, rfl, .inl rfl⟩
      | false =>
          rw [keeps] at along
          cases along
          rw [← length_positions located]
          split
          next whole => exact ⟨1, rfl, .inr ⟨by simp [whole], rfl⟩⟩
          next => exact ⟨_, rfl, .inl rfl⟩
  | true =>
      rw [empty] at found
      cases none : request.emptyMeansNone with
      | true =>
          rw [none] at found
          cases found
          exact ⟨rank, rfl, .inl rfl⟩
      | false =>
          rw [none] at found
          cases keeps : request.keepsAxes with
          | true =>
              rw [keeps] at found
              cases found
              exact ⟨rank, rfl, .inl rfl⟩
          | false =>
              rw [keeps] at found
              cases found
              exact ⟨1, rfl, .inr ⟨rfl, rfl⟩⟩

theorem sumRank_nil (whole : request.axes = []) :
    sumRank request rank =
      if request.emptyMeansNone || request.keepsAxes then rank else 0 := by
  rw [sumRank, whole]
  rfl

/-- The sum of a scalar is one, also where the scalar is known as a vector. -/
theorem standsFor_sumRank {result : Nat} (stands : StandsFor known rank)
    (whole : rank = 0 → request.axes = []) (ofKnown : StandsFor result (sumRank request known)) :
    StandsFor result (sumRank request rank) := by
  rcases stands with rfl | ⟨rfl, rfl⟩
  · exact ofKnown
  · rw [sumRank_nil (whole rfl)] at ofKnown ⊢
    split
    next stays =>
      rw [if_pos stays] at ofKnown
      rcases ofKnown with rfl | ⟨absurdity, _⟩
      · exact .inr ⟨rfl, rfl⟩
      · cases absurdity
    next total =>
      rwa [if_neg total] at ofKnown

/-- A reduction is found whichever rank stands for that of the data. -/
theorem exists_reduction (stands : StandsFor known rank) (others : StandsFor other rank)
    (whole : rank = 0 → request.axes = [])
    (found : ReduceSum.reduction node data (some known) request = .ok reduction) :
    ∃ reduction', ReduceSum.reduction node data (some other) request = .ok reduction' := by
  by_cases same : other = known
  · exact ⟨reduction, same ▸ found⟩
  · have scalar : rank = 0 := by
      rcases stands with rfl | ⟨scalar, _⟩
      · rcases others with rfl | ⟨scalar, _⟩
        · exact (same rfl).elim
        · exact scalar
      · exact scalar
    rw [ReduceSum.reduction, whole scalar]
    dsimp only [List.isEmpty_nil, Bool.not_true]
    split
    next absurdity => cases absurdity
    next =>
      split
      next => exact ⟨_, rfl⟩
      next => split <;> exact ⟨_, rfl⟩

end ReduceSum

/-! ## Types of values -/

/-- The rank and the element type of each value, where scalars have rank 0. The element type
is missing where it cannot be told. -/
structure Typing where
  rank : String → Nat
  elementType : String → Option ElementType

/-- The type that is declared of a value, where a scalar is a vector. Numbers stand in for an
element type that cannot be told. -/
def Typing.typeOf (typing : Typing) (name : String) : TensorType :=
  ⟨Nat.max (typing.rank name) 1, (typing.elementType name).elim .float .ofElementType⟩

variable {setting : Setting} {typing : Typing} {node : Node} {inferred : Table Inferred}
  {name output : String} {known : Inferred} {done : List Node}

namespace Typing

/-- Whether ranks and element types are those of the values of a graph. -/
structure Fits (typing : Typing) (setting : Setting) : Prop where
  declared : ∀ name info, setting.graph.valueInfos.get? name = some info →
    (∀ rank ∈ info.rank?, rank = typing.rank name) ∧
      ∀ elementType ∈ info.elementType, typing.elementType name = some elementType
  initial : ∀ name tensor, setting.initializer? name = some tensor →
    typing.rank name = tensor.rank ∧ typing.elementType name = some tensor.elementType
  inputs : ∀ input ∈ setting.graph.inputs,
    setting.elementTypeOf? .empty input.name = typing.elementType input.name
  /-- The rank of slices: the index stands in the place of the axis. -/
  gathers : ∀ node ∈ setting.graph.nodes, node.opType = "Gather" →
    ∀ data ∈ node.input? 0, ∀ indices ∈ node.input? 1, ∀ output ∈ node.output? 0,
      0 < typing.rank data ∧
        typing.rank output = typing.rank data - 1 + typing.rank indices ∧
        typing.elementType output = typing.elementType data
  /-- A scalar has no axis that a sum could go along. -/
  sums : ∀ node ∈ setting.graph.nodes, node.opType = "ReduceSum" →
    ∀ data ∈ node.input? 0, ∀ request ∈ (ReduceSum.request setting node).toOption,
      ∀ output ∈ node.output? 0,
        (typing.rank data = 0 → request.axes = []) ∧
          typing.rank output = ReduceSum.sumRank request (typing.rank data) ∧
          typing.elementType output = typing.elementType data

/-- Whether a name stands for a scalar that is computed. -/
def ComputesScalar (typing : Typing) (graph : Graph) (name : String) : Prop :=
  typing.rank name = 0 ∧ ∃ node ∈ graph.nodes, name ∈ node.outputs

instance {graph : Graph} : Decidable (typing.ComputesScalar graph name) :=
  inferInstanceAs (Decidable (_ ∧ _))

/-- Whether a node gathers slices, at no scalar that is computed, or sums. -/
structure SlicesOrSums (typing : Typing) (setting : Setting) (node : Node) : Prop where
  operator : node.opType = "Gather" ∨ node.opType = "ReduceSum"
  general : setting.embeddings.get? node.name = none
  vectors : node.opType = "Gather" →
    ∀ indices ∈ node.input? 1, ¬ typing.ComputesScalar setting.graph indices

instance : Decidable (typing.SlicesOrSums setting node) :=
  decidable_of_iff
    ((node.opType = "Gather" ∨ node.opType = "ReduceSum") ∧
      setting.embeddings.get? node.name = none ∧
      (node.opType = "Gather" →
        ∀ indices ∈ node.input? 1, ¬ typing.ComputesScalar setting.graph indices))
    ⟨fun ⟨operator, general, vectors⟩ => ⟨operator, general, vectors⟩,
      fun ⟨operator, general, vectors⟩ => ⟨operator, general, vectors⟩⟩

theorem SlicesOrSums.operator_ne (restricted : typing.SlicesOrSums setting node) :
    node.opType ≠ "Max" := by
  rcases restricted.operator with gathers | sums
  · rw [gathers]
    decide
  · rw [sums]
    decide

/-- Whether the value of a name is known. The rank of a computed scalar is 1 when it was
recorded. -/
structure Knows (typing : Typing) (setting : Setting) (inferred : Table Inferred)
    (name : String) : Prop where
  rank : ∃ rank, setting.rankOf? inferred name = some rank ∧
    (rank = typing.rank name ∨ typing.ComputesScalar setting.graph name ∧ rank = 1)
  elementType : setting.elementTypeOf? inferred name = typing.elementType name

/-- Whether what is recorded of a value is true. -/
structure Allows (typing : Typing) (known : Inferred) (output : String) : Prop where
  rank : ∃ rank, known.rank = some rank ∧ StandsFor rank (typing.rank output)
  elementType : known.elementType = typing.elementType output

namespace Knows

theorem standsFor (knows : typing.Knows setting inferred name) :
    ∃ rank, setting.rankOf? inferred name = some rank ∧ StandsFor rank (typing.rank name) :=
  knows.rank.imp fun _ => And.imp_right <| Or.imp_right <| And.imp_left And.left

/-- The ranks of all else are known as they are. -/
theorem rank_eq (knows : typing.Knows setting inferred name)
    (other : ¬ typing.ComputesScalar setting.graph name) :
    setting.rankOf? inferred name = some (typing.rank name) := by
  rcases knows.rank with ⟨rank, found, rfl | ⟨scalar, _⟩⟩
  · exact found
  · exact (other scalar).elim

/-- A value that is known is declared with its type. -/
theorem declare_run {before : Progress} (knows : typing.Knows setting before.inferred name) :
    declare setting name before =
      (.ok ⟨(before.naming.tensor name).1, typing.typeOf name⟩,
        { before with naming := (before.naming.tensor name).2 }) := by
  rcases knows.standsFor with ⟨rank, found, stands⟩
  rw [Network.declare_run, found, knows.elementType]
  dsimp only
  rw [stands.max_eq, typeOf]

/-- Values that are known are declared with their types. -/
theorem types_eq {before after : Progress} {values : List ValueInfo} {inputs : List Input}
    (run : (values.mapM fun value => declare setting value.name) before = (.ok inputs, after))
    (knows : ∀ value ∈ values, typing.Knows setting before.inferred value.name) :
    inputs.map (·.type) = values.map fun value => typing.typeOf value.name := by
  induction values generalizing before inputs with
  | nil =>
      cases run
      rfl
  | cons value rest ih =>
      have ⟨knowsHere, knowsRest⟩ := List.forall_mem_cons.mp knows
      rcases mapM_cons_eq_ok.mp run with ⟨input, others, between, declared, following, rfl⟩
      rw [knowsHere.declare_run] at declared
      cases declared
      rw [List.map_cons, List.map_cons, ih following knowsRest]

/-- What is known of a value stays while others are recorded. -/
theorem insert (knows : typing.Knows setting inferred name) (different : name ≠ output) :
    typing.Knows setting (inferred.insert output known) name where
  rank := by
    rw [Setting.rankOf?_insert different]
    exact knows.rank
  elementType := (Setting.elementTypeOf?_insert different).trans knows.elementType

end Knows

/-! ## What is known before the first node -/

namespace Fits

/-- What is known of a rank before the first node is true. -/
theorem rank_eq (fits : typing.Fits setting) {rank : Nat}
    (found : setting.rankOf? .empty name = some rank) :
    rank = typing.rank name := by
  rw [Setting.rankOf?] at found
  cases declared : (setting.graph.valueInfos.get? name).bind ValueInfo.rank? with
  | some own =>
      rcases Option.bind_eq_some_iff.mp declared with ⟨info, present, ranked⟩
      rw [declared] at found
      cases found
      exact (fits.declared name info present).1 rank ranked
  | none =>
      cases initial : setting.initializer? name with
      | some tensor =>
          rw [declared, initial] at found
          cases found
          exact (fits.initial name tensor initial).1.symm
      | none =>
          rw [declared, initial] at found
          cases found

theorem elementType_eq (fits : typing.Fits setting) {elementType : ElementType}
    (found : setting.elementTypeOf? .empty name = some elementType) :
    typing.elementType name = some elementType := by
  rw [Setting.elementTypeOf?] at found
  cases declared : (setting.graph.valueInfos.get? name).bind ValueInfo.elementType with
  | some own =>
      rcases Option.bind_eq_some_iff.mp declared with ⟨info, present, typed⟩
      rw [declared] at found
      cases found
      exact (fits.declared name info present).2 elementType typed
  | none =>
      cases initial : setting.initializer? name with
      | some tensor =>
          rw [declared, initial] at found
          cases found
          exact (fits.initial name tensor initial).2
      | none =>
          rw [declared, initial] at found
          cases found

/-- A value of which a rank is known before the first node is known. -/
theorem knows (fits : typing.Fits setting) {rank : Nat}
    (ranked : setting.rankOf? .empty name = some rank)
    (typed : setting.elementTypeOf? .empty name = typing.elementType name) :
    typing.Knows setting .empty name :=
  ⟨⟨rank, ranked, .inl (fits.rank_eq ranked)⟩, typed⟩

theorem knows_initializer (fits : typing.Fits setting) {tensor : Tensor}
    (initial : setting.initializer? name = some tensor) :
    typing.Knows setting .empty name := by
  obtain ⟨rank, ranked⟩ : ∃ rank, setting.rankOf? .empty name = some rank := by
    rw [Setting.rankOf?, initial]
    cases (setting.graph.valueInfos.get? name).bind ValueInfo.rank? with
    | none => exact ⟨tensor.rank, rfl⟩
    | some rank => exact ⟨rank, rfl⟩
  obtain ⟨elementType, typed⟩ : ∃ elementType,
      setting.elementTypeOf? .empty name = some elementType := by
    rw [Setting.elementTypeOf?, initial]
    cases (setting.graph.valueInfos.get? name).bind ValueInfo.elementType with
    | none => exact ⟨tensor.elementType, rfl⟩
    | some elementType => exact ⟨elementType, rfl⟩
  exact fits.knows ranked (typed.trans (fits.elementType_eq typed).symm)

end Fits

/-- Whether all values are known after some nodes. -/
def KnowsAfter (typing : Typing) (setting : Setting) (done : List Node)
    (inferred : Table Inferred) : Prop :=
  ∀ name, setting.graph.Provides done name → typing.Knows setting inferred name

theorem Fits.knowsAfter_nil (fits : typing.Fits setting)
    (ranked : ∀ input ∈ setting.graph.inputs,
      ∃ rank, setting.rankOf? .empty input.name = some rank) :
    typing.KnowsAfter setting [] .empty := by
  rintro name (isInput | initial | ⟨_, absurdity, _⟩)
  · rcases List.mem_map.mp isInput with ⟨input, member, rfl⟩
    rcases ranked input member with ⟨rank, found⟩
    exact fits.knows found (fits.inputs input member)
  · rcases Option.isSome_iff_exists.mp initial with ⟨tensor, found⟩
    exact fits.knows_initializer found
  · cases absurdity

/-! ## What nodes record -/

/-- A value is known once something true is recorded of it. -/
theorem Fits.knows_output (fits : typing.Fits setting)
    (computes : ∃ node ∈ setting.graph.nodes, output ∈ node.outputs)
    (computed : setting.isInitializer output = false) (allows : typing.Allows known output) :
    typing.Knows setting (inferred.insert output known) output where
  rank := by
    cases declared : (setting.graph.valueInfos.get? output).bind ValueInfo.rank? with
    | some rank =>
        rcases Option.bind_eq_some_iff.mp declared with ⟨info, present, ranked⟩
        refine ⟨rank, ?_, .inl ((fits.declared output info present).1 rank ranked)⟩
        rw [Setting.rankOf?, declared]
        rfl
    | none =>
        rcases allows.rank with ⟨rank, recorded, stands⟩
        refine ⟨rank, (Setting.rankOf?_insert_self declared computed).trans recorded, ?_⟩
        exact stands.imp_right (And.imp_left fun scalar => ⟨scalar, computes⟩)
  elementType := by
    cases declared : (setting.graph.valueInfos.get? output).bind ValueInfo.elementType with
    | some elementType =>
        rcases Option.bind_eq_some_iff.mp declared with ⟨info, present, typed⟩
        rw [(fits.declared output info present).2 elementType typed, Setting.elementTypeOf?,
          declared]
        rfl
    | none =>
        rw [Setting.elementTypeOf?_insert_self declared computed]
        exact allows.elementType

theorem KnowsAfter.step (knows : typing.KnowsAfter setting done inferred)
    (fits : typing.Fits setting) (isNode : node ∈ setting.graph.nodes)
    (outputs : node.outputs = [output]) (computed : setting.isInitializer output = false)
    (allows : typing.Allows known output) :
    typing.KnowsAfter setting (done ++ [node]) (inferred.insert output known) := by
  intro name provided
  by_cases same : name = output
  · rw [same]
    refine fits.knows_output ⟨node, isNode, ?_⟩ computed allows
    rw [outputs]
    exact List.mem_cons_self
  · exact (knows name (provided.of_append outputs same)).insert same

/-- The data of slices are no scalar, and the index is none that is computed. -/
theorem Fits.gather_ranks (fits : typing.Fits setting) {data indices : String}
    (isNode : node ∈ setting.graph.nodes) (slices : typing.SlicesOrSums setting node)
    (isGather : node.opType = "Gather") (hasData : node.input? 0 = some data)
    (hasIndices : node.input? 1 = some indices) (hasOutput : node.output? 0 = some output)
    (knowsData : typing.Knows setting inferred data)
    (knowsIndices : typing.Knows setting inferred indices) :
    setting.rankOf? inferred data = some (typing.rank data) ∧
      setting.rankOf? inferred indices = some (typing.rank indices) := by
  have ⟨positive, _⟩ := fits.gathers node isNode isGather data hasData indices hasIndices output
    hasOutput
  constructor
  · exact knowsData.rank_eq fun scalar => Nat.ne_of_gt positive scalar.1
  · exact knowsIndices.rank_eq (slices.vectors isGather indices hasIndices)

/-- What the plan of slices or of a sum records is true. -/
theorem Fits.allows (fits : typing.Fits setting) {generator : Generator} {plan : Plan}
    (isNode : node ∈ setting.graph.nodes) (restricted : typing.SlicesOrSums setting node)
    (operator : generator.operator = node.opType) (hasOutput : node.output? 0 = some output)
    (planned : Planned setting inferred node generator plan)
    (knows : ∀ name ∈ plan.names, typing.Knows setting inferred name) :
    ∃ value known, plan = .plain value known ∧ typing.Allows known output := by
  cases planned with
  | @slices data indices dataRank indexRank axis hasData hasIndices _ dataKnown indexKnown _ =>
      have isGather : node.opType = "Gather" := operator.symm
      rcases fits.gathers node isNode isGather data hasData indices hasIndices output hasOutput
        with ⟨_, rank, elementType⟩
      have knowsData := knows data (by simp [Plan.names, Plan.operand])
      have knowsIndices := knows indices (by simp [Plan.names, Plan.operand])
      rcases fits.gather_ranks isNode restricted isGather hasData hasIndices hasOutput knowsData
        knowsIndices with ⟨dataRanked, indexRanked⟩
      cases dataKnown.symm.trans dataRanked
      cases indexKnown.symm.trans indexRanked
      refine ⟨_, _, rfl, ⟨_, rfl, ?_⟩, knowsData.elementType.trans elementType.symm⟩
      rw [rank]
      exact Gather.resultRank_standsFor _ _
  | lookUp _ _ configured =>
      rw [restricted.general] at configured
      cases configured
  | largest => exact (restricted.operator_ne operator.symm).elim
  | @sums data request reduction hasData asked reduced =>
      have requested : request ∈ (ReduceSum.request setting node).toOption := by
        rw [asked]
        rfl
      rcases fits.sums node isNode operator.symm data hasData request requested output hasOutput
        with ⟨whole, rank, elementType⟩
      have knowsData := knows data (by simp [Plan.names, Plan.operand])
      rcases knowsData.standsFor with ⟨own, found, stands⟩
      rw [found] at reduced ⊢
      rcases ReduceSum.resultRank_standsFor reduced with ⟨result, recorded, ofResult⟩
      refine ⟨_, _, rfl, ⟨result, recorded, ?_⟩, knowsData.elementType.trans elementType.symm⟩
      rw [rank]
      exact ReduceSum.standsFor_sumRank stands whole ofResult

end Typing

end OnnxForge.Network
