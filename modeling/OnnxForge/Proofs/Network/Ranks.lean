import OnnxForge.Proofs.Network.Axes
import OnnxForge.Proofs.Network.Code.Networks

/-!
# Ranks of generated code

The operations of generated code ask for tensors of certain ranks, and give others. What is
generated for a graph keeps to that: the rank that a generation knows of a value is the one
that the value has, where a scalar is carried as a vector.
-/

namespace OnnxForge.Network

/-! ## Ranks of expressions -/

/-- What is known of the values that an expression may read. -/
structure Ranking where
  localRank? : String → Option Nat
  constantRank? : String → Option Nat
  isLayer : String → Prop

/-- The rank of a value, when all operations that it is made of can be applied. -/
inductive Expression.HasRank (ranking : Ranking) : Expression → Nat → Prop where
  | var {name : String} {cloned : Bool} {rank : Nat}
      (known : ranking.localRank? name = some rank) : HasRank ranking (.var name cloned) rank
  | constant {field : String} {rank : Nat}
      (known : ranking.constantRank? field = some rank) : HasRank ranking (.constant field) rank
  | toInt {operand : Expression} {rank : Nat} (ofOperand : HasRank ranking operand rank) :
      HasRank ranking (.toInt operand) rank
  | max {operand : Expression} {rank : Nat} (ofOperand : HasRank ranking operand rank) :
      HasRank ranking (.max operand) 1
  | sum {operand : Expression} {rank : Nat} (ofOperand : HasRank ranking operand rank) :
      HasRank ranking (.sum operand) 1
  | sumAlong {operand : Expression} {rank axis : Nat} (ofOperand : HasRank ranking operand rank)
      (within : axis < rank) : HasRank ranking (.sumAlong operand axis) rank
  | squeeze {operand : Expression} {whole rank : Nat} {axes : List Nat}
      (ofOperand : HasRank ranking operand whole) (distinct : axes.Nodup)
      (within : ∀ axis ∈ axes, axis < whole) (rest : rank = whole - axes.length)
      (positive : 1 ≤ rank) : HasRank ranking (.squeeze operand rank axes) rank
  | select {operand index : Expression} {rank axis : Nat}
      (ofOperand : HasRank ranking operand rank) (ofIndex : HasRank ranking index 1)
      (within : axis < rank) : HasRank ranking (.select operand axis index) rank
  | take {operand index : Expression} {whole indexRank rank axis : Nat}
      (ofOperand : HasRank ranking operand whole) (ofIndex : HasRank ranking index indexRank)
      (within : axis < whole) (replaced : rank = whole - 1 + indexRank) :
      HasRank ranking (.take operand indexRank rank axis index) rank
  | embed {layer : String} {index : Expression} (declared : ranking.isLayer layer)
      (ofIndex : HasRank ranking index 2) : HasRank ranking (.embed layer index) 3

/-- What is known after a variable is bound to a value of that rank. -/
def Ranking.bind (ranking : Ranking) (name : String) (rank : Nat) : Ranking :=
  { ranking with
    localRank? := fun other => if other = name then some rank else ranking.localRank? other }

/-- Assignments one after the other, each of which gives its variable a rank. -/
inductive Binds : Ranking → List Assignment → Ranking → Prop where
  | done {ranking : Ranking} : Binds ranking [] ranking
  | bind {ranking after : Ranking} {assignment : Assignment} {rank : Nat}
      {rest : List Assignment} (value : assignment.value.HasRank ranking rank)
      (following : Binds (ranking.bind assignment.name rank) rest after) :
      Binds ranking (assignment :: rest) after

/-- What is known when the function of a network begins: the ranks of its parameters and
constants, and its layers. -/
def ranking (network : Network) : Ranking where
  localRank? name := (network.inputs.find? (·.name == name)).map (·.type.rank)
  constantRank? field := (network.constants.find? (·.name == field)).map (·.type.rank)
  isLayer field := field ∈ network.layers.map (·.name)

/-- Whether every operation of the function can be applied, and the values returned have the
ranks that are declared. -/
def RankCorrect (network : Network) : Prop :=
  ∃ after, Binds network.ranking network.assignments after ∧
    List.Forall₂ (Expression.HasRank after) network.returned (network.results.map (·.rank))

/-! ## Ranks of plans -/

variable {setting : Setting} {generators : Generators} {naming : Naming} {node : Node}
  {inferred : Table Inferred}

namespace Expression.HasRank

variable {ranking : Ranking} {rank : Nat}

/-- Clones have no say in ranks. -/
theorem of_uncloned {value : Expression} (ranked : value.uncloned.HasRank ranking rank) :
    value.HasRank ranking rank := by
  induction value generalizing rank with
  | var name cloned =>
      cases ranked with
      | var known => exact .var known
  | constant field => exact ranked
  | toInt operand ih =>
      cases ranked with
      | toInt ofOperand => exact .toInt (ih ofOperand)
  | max operand ih =>
      cases ranked with
      | max ofOperand => exact .max (ih ofOperand)
  | sum operand ih =>
      cases ranked with
      | sum ofOperand => exact .sum (ih ofOperand)
  | sumAlong operand axis ih =>
      cases ranked with
      | sumAlong ofOperand within => exact .sumAlong (ih ofOperand) within
  | squeeze operand rank axes ih =>
      cases ranked with
      | squeeze ofOperand distinct within rest positive =>
          exact .squeeze (ih ofOperand) distinct within rest positive
  | select operand axis index ihOperand ihIndex =>
      cases ranked with
      | select ofOperand ofIndex within =>
          exact .select (ihOperand ofOperand) (ihIndex ofIndex) within
  | take operand indexRank rank axis index ihOperand ihIndex =>
      cases ranked with
      | take ofOperand ofIndex within replaced =>
          exact .take (ihOperand ofOperand) (ihIndex ofIndex) within replaced
  | embed layer index ih =>
      cases ranked with
      | embed declared ofIndex => exact .embed declared (ih ofIndex)

/-- An expression over names keeps its rank when values of the same ranks take the place of
the names. -/
theorem named {template : Expression} {assumed : Ranking} {identifier : String → String}
    (ranked : template.HasRank assumed rank)
    (values : ∀ name ∈ template.names, ∀ rank, assumed.localRank? name = some rank →
      (setting.named identifier (.var name false)).HasRank ranking rank)
    (constants : ∀ field rank, assumed.constantRank? field = some rank →
      ranking.constantRank? field = some rank)
    (layers : ∀ layer, assumed.isLayer layer → ranking.isLayer layer) :
    (setting.named identifier template).HasRank ranking rank := by
  induction ranked with
  | var known => exact values _ List.mem_cons_self _ known
  | constant known => exact .constant (constants _ _ known)
  | toInt _ ih => exact .toInt (ih values)
  | max _ ih => exact .max (ih values)
  | sum _ ih => exact .sum (ih values)
  | sumAlong _ within ih => exact .sumAlong (ih values) within
  | squeeze _ distinct within rest positive ih =>
      exact .squeeze (ih values) distinct within rest positive
  | select _ _ within ihOperand ihIndex =>
      rw [names_select, List.forall_mem_append] at values
      exact .select (ihOperand values.1) (ihIndex values.2) within
  | take _ _ within replaced ihOperand ihIndex =>
      rw [names_take, List.forall_mem_append] at values
      exact .take (ihOperand values.1) (ihIndex values.2) within replaced
  | embed declared _ ih => exact .embed (layers _ declared) (ih values)

theorem sumsAlong {axes : List Nat} {operand : Expression}
    (ofOperand : operand.HasRank ranking rank) (within : ∀ axis ∈ axes, axis < rank) :
    (ReduceSum.Reduction.sumsAlong axes operand).HasRank ranking rank := by
  induction axes generalizing operand with
  | nil => exact ofOperand
  | cons axis rest ih =>
      have ⟨first, others⟩ := List.forall_mem_cons.mp within
      exact ih (.sumAlong ofOperand first) others

/-- A reduction that fits its data gives a tensor of the rank that it says. -/
theorem reduction {reduction : ReduceSum.Reduction} {operand : Expression}
    (fits : reduction.Fits rank) (ofOperand : operand.HasRank ranking (Nat.max rank 1)) :
    ∃ result, reduction.resultRank (some rank) = some result ∧
      (reduction.expression operand).HasRank ranking (Nat.max result 1) := by
  cases reduction with
  | identity => exact ⟨rank, rfl, ofOperand⟩
  | total => exact ⟨1, rfl, .sum ofOperand⟩
  | kept axes =>
      refine ⟨rank, rfl, ofOperand.sumsAlong fun axis member => ?_⟩
      exact Nat.lt_of_lt_of_le (fits axis member) (Nat.le_max_left _ _)
  | dropped axes whole =>
      rcases fits with ⟨rfl, distinct, within, fewer⟩
      have positive : Nat.max whole 1 = whole := Nat.max_eq_left (by omega)
      have some_left : Nat.max (whole - axes.length) 1 = whole - axes.length :=
        Nat.max_eq_left (by omega)
      rw [positive] at ofOperand
      refine ⟨whole - axes.length, rfl, ?_⟩
      rw [some_left]
      exact .squeeze (ofOperand.sumsAlong within) distinct within rfl (by omega)

/-- Slices have the rank that is recorded of them, whatever the rank of the index. -/
theorem gather {operand index : Expression} {dataRank indexRank axis : Nat}
    (ofOperand : operand.HasRank ranking (Nat.max dataRank 1))
    (ofIndex : index.HasRank ranking (Nat.max indexRank 1)) (within : axis < dataRank) :
    (Gather.expression operand index dataRank indexRank axis).HasRank ranking
      (Gather.resultRank dataRank indexRank) := by
  have positive : Nat.max dataRank 1 = dataRank := Nat.max_eq_left (by omega)
  rw [positive] at ofOperand
  simp only [Gather.expression]
  split
  next many =>
    have whole : Nat.max indexRank 1 = indexRank := Nat.max_eq_left (by omega)
    rw [whole] at ofIndex
    refine .take ofOperand ofIndex within ?_
    exact Nat.max_eq_left (by omega)
  next few =>
    have single : Nat.max indexRank 1 = 1 := Nat.max_eq_right (by omega)
    rw [single] at ofIndex
    have selected := Expression.HasRank.select ofOperand ofIndex within
    split
    next scalar =>
      rcases scalar with ⟨rfl, more⟩
      have rest : Gather.resultRank dataRank 0 = dataRank - 1 := Nat.max_eq_left (by omega)
      rw [rest]
      refine .squeeze selected (List.nodup_singleton axis) ?_ rfl (by omega)
      simpa using within
    next other =>
      have same : Gather.resultRank dataRank indexRank = dataRank := by
        rcases Nat.eq_zero_or_pos indexRank with none | some
        · exact (Nat.max_eq_right (by omega)).trans (by omega)
        · exact (Nat.max_eq_left (by omega)).trans (by omega)
      rw [same]
      exact selected

end Expression.HasRank

/-- The ranks of names as a generation knows them, with scalars as vectors. -/
def Setting.known (setting : Setting) (inferred : Table Inferred) : Ranking where
  localRank? name := (setting.rankOf? inferred name).map (Nat.max · 1)
  constantRank? _ := none
  isLayer _ := False

/-- Whether the operand of a plan can be computed, and gives the rank recorded. -/
inductive Plan.Ranked (setting : Setting) (inferred : Table Inferred) : Plan → Prop where
  | plain {value : Expression} {rank : Nat} {elementType : Option ElementType}
      (ofValue : value.HasRank (setting.known inferred) (Nat.max rank 1)) :
      Ranked setting inferred (.plain value ⟨some rank, elementType⟩)
  | embedding {weights : Weights} {index : Expression}
      (ofIndex : index.HasRank (setting.known inferred) 2) :
      Ranked setting inferred (.embedding weights index)

theorem Setting.localRank?_known {name : String} {rank : Nat}
    (known : setting.rankOf? inferred name = some rank) :
    (setting.known inferred).localRank? name = some (Nat.max rank 1) :=
  congrArg (Option.map (Nat.max · 1)) known

theorem Setting.hasRank_var {name : String} {rank : Nat}
    (known : setting.rankOf? inferred name = some rank) :
    (Expression.var name false).HasRank (setting.known inferred) (Nat.max rank 1) :=
  .var (localRank?_known known)

theorem Setting.hasRank_index {indices : String} {rank : Nat}
    (known : setting.rankOf? inferred indices = some rank) :
    (Gather.indexOf setting inferred indices).HasRank (setting.known inferred)
      (Nat.max rank 1) := by
  rw [Gather.indexOf]
  split
  · exact .toInt (hasRank_var known)
  · exact hasRank_var known

/-- Every plan is ranked once the ranks of the names that it reads are known. -/
theorem Planned.ranked {generator : Generator} {plan : Plan}
    (planned : Planned setting inferred node generator plan)
    (known : ∀ name ∈ plan.names, ∃ rank, setting.rankOf? inferred name = some rank) :
    plan.Ranked setting inferred := by
  cases planned with
  | @slices data indices dataRank indexRank axis _ _ _ dataKnown indexKnown placed =>
      have ranked := Expression.HasRank.gather (Setting.hasRank_var dataKnown)
        (Setting.hasRank_index indexKnown) (Gather.axis_lt placed)
      have positive : 1 ≤ Gather.resultRank dataRank indexRank := Nat.le_max_right _ _
      rw [← Nat.max_eq_left positive] at ranked
      exact .plain ranked
  | @lookUp data indices _ _ _ _ _ matrix _ =>
      rcases known indices (by simp [Plan.names, Plan.operand]) with ⟨rank, found⟩
      obtain rfl : rank = 2 := by simpa [found] using matrix
      exact .embedding (Setting.hasRank_index found)
  | @largest data single =>
      rcases known data (by simp [Plan.names, Plan.operand, Expression.names, Expression.reads])
        with ⟨rank, found⟩
      exact .plain (.max (Setting.hasRank_var found))
  | @sums data request reduction _ _ reduced =>
      rcases known data (by simp [Plan.names, Plan.operand]) with ⟨rank, found⟩
      rw [found] at reduced ⊢
      rcases Expression.HasRank.reduction (ReduceSum.reduction_fits reduced)
        (Setting.hasRank_var found) with ⟨result, recorded, ranked⟩
      rw [recorded]
      exact .plain ranked

/-! ## Ranks of a function -/

variable {ranking : Ranking} {name output : String} {known : Inferred} {code : NodeCode}

/-- Whether the value of a name has the rank that is known of it. -/
structure Tracked (setting : Setting) (naming : Naming) (inferred : Table Inferred)
    (ranking : Ranking) (name : String) : Prop where
  knows : naming.Knows name
  ranked : ∃ rank, setting.rankOf? inferred name = some rank ∧
    (setting.named naming.identifier (.var name false)).HasRank ranking (Nat.max rank 1)

theorem Tracked.bind (tracked : Tracked setting naming inferred ranking name)
    (distinct : naming.Distinct) (knowsOutput : naming.Knows output) (different : name ≠ output)
    (rank : Nat) :
    Tracked setting naming (inferred.insert output known)
      (ranking.bind (naming.identifier output) rank) name := by
  have apart : naming.identifier name ≠ naming.identifier output := fun same =>
    different (distinct.identifier_inj tracked.knows knowsOutput same)
  rcases tracked.ranked with ⟨own, found, ranked⟩
  refine ⟨tracked.knows, own, (Setting.rankOf?_insert different).trans found, ?_⟩
  rw [Setting.named] at ranked ⊢
  split
  next initial =>
    rw [if_pos initial] at ranked
    cases ranked with
    | constant known => exact .constant known
  next computed =>
    rw [if_neg computed] at ranked
    cases ranked with
    | var known => exact .var ((if_neg apart).trans known)

theorem tracked_output
    (undeclared : (setting.graph.valueInfos.get? output).bind ValueInfo.rank? = none)
    (computed : setting.isInitializer output = false) (knowsOutput : naming.Knows output)
    {rank : Nat} (recorded : known.rank = some rank) :
    Tracked setting naming (inferred.insert output known)
      (ranking.bind (naming.identifier output) (Nat.max rank 1)) output := by
  refine ⟨knowsOutput, rank, ?_, ?_⟩
  · rw [Setting.rankOf?_insert_self undeclared computed, recorded]
  · rw [Setting.named, if_neg (by simp [computed])]
    exact .var (if_pos rfl)

/-- The code of a plan gives the rank recorded. -/
theorem Plan.Ranked.hasRank {plan : Plan} (planRanked : plan.Ranked setting inferred)
    (yields : plan.Yields setting naming output code)
    (tracked : ∀ name ∈ plan.names, Tracked setting naming inferred ranking name)
    (layers : ∀ layer, code.layer = some layer → ranking.isLayer layer.name) :
    ∃ rank, plan.known.rank = some rank ∧
      code.assignment.value.HasRank ranking (Nat.max rank 1) := by
  have values : ∀ name ∈ plan.operand.names, ∀ rank,
      (setting.known inferred).localRank? name = some rank →
        (setting.named naming.identifier (.var name false)).HasRank ranking rank := by
    intro name member rank isKnown
    rcases (tracked name member).ranked with ⟨own, found, ranked⟩
    rw [Setting.localRank?_known found] at isKnown
    cases isKnown
    exact ranked
  cases planRanked with
  | @plain template rank elementType ofValue =>
      cases yields with
      | plain same =>
          refine ⟨rank, rfl, .of_uncloned ?_⟩
          rw [same]
          exact ofValue.named values (fun _ _ absurdity => by cases absurdity) fun _ => False.elim
  | embedding ofIndex =>
      cases yields with
      | embedding _ same =>
          refine ⟨3, rfl, .embed (layers _ rfl) (.of_uncloned ?_)⟩
          rw [same]
          exact ofIndex.named values (fun _ _ absurdity => by cases absurdity) fun _ => False.elim

/-- Whether a name stands for a computed value, or for an initializer that is read. -/
def Readable (setting : Setting) (generators : Generators) (name : String) : Prop :=
  setting.isInitializer name = true → name ∈ generators.readNames setting

/-- What a plan for a node reads is read. -/
theorem Planned.readable {generator : Generator} {plan : Plan}
    (planned : Planned setting inferred node generator plan)
    (found : generators.find node.opType = .ok generator) (isNode : node ∈ setting.graph.nodes)
    (member : name ∈ plan.names) : Readable setting generators name := by
  intro _
  rw [planned.names_eq, ← Generators.reads_of_find found] at member
  exact List.mem_append_left _ (List.mem_flatMap.mpr ⟨node, isNode, member⟩)

namespace Generates

variable {position : Nat} {nodes done : List Node} {before after : Progress}
  {codes : List NodeCode}

/-- The assignments of nodes can be made one after the other, and the values that they give
have the ranks recorded. -/
theorem binds
    (generates : Generates setting generators naming position nodes before codes after)
    (distinct : naming.Distinct) (executable : setting.graph.Executable)
    (undeclared : ∀ node ∈ setting.graph.nodes, ∀ output ∈ node.outputs,
      (setting.graph.valueInfos.get? output).bind ValueInfo.rank? = none)
    (within : ∀ node ∈ nodes, node ∈ setting.graph.nodes)
    (inOrder : setting.graph.InOrderAfter done nodes)
    (tracked : ∀ name, setting.graph.Provides done name → Readable setting generators name →
      Tracked setting naming before.inferred ranking name)
    (layers : ∀ code ∈ codes, ∀ layer, code.layer = some layer → ranking.isLayer layer.name) :
    ∃ final, Binds ranking (codes.map (·.assignment)) final ∧
      ∀ name, setting.graph.Provides (done ++ nodes) name → Readable setting generators name →
        Tracked setting naming after.inferred final name := by
  induction generates generalizing done ranking with
  | done =>
      rw [List.append_nil]
      exact ⟨ranking, .done, tracked⟩
  | @node position node rest generator plan output before between after code codes found planned
      output? step _ ih =>
      have ⟨isNode, withinRest⟩ := List.forall_mem_cons.mp within
      have ⟨layersHere, layersRest⟩ := List.forall_mem_cons.mp layers
      have outputs := Node.outputs_eq (executable.single node isNode) output?
      have isOutput : output ∈ node.outputs := outputs ▸ List.mem_cons_self
      have computed : setting.isInitializer output = false :=
        executable.computed node isNode output isOutput
      have reads : ∀ name ∈ plan.names,
          Tracked setting naming before.inferred ranking name := by
        intro name member
        have readable := planned.readable found isNode member
        rw [planned.names_eq, ← Generators.reads_of_find found] at member
        have ⟨isInput, present⟩ :=
          List.mem_filter.mp ((generators.reads_sublist setting node).mem member)
        exact tracked name (inOrder.1 name isInput (by simpa using present)) readable
      have ranked := planned.ranked fun name member =>
        (reads name member).ranked.imp fun _ => And.left
      rcases ranked.hasRank step.yields reads layersHere with ⟨rank, recorded, ofValue⟩
      have trackedNext : ∀ name, setting.graph.Provides (done ++ [node]) name →
          Readable setting generators name → Tracked setting naming between.inferred
            (ranking.bind code.assignment.name (Nat.max rank 1)) name := by
        intro name provided readable
        rw [step.inferred, step.yields.name]
        by_cases same : name = output
        · rw [same]
          exact tracked_output (undeclared node isNode output isOutput) computed
            step.knownOutput recorded
        · exact (tracked name (provided.of_append outputs same) readable).bind distinct
            step.knownOutput same _
      rcases ih withinRest inOrder.2 trackedNext layersRest with ⟨final, binds, trackedFinal⟩
      refine ⟨final, .bind ofValue binds, fun name provided => ?_⟩
      rw [List.append_assoc] at trackedFinal
      exact trackedFinal name provided

end Generates

/-! ## Ranks at the beginning -/

variable {network : Network}

/-- Some item is found by a name that there is. -/
theorem exists_find?_eq {α : Type} {f : α → String} {items : List α}
    (isName : name ∈ items.map f) :
    ∃ item ∈ items, items.find? (f · == name) = some item ∧ f item = name := by
  rcases List.mem_map.mp isName with ⟨given, isGiven, same⟩
  cases found : items.find? (f · == name) with
  | none =>
      have absent := List.find?_eq_none.mp found given isGiven
      simp [same] at absent
  | some item =>
      exact ⟨item, List.mem_of_find?_eq_some found, rfl, by simpa using List.find?_some found⟩

/-- An initializer has the rank of its tensor, if what is declared of it agrees. -/
theorem Setting.rankOf?_initializer {tensor : Tensor}
    (agrees : ∀ rank ∈ (setting.graph.valueInfos.get? name).bind ValueInfo.rank?,
      rank = tensor.rank)
    (found : setting.initializer? name = some tensor) :
    setting.rankOf? inferred name = some tensor.rank := by
  rw [rankOf?, found]
  cases declared : (setting.graph.valueInfos.get? name).bind ValueInfo.rank? with
  | none => rfl
  | some rank =>
      rw [agrees rank declared]
      rfl

namespace Compilation

/-- The constant that is read for an initializer is the one found by its identifier. -/
theorem find?_constants (compilation : Compilation setting generators network)
    {tensor : Tensor} (isRead : name ∈ generators.readNames setting)
    (found : setting.initializer? name = some tensor) :
    network.constants.find? (·.name == compilation.naming.identifier name) =
      some ⟨compilation.naming.identifier name, .ofElementType tensor.elementType, tensor⟩ := by
  let constant : Constant :=
    ⟨compilation.naming.identifier name, .ofElementType tensor.elementType, tensor⟩
  have here : setting.constant? compilation.naming.identifier name = some constant := by
    rw [Setting.constant?, found]
    rfl
  have initial := Setting.isInitializer_eq_true found
  have member : constant ∈ network.constants := by
    rw [compilation.constants_eq]
    refine List.mem_filterMap.mpr ⟨name, ?_, here⟩
    exact List.mem_eraseDups.mpr (List.mem_filter.mpr ⟨isRead, initial⟩)
  rcases exists_find?_eq (List.mem_map_of_mem (f := Constant.name) member) with
    ⟨other, isOther, same, named⟩
  rw [compilation.constants_eq] at isOther
  rcases List.mem_filterMap.mp isOther with ⟨given, isGiven, there⟩
  have isReadToo := (List.mem_filter.mp (List.mem_eraseDups.mp isGiven)).1
  rw [Setting.name_constant? there] at named
  have one := compilation.distinct.identifier_inj (compilation.knows_readName isReadToo)
    (compilation.knows_readName isRead) named
  rw [one, here] at there
  rw [same, ← there]

theorem constantRank?_eq (compilation : Compilation setting generators network)
    {tensor : Tensor} (isRead : name ∈ generators.readNames setting)
    (found : setting.initializer? name = some tensor) :
    network.ranking.constantRank? (compilation.naming.identifier name) =
      some (Nat.max tensor.rank 1) :=
  congrArg (Option.map fun constant : Constant => constant.type.rank)
    (compilation.find?_constants isRead found)

/-- The input that is declared for a name is the one found by its identifier. -/
theorem find?_inputs (compilation : Compilation setting generators network)
    (knows : compilation.naming.Knows name) :
    Option.Rel (Declares setting compilation.naming .empty)
      (setting.graph.inputs.find? (·.name == name))
      (network.inputs.find? (·.name == compilation.naming.identifier name)) := by
  have declared := compilation.inputs
  generalize setting.graph.inputs = infos, network.inputs = inputs at declared ⊢
  induction declared with
  | nil => exact .none
  | @cons info input _ _ declares _ ih =>
      rw [List.find?_cons, List.find?_cons, declares.name]
      by_cases same : info.name = name
      · rw [same, beq_self_eq_true, beq_self_eq_true]
        exact .some declares
      · have apart : compilation.naming.identifier info.name ≠
            compilation.naming.identifier name := fun one =>
          same (compilation.distinct.identifier_inj declares.known knows one)
        rw [beq_false_of_ne same, beq_false_of_ne apart]
        exact ih

theorem localRank?_eq (compilation : Compilation setting generators network)
    (isInput : name ∈ setting.graph.inputs.map (·.name)) :
    compilation.naming.Knows name ∧
      ∃ rank, setting.rankOf? .empty name = some rank ∧
        network.ranking.localRank? (compilation.naming.identifier name) =
          some (Nat.max rank 1) := by
  rcases exists_find?_eq isInput with ⟨info, isInfo, found, rfl⟩
  rcases exists_of_forall₂ compilation.inputs isInfo with ⟨_, _, ofInfo⟩
  refine ⟨ofInfo.known, ?_⟩
  have related := compilation.find?_inputs ofInfo.known
  rw [found] at related
  dsimp only [ranking]
  generalize network.inputs.find? _ = declared at related ⊢
  cases related with
  | some declares =>
      rcases declares.type with ⟨rank, known, type⟩
      exact ⟨rank, known, by rw [Option.map_some, type]⟩

/-- Inputs and the initializers that are read have the ranks known of them. -/
theorem tracked_start (compilation : Compilation setting generators network)
    (agrees : ∀ entry ∈ setting.graph.initializers.entries,
      ∀ rank ∈ (setting.graph.valueInfos.get? entry.1).bind ValueInfo.rank?,
        rank = entry.2.rank)
    (provided : setting.graph.Provides [] name) (readable : Readable setting generators name) :
    Tracked setting compilation.naming compilation.ready.inferred network.ranking name := by
  rw [compilation.readyInferred]
  cases found : setting.initializer? name with
  | some tensor =>
      have initial := Setting.isInitializer_eq_true found
      refine ⟨compilation.knows_readName (readable initial), tensor.rank, ?_, ?_⟩
      · have member : (name, tensor) ∈ setting.graph.initializers.entries :=
          Table.mem_entries_of_get? found
        exact Setting.rankOf?_initializer (agrees (name, tensor) member) found
      · rw [Setting.named, if_pos initial]
        exact .constant (compilation.constantRank?_eq (readable initial) found)
  | none =>
      have computed : ¬ setting.isInitializer name = true := by simp [Setting.isInitializer, found]
      rcases provided with isInput | initial | ⟨_, absurdity, _⟩
      · rcases compilation.localRank?_eq isInput with ⟨knows, rank, known, ranked⟩
        refine ⟨knows, rank, known, ?_⟩
        rw [Setting.named, if_neg computed]
        exact .var ranked
      · exact (computed initial).elim
      · cases absurdity

/-- The values returned have the ranks that are declared of the outputs. -/
theorem hasRank_returned (compilation : Compilation setting generators network)
    {final : Ranking}
    (tracked : ∀ output ∈ setting.graph.outputs,
      Tracked setting compilation.naming compilation.done.inferred final output.name) :
    List.Forall₂ (Expression.HasRank final) network.returned (network.results.map (·.rank)) := by
  have declared := compilation.outputs
  have returned := compilation.returned
  rw [compilation.results, List.map_map]
  generalize setting.graph.outputs = outputs, network.returned = values,
    compilation.declared = inputs at declared returned tracked ⊢
  induction declared generalizing values with
  | nil =>
      rw [List.map_eq_nil_iff.mp returned]
      exact .nil
  | @cons output input _ _ declares _ ih =>
      have ⟨trackedHere, trackedRest⟩ := List.forall_mem_cons.mp tracked
      rcases List.map_eq_cons_iff.mp returned with ⟨value, rest, rfl, same, others⟩
      rcases trackedHere.ranked with ⟨rank, found, ranked⟩
      rcases declares.type with ⟨own, known, type⟩
      obtain rfl : rank = own := Option.some.inj (found.symm.trans known)
      refine .cons (.of_uncloned ?_) (ih rest others trackedRest)
      rw [same, Function.comp_apply, type]
      exact ranked

end Compilation

/-- The network of a graph that can be executed is rank-correct, if no rank is declared of
outputs of nodes, and those declared of initializers are right. Its parameters have the ranks
that are declared, with scalars as vectors. Its code tells all of this. -/
theorem network_ranked (executable : setting.graph.Executable)
    (undeclared : ∀ node ∈ setting.graph.nodes, ∀ output ∈ node.outputs,
      (setting.graph.valueInfos.get? output).bind ValueInfo.rank? = none)
    (agrees : ∀ entry ∈ setting.graph.initializers.entries,
      ∀ rank ∈ (setting.graph.valueInfos.get? entry.1).bind ValueInfo.rank?,
        rank = entry.2.rank)
    (compiled : ofGraph setting generators = .ok network) :
    network.RankCorrect ∧
      List.Forall₂ (fun info input => ∃ rank, setting.rankOf? .empty info.name = some rank ∧
        input.type.rank = Nat.max rank 1) setting.graph.inputs network.inputs ∧
      ∀ layout, Source.module? (network.code layout) = some network.listing := by
  obtain ⟨compilation⟩ := Compilation.of_ofGraph compiled
  have layers : ∀ code ∈ compilation.codes, ∀ layer, code.layer = some layer →
      network.ranking.isLayer layer.name := by
    intro code member layer found
    refine List.mem_map_of_mem ?_
    rw [compilation.layers]
    exact List.mem_filterMap.mpr ⟨code, member, found⟩
  rcases compilation.generates.binds compilation.distinct executable undeclared
    (fun _ => id) executable.inOrder (fun _ => compilation.tracked_start agrees) layers
    with ⟨final, binds, tracked⟩
  refine ⟨⟨final, compilation.assignments ▸ binds, ?_⟩, ?_, module?_of_ofGraph compiled⟩
  · apply compilation.hasRank_returned
    intro output isOutput
    apply tracked output.name
    · rw [List.nil_append]
      exact executable.returned output isOutput
    · intro _
      exact List.mem_append_right _ (List.mem_map_of_mem isOutput)
  · refine compilation.inputs.imp fun info input declares => ?_
    rcases declares.type with ⟨rank, found, type⟩
    exact ⟨rank, found, by rw [type]⟩

/-- A graph with an embedding, with slices by a scalar and by a matrix, and with a sum along
an axis that counts from the end. -/
def slicing : Setting where
  graph := {
    name := "slicing"
    nodes := [
      ⟨"embed", "Gather", "", ["rows", "ids"], ["found"], .empty⟩,
      ⟨"pick", "Gather", "", ["table", "place"], ["picked"], .ofList [("axis", .int 1)]⟩,
      ⟨"take", "Gather", "", ["picked", "ids"], ["taken"], .empty⟩,
      ⟨"sum", "ReduceSum", "", ["taken", "axes"], ["summed"], .ofList [("keepdims", .int 0)]⟩,
      ⟨"max", "Max", "", ["summed"], ["largest"], .empty⟩]
    inputs := [
      ⟨"ids", some .int64, some [.size 4, .size 5]⟩, ⟨"place", some .int64, some []⟩,
      ⟨"table", some .float32, some [.size 6, .size 3, .size 2]⟩]
    outputs := [⟨"found", none, none⟩, ⟨"largest", none, none⟩, ⟨"rows", none, none⟩]
    valueInfos := .ofList [
      ("ids", ⟨"ids", some .int64, some [.size 4, .size 5]⟩),
      ("place", ⟨"place", some .int64, some []⟩),
      ("table", ⟨"table", some .float32, some [.size 6, .size 3, .size 2]⟩)]
    initializers := .ofList [
      ("rows", ⟨.float32, [3, 2], .float32 [0, 1, 2, 3, 4, 5]⟩),
      ("axes", ⟨.int64, [1], .int64 [-1]⟩)]
    opsetVersion := none }
  embeddings := .ofList [("embed", ⟨3, 2⟩)]

/-- The scalar is carried as a vector, so its axis is dropped after it selects. -/
theorem slicing_ranked :
    slicing.graph.Executable ∧
      ∃ network, ofGraph slicing .standard = .ok network ∧
        network.inputs.map (·.type.rank) = [2, 1, 3] ∧
        network.results.map (·.rank) = [3, 1, 2] ∧
        network.RankCorrect := by
  let rows : Tensor := ⟨.float32, [3, 2], .float32 [0, 1, 2, 3, 4, 5]⟩
  let network : Network := {
    inputs := [⟨"ids", ⟨2, .int⟩⟩, ⟨"place", ⟨1, .int⟩⟩, ⟨"table", ⟨3, .float⟩⟩]
    results := [⟨3, .float⟩, ⟨1, .float⟩, ⟨2, .float⟩]
    layers := [⟨"embed", .given rows⟩]
    constants := [⟨"rows", .float, rows⟩]
    assignments := [
      ⟨"found", .embed "embed" (.var "ids" true)⟩,
      ⟨"picked", .squeeze (.select (.var "table" false) 1 (.var "place" false)) 2 [1]⟩,
      ⟨"taken", .take (.var "picked" false) 2 3 0 (.var "ids" false)⟩,
      ⟨"summed", .squeeze (.sumAlong (.var "taken" false) 2) 2 [2]⟩,
      ⟨"largest", .max (.var "summed" false)⟩]
    returned := [.var "found" false, .var "largest" false, .constant "rows"] }
  have executable : slicing.graph.Executable := ⟨by decide, by decide, by decide, by decide⟩
  have compiled : ofGraph slicing .standard = .ok network := by decide +kernel
  exact ⟨executable, network, compiled, rfl, rfl,
    (network_ranked executable (by decide) (by decide) compiled).1⟩

end OnnxForge.Network
