import OnnxForge.Network.Generator
import OnnxForge.Proofs.Network.Reading

/-!
# Plans of nodes

What a node becomes is settled by what is known of the graph and of the values so far: its
generator can be taken for a plan, made without any effect, and the performance of the plan.
A plan is an expression over the names of tensors. To perform it is to read the names in
their order, to name the output, and to record what is known of it.
-/

namespace OnnxForge.Network

open Attempt

/-- What a node is going to compute, over names of tensors. -/
inductive Plan
  /-- The value of an expression. -/
  | plain (value : Expression) (known : Inferred)
  /-- The rows of a table of its own, at an index. -/
  | embedding (weights : Weights) (index : Expression)

namespace Plan

/-- The expression that reads the inputs of the node. -/
def operand : Plan → Expression
  | plain value _ => value
  | embedding _ index => index

/-- What is known of the output. -/
def known : Plan → Inferred
  | plain _ known => known
  | embedding _ _ => ⟨some 3, some .float32⟩

/-- The names that are read, in order. -/
def names (plan : Plan) : List String :=
  plan.operand.names

end Plan

/-! ## Plans of the operators -/

namespace Gather

/-- An index over names, as integers. -/
def indexOf (setting : Setting) (inferred : Table Inferred) (indices : String) : Expression :=
  if (setting.elementTypeOf? inferred indices).any ElementType.isFloat then
    .toInt (.var indices false)
  else .var indices false

def planSlices (setting : Setting) (inferred : Table Inferred) (node : Node)
    (data indices : String) : Except NetworkError Plan :=
  match setting.rankOf? inferred data, setting.rankOf? inferred indices with
  | none, _ => .error (.missingValueInfo data)
  | some _, none => .error (.missingValueInfo indices)
  | some dataRank, some indexRank => do
    let axis ← axis node dataRank
    return .plain
      (expression (.var data false) (indexOf setting inferred indices) dataRank indexRank axis)
      ⟨some (resultRank dataRank indexRank), setting.elementTypeOf? inferred data⟩

def planEmbedding (setting : Setting) (inferred : Table Inferred) (node : Node)
    (embedding : Embedding) (data indices : String) : Except NetworkError Plan :=
  if (setting.rankOf? inferred indices).all (· == 2) then do
    let weights ← weights setting node data embedding
    return .embedding weights (indexOf setting inferred indices)
  else .error (.invalidNode node.name (.indicesRank ((setting.rankOf? inferred indices).getD 0)))

def plan (setting : Setting) (inferred : Table Inferred) (node : Node) :
    Except NetworkError Plan :=
  match node.input? 0, node.input? 1 with
  | none, _ => .error (.invalidNode node.name (.missingInput .data))
  | some _, none => .error (.invalidNode node.name (.missingInput .indices))
  | some data, some indices =>
    match setting.embeddings.get? node.name with
    | none => planSlices setting inferred node data indices
    | some embedding => planEmbedding setting inferred node embedding data indices

end Gather

namespace Max

def plan (setting : Setting) (inferred : Table Inferred) (node : Node) :
    Except NetworkError Plan :=
  match node.inputs.filter (· != "") with
  | [data] => .ok (.plain (.max (.var data false)) ⟨some 1, setting.elementTypeOf? inferred data⟩)
  | inputs => .error (.invalidNode node.name (.inputCount inputs.length))

end Max

namespace ReduceSum

def plan (setting : Setting) (inferred : Table Inferred) (node : Node) :
    Except NetworkError Plan :=
  match node.input? 0 with
  | none => .error (.invalidNode node.name (.missingInput .data))
  | some data => do
    let request ← request setting node
    let rank := setting.rankOf? inferred data
    let reduction ← reduction node data rank request
    return .plain (reduction.expression (.var data false))
      ⟨reduction.resultRank rank, setting.elementTypeOf? inferred data⟩

end ReduceSum

namespace Generator

/-- The plan of a node of the operator. -/
def plan : Generator → Setting → Table Inferred → Node → Except NetworkError Plan
  | gather => Gather.plan
  | max => Max.plan
  | reduceSum => ReduceSum.plan

/-- The inputs of a node that its generator reads. -/
def reads (setting : Setting) (node : Node) : Generator → List String
  | gather =>
    match setting.embeddings.get? node.name with
    | none => (node.input? 0).toList ++ (node.input? 1).toList
    | some _ => (node.input? 1).toList
  | max => node.inputs.filter (· != "")
  | reduceSum => (node.input? 0).toList

end Generator

/-! ## Performance of plans -/

namespace Plan

def perform (setting : Setting) (node : Node) : Plan → Generation NodeCode
  | plain value known => do
    let value ← setting.instantiate node.name value
    let output ← outputName node 0
    infer node 0 known
    return ⟨none, ⟨output, value⟩⟩
  | embedding weights index => do
    let layer ← layerName node
    let index ← setting.instantiate node.name index
    let output ← outputName node 0
    infer node 0 ⟨some 3, some .float32⟩
    return ⟨some ⟨layer, weights⟩, ⟨output, .embed layer index⟩⟩

end Plan

/-! ## Steps that read only -/

namespace Setting

variable {setting : Setting} {owner : String}

theorem rank_run (setting : Setting) (name : String) (before : Progress) :
    setting.rank name before =
      match setting.rankOf? before.inferred name with
      | some rank => (.ok rank, before)
      | none => (.error (.missingValueInfo name), before) := by
  change (match setting.rankOf? before.inferred name with
    | some rank => pure rank
    | none => throw (.missingValueInfo name) : Generation Nat) before = _
  cases setting.rankOf? before.inferred name <;> rfl

theorem rank?_run (setting : Setting) (name : String) (before : Progress) :
    setting.rank? name before = (.ok (setting.rankOf? before.inferred name), before) :=
  rfl

theorem elementType?_run (setting : Setting) (name : String) (before : Progress) :
    setting.elementType? name before =
      (.ok (setting.elementTypeOf? before.inferred name), before) :=
  rfl

/-- What is known of values stays while they are read. -/
theorem instantiate_inferred {template value : Expression} {before after : Progress}
    (run : setting.instantiate owner template before = (.ok value, after)) :
    after.inferred = before.inferred :=
  (instantiate_eq_ok run (.refl _)).1.inferred

theorem read_inferred {name : String} {value : Expression} {before after : Progress}
    (run : setting.read owner name before = (.ok value, after)) :
    after.inferred = before.inferred :=
  (read_eq_ok run (.refl _)).1.inferred

theorem outputName_inferred {node : Node} {index : Nat} {output : String}
    {before after : Progress} (run : outputName node index before = (.ok output, after)) :
    after.inferred = before.inferred := by
  rcases outputName_eq_ok run with ⟨name, _, named⟩
  cases named
  rfl

/-! ## Expressions over names -/

/-- An index is read as its expression over names says. -/
theorem readIndex_run (node : Node) (indices : String) (before : Progress) :
    Gather.readIndex setting node indices before =
      setting.instantiate node.name (Gather.indexOf setting before.inferred indices) before := by
  rw [Gather.readIndex, Gather.indexOf, bind_run, elementType?_run]
  by_cases isFloat : (setting.elementTypeOf? before.inferred indices).any ElementType.isFloat
  · simp [isFloat, instantiate]
  · simp [isFloat, instantiate]

theorem instantiate_expression (operand index : Expression) (dataRank indexRank axis : Nat) :
    setting.instantiate owner (Gather.expression operand index dataRank indexRank axis) =
      (do
        let operand ← setting.instantiate owner operand
        let index ← setting.instantiate owner index
        return Gather.expression operand index dataRank indexRank axis) := by
  simp only [Gather.expression]
  split
  · rfl
  · split
    · simp [instantiate]
    · rfl

theorem instantiate_sumsAlong (axes : List Nat) (operand : Expression) :
    setting.instantiate owner (ReduceSum.Reduction.sumsAlong axes operand) =
      (do return ReduceSum.Reduction.sumsAlong axes (← setting.instantiate owner operand)) := by
  induction axes generalizing operand with
  | nil => exact (bind_pure _).symm
  | cons axis rest ih =>
      refine (ih (operand.sumAlong axis)).trans ?_
      simp [instantiate, ReduceSum.Reduction.sumsAlong]

theorem instantiate_reduction (reduction : ReduceSum.Reduction) (operand : Expression) :
    setting.instantiate owner (reduction.expression operand) =
      (do return reduction.expression (← setting.instantiate owner operand)) := by
  cases reduction with
  | identity => exact (bind_pure _).symm
  | total => rfl
  | kept axes => exact instantiate_sumsAlong axes operand
  | dropped axes rank =>
      rw [ReduceSum.Reduction.expression, instantiate, instantiate_sumsAlong]
      simp [ReduceSum.Reduction.expression]

end Setting

/-! ## Generators by their plans -/

variable {setting : Setting} {node : Node} {before : Progress}

/-- Whether an attempt succeeds where a plan is made and can be performed, with the same code
and progress. -/
def Realizes (setting : Setting) (node : Node) (before : Progress)
    (planned : Except NetworkError Plan) (attempt : Generation NodeCode) : Prop :=
  ∀ code after, attempt before = (.ok code, after) ↔
    ∃ plan, planned = .ok plan ∧ plan.perform setting node before = (.ok code, after)

/-- An attempt fails where no plan is made. -/
theorem realizes_error {attempt : Generation NodeCode} {fault failure : NetworkError}
    {after : Progress} (run : attempt before = (.error failure, after)) :
    Realizes setting node before (.error fault) attempt := by
  intro code final
  rw [run]
  constructor
  · intro succeeded
    cases succeeded
  · rintro ⟨_, made, _⟩
    cases made

/-- An attempt that runs as a plan is performed. -/
theorem realizes_ok {attempt : Generation NodeCode} {plan : Plan}
    (run : attempt before = plan.perform setting node before) :
    Realizes setting node before (.ok plan) attempt := by
  intro code after
  rw [run]
  constructor
  · intro performed
    exact ⟨plan, rfl, performed⟩
  · rintro ⟨_, made, performed⟩
    cases made
    exact performed

/-- Only the run from the progress before counts. -/
theorem Realizes.of_run {planned : Except NetworkError Plan} {attempt other : Generation NodeCode}
    (realizes : Realizes setting node before planned other)
    (run : attempt before = other before) :
    Realizes setting node before planned attempt := by
  intro code after
  rw [run]
  exact realizes code after

namespace Gather

/-- Slices are planned from the ranks, before the first effect. -/
theorem realizes_generateSlices (data indices : String) :
    Realizes setting node before (planSlices setting before.inferred node data indices)
      (generateSlices setting node data indices) := by
  rw [planSlices]
  have dataRun := setting.rank_run data before
  have indexRun := setting.rank_run indices before
  cases dataKnown : setting.rankOf? before.inferred data with
  | none =>
      rw [dataKnown] at dataRun
      apply realizes_error
      rw [generateSlices, bind_run, dataRun]
  | some dataRank =>
      rw [dataKnown] at dataRun
      cases indexKnown : setting.rankOf? before.inferred indices with
      | none =>
          rw [indexKnown] at indexRun
          apply realizes_error
          rw [generateSlices, bind_run, dataRun]
          dsimp only
          rw [bind_run, indexRun]
      | some indexRank =>
          rw [indexKnown] at indexRun
          dsimp only at dataRun indexRun ⊢
          cases placed : axis node dataRank with
          | error fault =>
              apply realizes_error
              rw [generateSlices, bind_run, dataRun]
              dsimp only
              rw [bind_run, indexRun, placed]
              rfl
          | ok axis =>
              apply realizes_ok
              rw [generateSlices, bind_run, dataRun]
              dsimp only
              rw [bind_run, indexRun, placed, Plan.perform, Setting.instantiate_expression,
                bind_assoc]
              change (setting.read node.name data >>= _) before = _
              refine bind_run_congr rfl fun operand between readOperand => ?_
              have known := Setting.read_inferred readOperand
              rw [bind_assoc]
              refine bind_run_congr ?_ fun places middle readPlaces => ?_
              · rw [Setting.readIndex_run, known]
              · refine bind_run_congr rfl fun output final named => ?_
                have stays : final.inferred = before.inferred :=
                  (Setting.outputName_inferred named).trans
                    ((Setting.instantiate_inferred readPlaces).trans known)
                rw [bind_run, Setting.elementType?_run, stays]

/-- The weights of an embedding are found after its layer is named, but a plan is made of them
before. -/
theorem realizes_lookUp (embedding : Embedding) (data indices : String) :
    Realizes setting node before
      (do
        let weights ← weights setting node data embedding
        return .embedding weights (indexOf setting before.inferred indices))
      (do
        let layer ← layerName node
        let weights ← weights setting node data embedding
        let index ← readIndex setting node indices
        let output ← outputName node 0
        infer node 0 ⟨some 3, some .float32⟩
        return ⟨some ⟨layer, weights⟩, ⟨output, .embed layer index⟩⟩) := by
  cases weights setting node data embedding with
  | error fault => exact realizes_error rfl
  | ok weights =>
      apply realizes_ok
      refine bind_run_congr rfl fun layer between named => ?_
      change (readIndex setting node indices >>= _) between = _
      refine bind_run_congr ?_ fun _ _ _ => rfl
      have known : between.inferred = before.inferred := by
        cases named
        rfl
      rw [Setting.readIndex_run, known]

theorem realizes_generateEmbedding (embedding : Embedding) (data indices : String) :
    Realizes setting node before
      (planEmbedding setting before.inferred node embedding data indices)
      (generateEmbedding setting node embedding data indices) := by
  rw [planEmbedding]
  cases ranked : setting.rankOf? before.inferred indices with
  | none =>
      refine (realizes_lookUp embedding data indices).of_run ?_
      rw [generateEmbedding, bind_run, Setting.rank?_run, ranked]
  | some rank =>
      by_cases matrix : rank = 2
      · subst matrix
        refine (realizes_lookUp embedding data indices).of_run ?_
        rw [generateEmbedding, bind_run, Setting.rank?_run, ranked]
        rfl
      · simp only [Option.all_some, beq_iff_eq, matrix, if_false]
        apply realizes_error
        rw [generateEmbedding, bind_run, Setting.rank?_run, ranked]
        simp only [ne_eq, matrix, not_false_eq_true, if_true]
        rfl

theorem realizes_generate :
    Realizes setting node before (Gather.plan setting before.inferred node)
      (generate setting node) := by
  rw [generate, Gather.plan]
  cases node.input? 0 with
  | none => exact realizes_error rfl
  | some data =>
      cases node.input? 1 with
      | none => exact realizes_error rfl
      | some indices =>
          dsimp only
          cases setting.embeddings.get? node.name with
          | none => exact realizes_generateSlices data indices
          | some embedding => exact realizes_generateEmbedding embedding data indices

end Gather

theorem Max.realizes_generate :
    Realizes setting node before (Max.plan setting before.inferred node)
      (generate setting node) := by
  rw [generate, Max.plan]
  generalize node.inputs.filter (· != "") = present
  rcases present with _ | ⟨data, _ | ⟨other, more⟩⟩
  · exact realizes_error rfl
  · apply realizes_ok
    change (setting.elementType? data >>= _) before = _
    rw [bind_run, Setting.elementType?_run, Plan.perform, Setting.instantiate, bind_assoc]
    rfl
  · exact realizes_error rfl

namespace ReduceSum

/-- A reduction is found after the data are read, but a plan is made of it before. -/
theorem realizes_generate :
    Realizes setting node before (ReduceSum.plan setting before.inferred node)
      (generate setting node) := by
  rw [generate, ReduceSum.plan]
  cases node.input? 0 with
  | none => exact realizes_error rfl
  | some data =>
      dsimp only
      cases request setting node with
      | error fault => exact realizes_error rfl
      | ok request =>
          change Realizes setting node before
            (reduction node data (setting.rankOf? before.inferred data) request >>= _) _
          cases reduced : reduction node data (setting.rankOf? before.inferred data) request with
          | error fault =>
              intro code after
              constructor
              · intro succeeded
                rw [lift_ok_bind_run, bind_run, Setting.rank?_run] at succeeded
                rcases bind_eq_ok.mp succeeded with ⟨_, _, _, named⟩
                rcases bind_eq_ok.mp named with ⟨_, _, _, typed⟩
                rcases bind_eq_ok.mp typed with ⟨_, _, _, found⟩
                rw [reduced] at found
                cases found
              · rintro ⟨_, made, _⟩
                cases made
          | ok reduction =>
              apply realizes_ok
              rw [lift_ok_bind_run, bind_run, Setting.rank?_run, Plan.perform,
                Setting.instantiate_reduction, bind_assoc]
              refine bind_run_congr rfl fun operand between readOperand => ?_
              have known := Setting.read_inferred readOperand
              refine bind_run_congr rfl fun output final named => ?_
              have stays : final.inferred = before.inferred :=
                (Setting.outputName_inferred named).trans known
              rw [bind_run, Setting.elementType?_run, stays, reduced]
              rfl

end ReduceSum

/-- A node is generated when a plan is made for it and can be performed. -/
theorem Generator.generate_eq_ok {generator : Generator} {code : NodeCode} {after : Progress} :
    generator.generate setting node before = (.ok code, after) ↔
      ∃ plan, generator.plan setting before.inferred node = .ok plan ∧
        plan.perform setting node before = (.ok code, after) := by
  cases generator with
  | gather => exact Gather.realizes_generate code after
  | max => exact Max.realizes_generate code after
  | reduceSum => exact ReduceSum.realizes_generate code after

/-! ## What a plan can be -/

/-- All that a plan can be, by the operator of its node. -/
inductive Planned (setting : Setting) (inferred : Table Inferred) (node : Node) :
    Generator → Plan → Prop where
  | slices {data indices : String} {dataRank indexRank axis : Nat}
      (hasData : node.input? 0 = some data)
      (hasIndices : node.input? 1 = some indices)
      (general : setting.embeddings.get? node.name = none)
      (dataKnown : setting.rankOf? inferred data = some dataRank)
      (indexKnown : setting.rankOf? inferred indices = some indexRank)
      (placed : Gather.axis node dataRank = .ok axis) :
      Planned setting inferred node .gather
        (.plain
          (Gather.expression (.var data false) (Gather.indexOf setting inferred indices)
            dataRank indexRank axis)
          ⟨some (Gather.resultRank dataRank indexRank), setting.elementTypeOf? inferred data⟩)
  | lookUp {data indices : String} {embedding : Embedding} {weights : Weights}
      (hasData : node.input? 0 = some data)
      (hasIndices : node.input? 1 = some indices)
      (configured : setting.embeddings.get? node.name = some embedding)
      (matrix : (setting.rankOf? inferred indices).all (· == 2) = true)
      (started : Gather.weights setting node data embedding = .ok weights) :
      Planned setting inferred node .gather
        (.embedding weights (Gather.indexOf setting inferred indices))
  | largest {data : String}
      (single : node.inputs.filter (· != "") = [data]) :
      Planned setting inferred node .max
        (.plain (.max (.var data false)) ⟨some 1, setting.elementTypeOf? inferred data⟩)
  | sums {data : String} {request : ReduceSum.Request} {reduction : ReduceSum.Reduction}
      (hasData : node.input? 0 = some data)
      (asked : ReduceSum.request setting node = .ok request)
      (reduced : ReduceSum.reduction node data (setting.rankOf? inferred data) request =
        .ok reduction) :
      Planned setting inferred node .reduceSum
        (.plain (reduction.expression (.var data false))
          ⟨reduction.resultRank (setting.rankOf? inferred data),
            setting.elementTypeOf? inferred data⟩)

theorem Generator.plan_planned {generator : Generator} {inferred : Table Inferred} {plan : Plan}
    (made : generator.plan setting inferred node = .ok plan) :
    Planned setting inferred node generator plan := by
  cases generator with
  | gather =>
      change Gather.plan setting inferred node = .ok plan at made
      rw [Gather.plan] at made
      cases hasData : node.input? 0 with
      | none => simp [hasData] at made
      | some data =>
          cases hasIndices : node.input? 1 with
          | none => simp [hasData, hasIndices] at made
          | some indices =>
              cases configured : setting.embeddings.get? node.name with
              | none =>
                  simp only [hasData, hasIndices, configured, Gather.planSlices] at made
                  split at made
                  · cases made
                  · cases made
                  next dataRank indexRank dataKnown indexKnown =>
                    rcases outcome_bind_eq_ok.mp made with ⟨axis, placed, done⟩
                    cases done
                    exact .slices hasData hasIndices configured dataKnown indexKnown placed
              | some embedding =>
                  simp only [hasData, hasIndices, configured, Gather.planEmbedding] at made
                  split at made
                  next matrix =>
                    rcases outcome_bind_eq_ok.mp made with ⟨weights, started, done⟩
                    cases done
                    exact .lookUp hasData hasIndices configured matrix started
                  · cases made
  | max =>
      change Max.plan setting inferred node = .ok plan at made
      rw [Max.plan] at made
      split at made
      next data single =>
        cases made
        exact .largest single
      · cases made
  | reduceSum =>
      change ReduceSum.plan setting inferred node = .ok plan at made
      rw [ReduceSum.plan] at made
      cases hasData : node.input? 0 with
      | none => simp [hasData] at made
      | some data =>
          simp only [hasData] at made
          rcases outcome_bind_eq_ok.mp made with ⟨request, asked, following⟩
          rcases outcome_bind_eq_ok.mp following with ⟨reduction, reduced, done⟩
          cases done
          exact .sums hasData asked reduced

/-- Whatever a plan can be is planned. -/
theorem Planned.plan_eq {generator : Generator} {inferred : Table Inferred} {plan : Plan}
    (planned : Planned setting inferred node generator plan) :
    generator.plan setting inferred node = .ok plan := by
  cases planned with
  | slices hasData hasIndices general dataKnown indexKnown placed =>
      change Gather.plan setting inferred node = _
      rw [Gather.plan, hasData, hasIndices]
      simp only [general, Gather.planSlices, dataKnown, indexKnown, placed]
      rfl
  | lookUp hasData hasIndices configured matrix started =>
      change Gather.plan setting inferred node = _
      rw [Gather.plan, hasData, hasIndices]
      simp only [configured, Gather.planEmbedding, matrix, if_true, started]
      rfl
  | largest single =>
      change Max.plan setting inferred node = _
      rw [Max.plan, single]
  | sums hasData asked reduced =>
      change ReduceSum.plan setting inferred node = _
      rw [ReduceSum.plan, hasData]
      simp only [asked]
      change (ReduceSum.reduction _ _ _ _ >>= _) = _
      rw [reduced]
      rfl

/-! ## What a plan reads -/

namespace Expression

@[simp]
theorem names_indexOf (inferred : Table Inferred) (indices : String) :
    (Gather.indexOf setting inferred indices).names = [indices] := by
  rw [Gather.indexOf]
  split <;> rfl

@[simp]
theorem names_gather (operand index : Expression) (dataRank indexRank axis : Nat) :
    (Gather.expression operand index dataRank indexRank axis).names =
      operand.names ++ index.names := by
  simp only [Gather.expression]
  split
  · exact List.map_append
  · split <;> exact List.map_append

@[simp]
theorem names_sumsAlong (axes : List Nat) (operand : Expression) :
    (ReduceSum.Reduction.sumsAlong axes operand).names = operand.names := by
  induction axes generalizing operand with
  | nil => rfl
  | cons axis rest ih => exact ih (operand.sumAlong axis)

@[simp]
theorem names_reduction (reduction : ReduceSum.Reduction) (operand : Expression) :
    (reduction.expression operand).names = operand.names := by
  cases reduction with
  | identity => rfl
  | total => rfl
  | kept axes => exact names_sumsAlong axes operand
  | dropped axes rank => exact names_sumsAlong axes operand

/-- Expressions that plans are made of have no fields. -/
theorem OverNames.var (name : String) : (Expression.var name false).OverNames :=
  ⟨rfl, rfl⟩

theorem OverNames.indexOf (inferred : Table Inferred) (indices : String) :
    (Gather.indexOf setting inferred indices).OverNames := by
  rw [Gather.indexOf]
  split <;> exact ⟨rfl, rfl⟩

theorem OverNames.gather {operand index : Expression} (operandOver : operand.OverNames)
    (indexOver : index.OverNames) (dataRank indexRank axis : Nat) :
    (Gather.expression operand index dataRank indexRank axis).OverNames := by
  have both : ∀ {first second : List String}, first = [] → second = [] → first ++ second = [] := by
    rintro _ _ rfl rfl
    rfl
  simp only [Gather.expression]
  split
  · exact ⟨both operandOver.constants indexOver.constants, both operandOver.layers indexOver.layers⟩
  · split <;>
      exact ⟨both operandOver.constants indexOver.constants,
        both operandOver.layers indexOver.layers⟩

theorem OverNames.sumsAlong (axes : List Nat) {operand : Expression}
    (overNames : operand.OverNames) : (ReduceSum.Reduction.sumsAlong axes operand).OverNames := by
  induction axes generalizing operand with
  | nil => exact overNames
  | cons axis rest ih => exact ih ⟨overNames.constants, overNames.layers⟩

theorem OverNames.reduction {operand : Expression} (overNames : operand.OverNames)
    (reduction : ReduceSum.Reduction) : (reduction.expression operand).OverNames := by
  cases reduction with
  | identity => exact overNames
  | total => exact ⟨overNames.constants, overNames.layers⟩
  | kept axes => exact overNames.sumsAlong axes
  | dropped axes rank =>
      have summed := overNames.sumsAlong axes
      exact ⟨summed.constants, summed.layers⟩

end Expression

namespace Planned

variable {inferred : Table Inferred} {generator : Generator} {plan : Plan}

/-- A plan reads the inputs that the generator of its node does. -/
theorem names_eq (planned : Planned setting inferred node generator plan) :
    plan.names = generator.reads setting node := by
  cases planned with
  | slices hasData hasIndices general =>
      simp [Plan.names, Plan.operand, Generator.reads, hasData, hasIndices, general]
  | lookUp hasData hasIndices configured =>
      simp [Plan.names, Plan.operand, Generator.reads, hasIndices, configured]
  | largest single =>
      simp [Plan.names, Plan.operand, Generator.reads, single, Expression.names,
        Expression.reads]
  | sums hasData =>
      simp [Plan.names, Plan.operand, Generator.reads, hasData]

theorem overNames (planned : Planned setting inferred node generator plan) :
    plan.operand.OverNames := by
  cases planned with
  | slices => exact .gather (.var _) (.indexOf _ _) _ _ _
  | lookUp => exact .indexOf _ _
  | largest => exact ⟨rfl, rfl⟩
  | sums => exact .reduction (.var _) _

end Planned

/-! ## Inputs that are read -/

/-- The inputs at a position are those there that are not missing. -/
theorem toList_input? (node : Node) (index : Nat) :
    (node.input? index).toList = ((node.inputs.drop index).take 1).filter (· != "") := by
  rw [Node.input?, List.take_one, List.head?_drop]
  cases node.inputs[index]? with
  | none => rfl
  | some name =>
      by_cases missing : name = ""
      · rw [missing]
        rfl
      · simp [missing]

namespace Generator

/-- A generator reads inputs that its node has, in order. -/
theorem reads_sublist (generator : Generator) (setting : Setting) (node : Node) :
    (generator.reads setting node).Sublist (node.inputs.filter (· != "")) := by
  have within : ∀ index, ((node.inputs.drop index).take 1).Sublist node.inputs := fun index =>
    (List.take_sublist _ _).trans (List.drop_sublist _ _)
  cases generator with
  | gather =>
      rw [reads]
      split
      · rw [toList_input?, toList_input?, ← List.filter_append, List.drop_zero,
          ← List.take_add]
        exact (List.take_sublist _ _).filter _
      · rw [toList_input?]
        exact (within 1).filter _
  | max => exact List.Sublist.refl _
  | reduceSum =>
      rw [reads, toList_input?]
      exact (within 0).filter _

end Generator

end OnnxForge.Network
