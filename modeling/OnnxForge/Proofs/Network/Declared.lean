import OnnxForge.Proofs.Network.Typing

/-!
# Declared and inferred ranks

What is declared of computed values besides, if it is true, leaves the types of the function
of a network as they are. That does not hold where slices are gathered at a computed scalar:
such a scalar is recorded as a vector, and slices at a vector have another rank.
-/

namespace OnnxForge.Network

open Attempt

variable {setting : Setting} {typing : Typing} {node : Node} {infos : List ValueInfo}
  {inferred recorded : Table Inferred} {owner name output : String} {known known' : Inferred}
  {done : List Node} {before after : Progress} {code : NodeCode}

/-! ## Settings in which more is declared -/

/-- The setting in which values are declared besides. -/
def Setting.declaring (setting : Setting) (infos : List ValueInfo) : Setting :=
  { setting with
    graph := { setting.graph with
      valueInfos := infos.foldl (fun table info => table.insert info.name info)
        setting.graph.valueInfos } }

/-- A name is declared as before, or by one of the infos. -/
theorem Setting.get?_declaring (setting : Setting) (infos : List ValueInfo) (name : String) :
    (setting.declaring infos).graph.valueInfos.get? name =
        setting.graph.valueInfos.get? name ∨
      ∃ info ∈ infos, info.name = name ∧
        (setting.declaring infos).graph.valueInfos.get? name = some info := by
  have general : ∀ table : Table ValueInfo,
      (infos.foldl (fun table info => table.insert info.name info) table).get? name =
          table.get? name ∨
        ∃ info ∈ infos, info.name = name ∧
          (infos.foldl (fun table info => table.insert info.name info) table).get? name =
            some info := by
    induction infos with
    | nil => exact fun _ => .inl rfl
    | cons info rest ih =>
        intro table
        rw [List.foldl_cons]
        rcases ih (table.insert info.name info) with same | ⟨other, member, named, found⟩
        · rw [same, Table.get?_insert]
          split
          next here => exact .inr ⟨info, List.mem_cons_self, here.symm, rfl⟩
          next => exact .inl rfl
        · exact .inr ⟨other, List.mem_cons_of_mem _ member, named, found⟩
  exact general setting.graph.valueInfos

namespace Typing

/-- Whether what is declared of a value is true, and nothing was declared of it before. -/
structure Describes (typing : Typing) (graph : Graph) (info : ValueInfo) : Prop where
  unknown : graph.valueInfos.get? info.name = none
  rank : info.rank? = some (typing.rank info.name)
  elementType : info.elementType = typing.elementType info.name

instance {graph : Graph} {info : ValueInfo} : Decidable (typing.Describes graph info) :=
  decidable_of_iff
    (graph.valueInfos.get? info.name = none ∧ info.rank? = some (typing.rank info.name) ∧
      info.elementType = typing.elementType info.name)
    ⟨fun ⟨unknown, rank, elementType⟩ => ⟨unknown, rank, elementType⟩,
      fun ⟨unknown, rank, elementType⟩ => ⟨unknown, rank, elementType⟩⟩

theorem rankOf?_declaring (described : ∀ info ∈ infos, typing.Describes setting.graph info)
    (inferred : Table Inferred) (name : String) :
    (setting.declaring infos).rankOf? inferred name = setting.rankOf? inferred name ∨
      (setting.declaring infos).rankOf? inferred name = some (typing.rank name) := by
  rcases setting.get?_declaring infos name with same | ⟨info, member, rfl, found⟩
  · left
    rw [Setting.rankOf?, Setting.rankOf?, same]
    rfl
  · right
    rw [Setting.rankOf?, found, Option.bind_some, (described info member).rank]
    rfl

theorem elementTypeOf?_declaring
    (described : ∀ info ∈ infos, typing.Describes setting.graph info)
    (inferred : Table Inferred) (name : String) :
    (setting.declaring infos).elementTypeOf? inferred name =
        setting.elementTypeOf? inferred name ∨
      (setting.declaring infos).elementTypeOf? inferred name = typing.elementType name := by
  rcases setting.get?_declaring infos name with same | ⟨info, member, rfl, found⟩
  · left
    rw [Setting.elementTypeOf?, Setting.elementTypeOf?, same]
    rfl
  · have typed := (described info member).elementType
    rw [Setting.elementTypeOf?, Setting.elementTypeOf?, found, Option.bind_some, typed,
      (described info member).unknown]
    cases typing.elementType info.name with
    | none => exact .inl rfl
    | some elementType => exact .inr rfl

/-- The same ranks and element types fit when they are declared. -/
theorem Fits.declaring (fits : typing.Fits setting)
    (described : ∀ info ∈ infos, typing.Describes setting.graph info) :
    typing.Fits (setting.declaring infos) where
  declared := by
    intro name info present
    rcases setting.get?_declaring infos name with same | ⟨given, member, rfl, found⟩
    · exact fits.declared name info (same ▸ present)
    · cases found.symm.trans present
      have ⟨_, ranked, typed⟩ := described info member
      refine ⟨fun rank isRank => ?_, fun elementType isType => ?_⟩
      · exact Option.some.inj (isRank.symm.trans ranked)
      · exact typed.symm.trans isType
  initial := fits.initial
  inputs := by
    intro input member
    rcases elementTypeOf?_declaring described .empty input.name with same | typed
    · exact same.trans (fits.inputs input member)
    · exact typed
  gathers := fits.gathers
  sums := fits.sums

theorem SlicesOrSums.declaring (restricted : typing.SlicesOrSums setting node) :
    typing.SlicesOrSums (setting.declaring infos) node :=
  ⟨restricted.operator, restricted.general, restricted.vectors⟩

end Typing

/-! ## Reads in both settings -/

namespace Setting

/-- A value is read alike, whatever is declared or recorded. -/
theorem read_declaring (infos : List ValueInfo) (recorded : Table Inferred)
    {value : Expression}
    (run : setting.read owner name before = (.ok value, after)) :
    (setting.declaring infos).read owner name { before with inferred := recorded } =
      (.ok value, { after with inferred := recorded }) := by
  have sameInitializer : (setting.declaring infos).initializer? name =
      setting.initializer? name := rfl
  rw [read] at run ⊢
  rw [sameInitializer]
  generalize setting.initializer? name = initial at run ⊢
  rcases initial with _ | tensor
  · cases run
    rfl
  · dsimp only at run ⊢
    generalize kindOf owner name tensor = found at run ⊢
    rcases found with fault | kind
    · cases run
    · cases run
      rfl

theorem readAll_declaring (infos : List ValueInfo) (recorded : Table Inferred)
    {names : List String}
    (run : setting.readAll owner names before = (.ok (), after)) :
    (setting.declaring infos).readAll owner names { before with inferred := recorded } =
      (.ok (), { after with inferred := recorded }) := by
  induction names generalizing before with
  | nil =>
      cases run
      rfl
  | cons name rest ih =>
      rcases bind_eq_ok.mp run with ⟨_, between, read, following⟩
      rcases bind_pure_eq_ok.mp read with ⟨value, found, _⟩
      refine bind_eq_ok.mpr ⟨(), _, ?_, ih following⟩
      exact bind_pure_eq_ok.mpr ⟨value, read_declaring infos recorded found, rfl⟩

/-- Expressions over the same names can be read alike. -/
theorem exists_instantiate_declaring (infos : List ValueInfo) (recorded : Table Inferred)
    {template other value : Expression} (same : other.names = template.names)
    (run : setting.instantiate owner template before = (.ok value, after)) :
    ∃ value', (setting.declaring infos).instantiate owner other
        { before with inferred := recorded } =
      (.ok value', { after with inferred := recorded }) := by
  rw [exists_instantiate_iff, same]
  exact readAll_declaring infos recorded (exists_instantiate_iff.mp ⟨value, run⟩)

end Setting

/-- Plans over the same names are performed alike, each with its own record. -/
theorem Plan.perform_declaring {value other : Expression} (same : other.names = value.names)
    (run : (Plan.plain value known).perform setting node before = (.ok code, after))
    (hasOutput : node.output? 0 = some output) :
    after.inferred = before.inferred.insert output known ∧
      ∃ code', (Plan.plain other known').perform (setting.declaring infos) node
          { before with inferred := recorded } =
        (.ok code', { after with inferred := recorded.insert output known' }) := by
  rcases bind_eq_ok.mp run with ⟨read, between, reading, following⟩
  have stays := Setting.instantiate_inferred reading
  rcases finish_eq_ok.mp following with ⟨own, found, rfl, rfl⟩
  cases found.symm.trans hasOutput
  refine ⟨congrArg (Table.insert · output known) stays, ?_⟩
  rcases Setting.exists_instantiate_declaring infos recorded same reading with ⟨value', alike⟩
  let code' : NodeCode := ⟨none, ⟨(between.naming.tensor output).1, value'⟩⟩
  refine ⟨code', bind_eq_ok.mpr ⟨value', _, alike, ?_⟩⟩
  exact finish_eq_ok.mpr ⟨output, hasOutput, rfl, rfl⟩

/-! ## Plans in both settings -/

/-- Where slices or a sum are planned, they are planned in the other setting as well. -/
theorem Typing.Fits.exists_plan (fits : typing.Fits setting)
    (described : ∀ info ∈ infos, typing.Describes setting.graph info)
    {generator : Generator} {plan : Plan} (isNode : node ∈ setting.graph.nodes)
    (restricted : typing.SlicesOrSums setting node)
    (operator : generator.operator = node.opType) (hasOutput : node.output? 0 = some output)
    (planned : Planned setting inferred node generator plan)
    (knows : ∀ name ∈ plan.names, typing.Knows setting inferred name)
    (alike : ∀ name ∈ plan.names, typing.Knows (setting.declaring infos) recorded name) :
    ∃ plan', Planned (setting.declaring infos) recorded node generator plan' := by
  cases planned with
  | @slices data indices dataRank indexRank axis hasData hasIndices _ dataKnown _ placed =>
      simp only [Plan.names, Plan.operand, Expression.names_gather, Expression.names_var,
        Expression.names_indexOf, List.singleton_append] at knows alike
      have isData : data ∈ [data, indices] := List.mem_cons_self
      have isIndex : indices ∈ [data, indices] := List.mem_cons_of_mem _ List.mem_cons_self
      have isGather : node.opType = "Gather" := operator.symm
      have ranked := fits.gather_ranks isNode restricted isGather hasData hasIndices hasOutput
        (knows data isData) (knows indices isIndex)
      have rankedAlike := (fits.declaring described).gather_ranks isNode restricted.declaring
        isGather hasData hasIndices hasOutput (alike data isData) (alike indices isIndex)
      cases dataKnown.symm.trans ranked.1
      exact ⟨_, .slices hasData hasIndices restricted.general rankedAlike.1 rankedAlike.2 placed⟩
  | lookUp _ _ configured =>
      rw [restricted.general] at configured
      cases configured
  | largest => exact (restricted.operator_ne operator.symm).elim
  | @sums data request reduction hasData asked reduced =>
      simp only [Plan.names, Plan.operand, Expression.names_reduction, Expression.names_var]
        at knows alike
      have requested : request ∈ (ReduceSum.request setting node).toOption := by
        rw [asked]
        rfl
      have whole := (fits.sums node isNode operator.symm data hasData request requested output
        hasOutput).1
      rcases (knows data List.mem_cons_self).standsFor with ⟨own, found, stands⟩
      rcases (alike data List.mem_cons_self).standsFor with ⟨other, also, standsToo⟩
      rw [found] at reduced
      rcases ReduceSum.exists_reduction stands standsToo whole reduced with ⟨_, reducedToo⟩
      rw [← also] at reducedToo
      exact ⟨_, .sums hasData asked reducedToo⟩

/-! ## Nodes in both settings -/

section

variable {chosen : List Generator} (executable : setting.graph.Executable)
  (restricted : ∀ node ∈ setting.graph.nodes, typing.SlicesOrSums setting node)
  (fits : typing.Fits setting)
  (described : ∀ info ∈ infos, typing.Describes setting.graph info)

include executable restricted fits described

/-- A node is generated in the other setting as well, and all values are known in both. -/
theorem generateNode_declaring {position : Nat} (isNode : node ∈ setting.graph.nodes)
    (provided : ∀ input ∈ node.inputs, input ≠ "" → setting.graph.Provides done input)
    (knows : typing.KnowsAfter setting done before.inferred)
    (alike : typing.KnowsAfter (setting.declaring infos) done recorded)
    (run : generateNode setting (.ofGenerators chosen) node position before = (.ok code, after)) :
    ∃ code' recorded',
      generateNode (setting.declaring infos) (.ofGenerators chosen) node position
          { before with inferred := recorded } =
        (.ok code', { after with inferred := recorded' }) ∧
      typing.KnowsAfter setting (done ++ [node]) after.inferred ∧
      typing.KnowsAfter (setting.declaring infos) (done ++ [node]) recorded' := by
  rcases generateNode_eq_ok.mp run with ⟨standard, generator, plan, found, made, performed⟩
  rcases Plan.perform_eq_ok performed (.refl _) with ⟨output, hasOutput, _⟩
  have operator := Generators.operator_eq found
  have planned := Generator.plan_planned made
  have here := restricted node isNode
  have reads : ∀ name ∈ plan.names, setting.graph.Provides done name := by
    intro name member
    rw [planned.names_eq, ← Generators.reads_of_find found] at member
    have ⟨isInput, present⟩ :=
      List.mem_filter.mp ((Generators.reads_sublist _ setting node).mem member)
    exact provided name isInput (by simpa using present)
  rcases fits.exists_plan described isNode here operator hasOutput planned
    (fun name member => knows name (reads name member))
    (fun name member => alike name (reads name member)) with ⟨plan', plannedToo⟩
  have same : plan'.names = plan.names := plannedToo.names_eq.trans planned.names_eq.symm
  have fitsToo := fits.declaring described
  rcases fits.allows isNode here operator hasOutput planned
    (fun name member => knows name (reads name member)) with ⟨value, known, rfl, allows⟩
  rcases fitsToo.allows isNode here.declaring operator hasOutput plannedToo
    (fun name member => alike name (reads name (same ▸ member)))
    with ⟨other, known', rfl, allowsToo⟩
  rcases Plan.perform_declaring same performed hasOutput with ⟨inferred, code', performedToo⟩
  have outputs := Node.outputs_eq (executable.single node isNode) hasOutput
  have computed := executable.computed node isNode output (outputs ▸ List.mem_cons_self)
  refine ⟨code', recorded.insert output known', ?_, ?_, ?_⟩
  · exact generateNode_eq_ok.mpr
      ⟨standard, generator, _, found, plannedToo.plan_eq, performedToo⟩
  · rw [inferred]
    exact knows.step fits isNode outputs computed allows
  · exact alike.step fitsToo isNode outputs computed allowsToo

/-- The nodes that follow are generated in the other setting as well. -/
theorem mapM_generateNode_declaring {nodes : List Node} {position : Nat} {codes : List NodeCode}
    (within : ∀ node ∈ nodes, node ∈ setting.graph.nodes)
    (inOrder : setting.graph.InOrderAfter done nodes)
    (knows : typing.KnowsAfter setting done before.inferred)
    (alike : typing.KnowsAfter (setting.declaring infos) done recorded)
    (run : ((nodes.zipIdx position).mapM fun (node, position) =>
      generateNode setting (.ofGenerators chosen) node position) before = (.ok codes, after)) :
    ∃ codes' recorded',
      ((nodes.zipIdx position).mapM fun (node, position) =>
          generateNode (setting.declaring infos) (.ofGenerators chosen) node position)
          { before with inferred := recorded } =
        (.ok codes', { after with inferred := recorded' }) ∧
      typing.KnowsAfter setting (done ++ nodes) after.inferred ∧
      typing.KnowsAfter (setting.declaring infos) (done ++ nodes) recorded' := by
  induction nodes generalizing done position before recorded codes with
  | nil =>
      cases run
      rw [List.append_nil]
      exact ⟨[], recorded, rfl, knows, alike⟩
  | cons node rest ih =>
      have ⟨isNode, withinRest⟩ := List.forall_mem_cons.mp within
      rw [List.zipIdx_cons] at run ⊢
      rcases mapM_cons_eq_ok.mp run with ⟨code, others, between, generated, following, rfl⟩
      rcases generateNode_declaring executable restricted fits described isNode inOrder.1 knows
        alike generated with ⟨code', recordedNext, generatedToo, knowsNext, alikeNext⟩
      rcases ih withinRest inOrder.2 knowsNext alikeNext following
        with ⟨others', recorded', followingToo, knowsLast, alikeLast⟩
      rw [List.append_assoc, List.singleton_append] at knowsLast alikeLast
      refine ⟨code' :: others', recorded', ?_, knowsLast, alikeLast⟩
      exact mapM_cons_eq_ok.mpr ⟨code', others', _, generatedToo, followingToo, rfl⟩

end

/-! ## Inputs and outputs in both settings -/

/-- Values that are known in both settings are declared alike. -/
theorem mapM_declare_declaring {values : List ValueInfo} {inputs : List Input}
    (run : (values.mapM fun value => declare setting value.name) before = (.ok inputs, after))
    (knows : ∀ value ∈ values, typing.Knows setting before.inferred value.name)
    (alike : ∀ value ∈ values, typing.Knows (setting.declaring infos) recorded value.name) :
    (values.mapM fun value => declare (setting.declaring infos) value.name)
        { before with inferred := recorded } =
      (.ok inputs, { after with inferred := recorded }) := by
  induction values generalizing before inputs with
  | nil =>
      cases run
      rfl
  | cons value rest ih =>
      have ⟨knowsHere, knowsRest⟩ := List.forall_mem_cons.mp knows
      have ⟨alikeHere, alikeRest⟩ := List.forall_mem_cons.mp alike
      rcases mapM_cons_eq_ok.mp run with ⟨input, others, between, declared, following, rfl⟩
      rw [knowsHere.declare_run] at declared
      cases declared
      exact mapM_cons_eq_ok.mpr
        ⟨_, others, _, alikeHere.declare_run, ih following knowsRest alikeRest, rfl⟩

theorem mapM_read_declaring (infos : List ValueInfo) (recorded : Table Inferred)
    {values : List ValueInfo} {reads : List Expression}
    (run : (values.mapM fun value => setting.read owner value.name) before = (.ok reads, after)) :
    (values.mapM fun value => (setting.declaring infos).read owner value.name)
        { before with inferred := recorded } =
      (.ok reads, { after with inferred := recorded }) := by
  induction values generalizing before reads with
  | nil =>
      cases run
      rfl
  | cons value rest ih =>
      rcases mapM_cons_eq_ok.mp run with ⟨read, others, between, first, following, rfl⟩
      exact mapM_cons_eq_ok.mpr
        ⟨read, others, _, Setting.read_declaring infos recorded first, ih following, rfl⟩

/-! ## Types of the function -/

/-- Inputs and initializers are known in both settings before the first node. -/
theorem Stages.knowsAfter_nil {generators : Generators} {network : Network}
    (stages : Stages setting generators network) (fits : typing.Fits setting)
    (described : ∀ info ∈ infos, typing.Describes setting.graph info) :
    typing.KnowsAfter setting [] .empty ∧
      typing.KnowsAfter (setting.declaring infos) [] .empty := by
  have ⟨_, _, declares⟩ := mapM_declare_eq_ok stages.declaring (.refl _)
  have ranked : ∀ input ∈ setting.graph.inputs,
      ∃ rank, setting.rankOf? .empty input.name = some rank := by
    intro input member
    rcases exists_of_forall₂ declares member with ⟨_, _, declared⟩
    exact declared.type.imp fun _ => And.left
  refine ⟨fits.knowsAfter_nil ranked, (fits.declaring described).knowsAfter_nil ?_⟩
  intro input member
  rcases Typing.rankOf?_declaring described .empty input.name with same | declared
  · rw [same]
    exact ranked input member
  · exact ⟨_, declared⟩

/-- Where a graph gathers slices and sums only, and no slices at a computed scalar, its
network has the same inputs and results whatever is declared besides of computed values. The
results have the types of the outputs. -/
theorem signature_declaring {chosen : List Generator} {network : Network}
    (executable : setting.graph.Executable)
    (restricted : ∀ node ∈ setting.graph.nodes, typing.SlicesOrSums setting node)
    (fits : typing.Fits setting)
    (described : ∀ info ∈ infos, typing.Describes setting.graph info)
    (compiled : ofGraph setting (.ofGenerators chosen) = .ok network) :
    ∃ network', ofGraph (setting.declaring infos) (.ofGenerators chosen) = .ok network' ∧
      network'.inputs = network.inputs ∧ network'.results = network.results ∧
      network.results = setting.graph.outputs.map fun output => typing.typeOf output.name := by
  rcases ofGraph_eq_ok.mp compiled with ⟨stages⟩
  have ⟨knows, alike⟩ := stages.knowsAfter_nil fits described
  have ⟨_, startedAs, _⟩ := mapM_declare_eq_ok stages.declaring (.refl _)
  have declaringToo := mapM_declare_declaring stages.declaring
    (fun input member => knows input.name (.inl (List.mem_map_of_mem member)))
    (fun input member => alike input.name (.inl (List.mem_map_of_mem member)))
  have started : { stages.started with inferred := .empty } = stages.started := by
    rw [startedAs]
    rfl
  rw [started] at declaringToo
  have ready : stages.ready.inferred = .empty := by
    rw [stages.ready_eq]
    rfl
  rw [← ready] at knows alike
  rcases mapM_generateNode_declaring executable restricted fits described (fun _ => id)
    executable.inOrder knows alike stages.generating
    with ⟨codes', recorded, generatingToo, knowsDone, alikeDone⟩
  have knowsOutputs : ∀ output ∈ setting.graph.outputs,
      typing.Knows setting stages.done.inferred output.name :=
    fun output member => knowsDone output.name (executable.returned output member)
  have redeclaringToo := mapM_declare_declaring stages.redeclaring knowsOutputs
    (fun output member => alikeDone output.name (executable.returned output member))
  let network' : Network := { network with
    layers := codes'.filterMap (·.layer)
    assignments := codes'.map (·.assignment) }
  refine ⟨network', ofGraph_eq_ok.mpr ⟨?_⟩, rfl, rfl,
    stages.results.trans (Typing.Knows.types_eq stages.redeclaring knowsOutputs)⟩
  exact {
    started := stages.started
    named := stages.named
    ready := stages.ready
    done := { stages.done with inferred := recorded }
    closed := { stages.closed with inferred := recorded }
    final := { stages.final with inferred := recorded }
    codes := codes'
    declared := stages.declared
    declaring := declaringToo
    naming := stages.naming
    registering := stages.registering
    generating := generatingToo
    redeclaring := redeclaringToo
    returning := mapM_read_declaring infos recorded stages.returning
    results := stages.results
    layers := rfl
    constants := stages.constants
    assignments := rfl }

/-- A graph that takes rows at sums, and sums them to a scalar, which it sums again. -/
def summing : Setting where
  graph := {
    name := "summing"
    nodes := [
      ⟨"add", "ReduceSum", "", ["counts"], ["places"],
        .ofList [("axes", .ints [-1]), ("keepdims", .int 0)]⟩,
      ⟨"take", "Gather", "", ["table", "places"], ["rows"], .empty⟩,
      ⟨"sum", "ReduceSum", "", ["rows"], ["total"], .ofList [("keepdims", .int 0)]⟩,
      ⟨"again", "ReduceSum", "", ["total"], ["whole"], .empty⟩]
    inputs := [
      ⟨"counts", some .int64, some [.size 3, .size 4]⟩,
      ⟨"table", some .float32, some [.size 5, .size 2]⟩]
    outputs := [⟨"rows", none, none⟩, ⟨"whole", none, none⟩]
    valueInfos := .ofList [
      ("counts", ⟨"counts", some .int64, some [.size 3, .size 4]⟩),
      ("table", ⟨"table", some .float32, some [.size 5, .size 2]⟩)]
    initializers := .empty
    opsetVersion := none }
  embeddings := .empty

/-- The types of the values of that graph. -/
def summingTyping : Typing where
  rank name := ((Table.ofList [("counts", 2), ("table", 2), ("places", 1), ("rows", 2)]).get?
    name).getD 0
  elementType name := some (if name = "counts" ∨ name = "places" then .int64 else .float32)

/-- Declarations of the sums in between, a vector and a scalar. -/
def summingInfos : List ValueInfo :=
  [⟨"places", some .int64, some [.size 3]⟩, ⟨"total", some .float32, some []⟩]

theorem summingTyping_fits : summingTyping.Fits summing where
  declared name info found := by
    have declared : ∀ entry ∈ summing.graph.valueInfos.entries,
        (∀ rank ∈ entry.2.rank?, rank = summingTyping.rank entry.1) ∧
          ∀ elementType ∈ entry.2.elementType,
            summingTyping.elementType entry.1 = some elementType := by
      decide
    exact declared (name, info) (Table.mem_entries_of_get? found)
  initial name tensor found := by cases found
  inputs := by decide
  gathers := by decide
  sums := by decide

/-- The scalar that is declared changes how it is summed again, but no type. -/
theorem summing_declared :
    summing.graph.Executable ∧
      (∀ node ∈ summing.graph.nodes, summingTyping.SlicesOrSums summing node) ∧
      summingTyping.Fits summing ∧
      (∀ info ∈ summingInfos, summingTyping.Describes summing.graph info) ∧
      ∃ network',
        ofGraph (summing.declaring summingInfos) (.ofGenerators Generator.all) = .ok network' ∧
        network'.inputs = [⟨"counts", ⟨2, .int⟩⟩, ⟨"table", ⟨2, .float⟩⟩] ∧
        network'.results = [⟨2, .float⟩, ⟨1, .float⟩] := by
  let network : Network := {
    inputs := [⟨"counts", ⟨2, .int⟩⟩, ⟨"table", ⟨2, .float⟩⟩]
    results := [⟨2, .float⟩, ⟨1, .float⟩]
    layers := []
    constants := []
    assignments := [
      ⟨"places", .squeeze (.sumAlong (.var "counts" false) 1) 1 [1]⟩,
      ⟨"rows", .select (.var "table" false) 0 (.var "places" false)⟩,
      ⟨"total", .sum (.var "rows" true)⟩,
      ⟨"whole", .sumAlong (.var "total" false) 0⟩]
    returned := [.var "rows" false, .var "whole" false] }
  have executable : summing.graph.Executable := ⟨by decide, by decide, by decide, by decide⟩
  have restricted : ∀ node ∈ summing.graph.nodes, summingTyping.SlicesOrSums summing node := by
    decide
  have described : ∀ info ∈ summingInfos, summingTyping.Describes summing.graph info := by
    decide
  have compiled : ofGraph summing (.ofGenerators Generator.all) = .ok network := by decide +kernel
  rcases signature_declaring executable restricted summingTyping_fits described compiled
    with ⟨network', declared, inputs, results, _⟩
  exact ⟨executable, restricted, summingTyping_fits, described, network', declared, inputs, results⟩

/-! ## Slices at a computed scalar -/

/-- A graph that takes the row of a table at one of its sizes. -/
def indexing : Setting where
  graph := {
    name := "indexing"
    nodes := [
      ⟨"pick", "Gather", "", ["sizes", "place"], ["size"], .empty⟩,
      ⟨"take", "Gather", "", ["table", "size"], ["row"], .empty⟩]
    inputs := [
      ⟨"sizes", some .int64, some [.size 3]⟩, ⟨"place", some .int64, some []⟩,
      ⟨"table", some .float32, some [.size 4, .size 2]⟩]
    outputs := [⟨"row", none, none⟩]
    valueInfos := .ofList [
      ("sizes", ⟨"sizes", some .int64, some [.size 3]⟩),
      ("place", ⟨"place", some .int64, some []⟩),
      ("table", ⟨"table", some .float32, some [.size 4, .size 2]⟩)]
    initializers := .empty
    opsetVersion := none }
  embeddings := .empty

def indexingTyping : Typing where
  rank name := ((Table.ofList [("sizes", 1), ("table", 2), ("row", 1)]).get? name).getD 0
  elementType name := some (if name = "table" ∨ name = "row" then .float32 else .int64)

/-- The declaration of the size, which is a scalar. -/
def indexingInfos : List ValueInfo :=
  [⟨"size", some .int64, some []⟩]

theorem indexingTyping_fits : indexingTyping.Fits indexing where
  declared name info found := by
    have declared : ∀ entry ∈ indexing.graph.valueInfos.entries,
        (∀ rank ∈ entry.2.rank?, rank = indexingTyping.rank entry.1) ∧
          ∀ elementType ∈ entry.2.elementType,
            indexingTyping.elementType entry.1 = some elementType := by
      decide
    exact declared (name, info) (Table.mem_entries_of_get? found)
  initial name tensor found := by cases found
  inputs := by decide
  gathers := by decide
  sums := by decide

/-- The row is a vector, but a matrix where the scalar that it is at was recorded. -/
theorem indexing_not_alike :
    indexing.graph.Executable ∧ indexingTyping.Fits indexing ∧
      (∀ info ∈ indexingInfos, indexingTyping.Describes indexing.graph info) ∧
      indexingTyping.rank "row" = 1 ∧
      ∃ recorded declared, ofGraph indexing .standard = .ok recorded ∧
        ofGraph (indexing.declaring indexingInfos) .standard = .ok declared ∧
        recorded.results = [⟨2, .float⟩] ∧ declared.results = [⟨1, .float⟩] := by
  let inputs : List Input := [⟨"sizes", ⟨1, .int⟩⟩, ⟨"place", ⟨1, .int⟩⟩, ⟨"table", ⟨2, .float⟩⟩]
  let size : Assignment := ⟨"size", .select (.var "sizes" false) 0 (.var "place" false)⟩
  let row : Expression := .select (.var "table" false) 0 (.var "size" false)
  let recorded : Network :=
    ⟨inputs, [⟨2, .float⟩], [], [], [size, ⟨"row", row⟩], [.var "row" false]⟩
  let declared : Network :=
    ⟨inputs, [⟨1, .float⟩], [], [], [size, ⟨"row", .squeeze row 1 [0]⟩], [.var "row" false]⟩
  have ofRecorded : ofGraph indexing .standard = .ok recorded := by decide +kernel
  have ofDeclared : ofGraph (indexing.declaring indexingInfos) .standard = .ok declared := by
    decide +kernel
  exact ⟨⟨by decide, by decide, by decide, by decide⟩, indexingTyping_fits, by decide, by decide,
    recorded, declared, ofRecorded, ofDeclared, rfl, rfl⟩

end OnnxForge.Network
