import OnnxForge.Proofs.Network.Slices

/-!
# Embeddings as slices

An embedding whose table starts from the data of its node looks up rows of the data, whatever
axis the node lists. The general form takes slices along that axis. So both compute the same
where the axis is the first one, and nowhere else.
-/

namespace OnnxForge.Network.Gather

open Attempt

variable {setting : Setting} {embeddings : Embeddings} {node : Node}
  {before after otherBefore otherAfter : Progress} {code other : NodeCode}
  {data indices : String} {tensor : Tensor}

/-! ## Axes of matrices -/

/-- An axis that is found is the one that the node lists. -/
theorem axisPosition?_of_axis {rank place : Nat} (placed : Gather.axis node rank = .ok place) :
    axisPosition? rank (listedAxis node).toInt = some place := by
  have settled : Settled node := by
    intro value present
    rw [Gather.axis, present] at placed
    cases int : value.int? with
    | none => simp [int] at placed
    | some axis => exact ⟨axis, rfl⟩
  rw [axis_eq settled] at placed
  cases located : axisPosition? rank (listedAxis node).toInt with
  | none =>
      rw [located] at placed
      cases placed
  | some position =>
      rw [located] at placed
      cases placed
      rfl

/-- The first axis of a matrix is listed from its beginning or from its end. -/
theorem place_eq_zero_iff {place : Nat} {axis : Int64}
    (located : axisPosition? 2 axis.toInt = some place) :
    place = 0 ↔ axis = 0 ∨ axis = -2 := by
  have ⟨_, place_eq⟩ := axisPosition?_eq_some.mp located
  have zero : axis = 0 ↔ axis.toInt = 0 := Int64.toInt_inj.symm
  have minusTwo : axis = -2 ↔ axis.toInt = -2 := Int64.toInt_inj.symm
  rw [zero, minusTwo]
  split at place_eq <;> omega

/-! ## Values of both forms -/

/-- Whether a node is an embedding whose table has as many rows as its data, which are known in
advance. -/
structure Pretrained (setting : Setting) (node : Node) (data indices : String)
    (tensor : Tensor) : Prop where
  hasData : node.input? 0 = some data
  hasIndices : node.input? 1 = some indices
  initial : setting.initializer? data = some tensor
  counted : ∃ embedding, setting.embeddings.get? node.name = some embedding ∧
    tensor.shape.head? = some embedding.count

/-- The code of such an embedding has the data for a table, and looks up its rows. -/
theorem Pretrained.generate_eq_ok (pretrained : Pretrained setting node data indices tensor)
    (run : generate setting node before = (.ok code, after)) :
    tensor.rank = 2 ∧ ∃ layer name index,
      code = ⟨some ⟨layer, .given tensor⟩, ⟨name, .embed layer index⟩⟩ ∧
      index.uncloned =
        setting.named after.naming.identifier (indexOf setting before.inferred indices) := by
  rcases pretrained.counted with ⟨embedding, configured, count⟩
  replace run : Generator.gather.generate setting node before = (.ok code, after) := run
  rcases Generator.generate_eq_ok.mp run with ⟨plan, made, performed⟩
  rcases Plan.perform_eq_ok performed (.refl _) with ⟨output, _, step⟩
  cases Generator.plan_planned made with
  | slices _ _ general => cases general.symm.trans configured
  | @lookUp ownData ownIndices ownEmbedding weights hasData hasIndices own _ started =>
      cases pretrained.hasData.symm.trans hasData
      cases pretrained.hasIndices.symm.trans hasIndices
      cases configured.symm.trans own
      rw [Gather.weights, pretrained.initial] at started
      simp only [count, bne_self_eq_false, Bool.false_eq_true, if_false] at started
      split at started
      next floats =>
        cases started
        cases step.yields with
        | embedding _ same => exact ⟨floats.1, _, _, _, rfl, same⟩
      next => cases started

/-- The assignment of a node is read from its code, if the names in use are proper. -/
theorem assignment?_of_generate (run : generate setting node before = (.ok code, after))
    (proper : before.naming.Proper) :
    Source.assignment? code.assignment.code = some code.assignment := by
  replace run : Generator.gather.generate setting node before = (.ok code, after) := run
  rcases Generator.generate_eq_ok.mp run with ⟨plan, _, performed⟩
  exact Source.assignment?_code (plan.names_proper performed proper)

/-- Embeddings have no say in which names are constants. -/
theorem named_embeddings (identifier : String → String) (expression : Expression) :
    ({ setting with embeddings } : Setting).named identifier expression =
      setting.named identifier expression := by
  induction expression with
  | var name cloned => rfl
  | constant field => rfl
  | _ => simp_all only [Setting.named]

/-- The code of a node that is no embedding is that of its slices. -/
theorem generate_eq_ok_of_general (hasData : node.input? 0 = some data)
    (hasIndices : node.input? 1 = some indices)
    (general : setting.embeddings.get? node.name = none)
    (run : generate setting node before = (.ok code, after)) :
    ∃ dataRank indexRank place,
      setting.rankOf? before.inferred data = some dataRank ∧
      setting.rankOf? before.inferred indices = some indexRank ∧
      Gather.axis node dataRank = .ok place ∧
      after.naming.Knows data ∧ after.naming.Knows indices ∧
      (before.naming.Distinct → after.naming.Distinct) ∧
      code.assignment.value.uncloned = setting.named after.naming.identifier
        (expression (.var data false) (indexOf setting before.inferred indices) dataRank indexRank
          place) := by
  replace run : Generator.gather.generate setting node before = (.ok code, after) := run
  rcases Generator.generate_eq_ok.mp run with ⟨plan, made, performed⟩
  rcases Plan.perform_eq_ok performed (.refl _) with ⟨output, _, step⟩
  cases Generator.plan_planned made with
  | @slices ownData ownIndices dataRank indexRank place ofData ofIndices _ dataKnown indexKnown
      placed =>
      cases hasData.symm.trans ofData
      cases hasIndices.symm.trans ofIndices
      have known := step.knownNames
      rw [Plan.names, Plan.operand, Expression.names_gather, Expression.names_var,
        Expression.names_indexOf, List.forall_mem_append, List.forall_mem_singleton,
        List.forall_mem_singleton] at known
      rcases code with ⟨layer, name, value⟩
      cases step.yields with
      | plain same =>
          exact ⟨dataRank, indexRank, place, dataKnown, indexKnown, placed, known.1, known.2,
            step.grows.distinct, same⟩
  | lookUp _ _ configured => cases general.symm.trans configured

/-- Rows that are looked up are slices along the first axis. -/
theorem exists_rows {α : Type} {arithmetic : Arithmetic α} {environment : Environment α}
    {table index : Grid α} {layer : String} {place : Expression} (matrix : table.rank = 2)
    (ofMatrix : index.rank = 2) (positions : arithmetic.Within index table 0)
    (ofLayer : environment.table? layer = some table)
    (ofPlace : place.value? arithmetic environment = some index) :
    ∃ rows, arithmetic.Gathers table 0 index rows ∧
      (Expression.embed layer place).value? arithmetic environment = some rows := by
  rcases Arithmetic.exists_gathers (by omega) positions with ⟨rows, gathers⟩
  refine ⟨rows, gathers, ?_⟩
  rw [Expression.value?, ofLayer, ofPlace]
  exact (Arithmetic.rows?_eq_some matrix ofMatrix).mpr gathers

/-- Slices of a matrix at a matrix are computed by the code of the general form. -/
theorem value?_matrices {α : Type} {arithmetic : Arithmetic α} {environment : Environment α}
    {naming : Naming} {inferred : Table Inferred} {table index result : Grid α} {axis : Nat}
    {value : Expression} (matrix : table.rank = 2) (ofMatrix : index.rank = 2) (within : axis < 2)
    (same : value.uncloned = setting.named naming.identifier
      (expression (.var data false) (indexOf setting inferred indices) 2 2 axis))
    (gathers : arithmetic.Gathers table axis index result)
    (ofData : environment.Gives arithmetic setting naming (.var data false) table)
    (ofIndex : environment.Gives arithmetic setting naming (indexOf setting inferred indices)
      index) :
    value.value? arithmetic environment = some result := by
  have below : axis < table.rank := matrix ▸ within
  have rank := rank_gathered below gathers
  have carriedTable : table.carried = table := Grid.carried_of_pos (by omega)
  have carriedIndex : index.carried = index := Grid.carried_of_pos (by omega)
  rw [Environment.Gives, ← carriedTable] at ofData
  rw [Environment.Gives, ← carriedIndex] at ofIndex
  have computed := value?_expression below gathers ofData ofIndex
  rw [matrix, ofMatrix, Grid.carried_of_pos (by omega), ← named_expression] at computed
  rw [← Expression.value?_uncloned, same, computed]

/-! ## Agreement -/

/-- Rows and columns at a matrix of one more row than the table, and of no entries, differ. -/
theorem rows_ne_columns {table index rows columns : Grid Int} {count width : Nat}
    (shape : table.shape = [count, width]) (empty : index.shape = [count + 1, 0])
    (ofRows : Arithmetic.integers.Gathers table 0 index rows)
    (ofColumns : Arithmetic.integers.Gathers table 1 index columns) :
    rows ≠ columns := by
  rintro rfl
  have shapes := ofRows.shape.symm.trans ofColumns.shape
  rw [shape, empty] at shapes
  cases shapes

/-- What is read as an index without entries is the index. -/
theorem gives_indexOf {environment : Environment Int} {naming : Naming} {index : Grid Int}
    (inferred : Table Inferred)
    (given : environment.Gives .integers setting naming (.var indices false) index) :
    environment.Gives .integers setting naming (indexOf setting inferred indices) index := by
  rw [indexOf]
  split
  · rw [Environment.Gives] at given
    rw [Environment.Gives, Setting.named, Expression.value?, given, Option.map_some]
    exact congrArg some (Grid.ext rfl (List.map_id _))
  · exact given

/-- Data that are known in advance and an index may be given any values. -/
theorem exists_giving {naming : Naming} (initial : setting.initializer? data = some tensor)
    (different : data ≠ indices) (distinct : naming.Distinct) (knowsData : naming.Knows data)
    (knowsIndices : naming.Knows indices) (table index : Grid Int) :
    ∃ environment : Environment Int,
      environment.Gives .integers setting naming (.var data false) table ∧
      environment.Gives .integers setting naming (.var indices false) index := by
  have isInitial : setting.isInitializer data := by
    rw [Setting.isInitializer, initial]
    rfl
  have apart : naming.identifier indices ≠ naming.identifier data := fun same =>
    different (distinct.identifier_inj knowsData knowsIndices same.symm)
  let constantValue? (field : String) : Option (Grid Int) :=
    if field = naming.identifier data then some table else some index
  refine ⟨⟨fun _ => some index, constantValue?, fun _ => none⟩, ?_, ?_⟩
  · rw [Environment.Gives, Setting.named, if_pos isInitial]
    exact if_pos rfl
  · rw [Environment.Gives, Setting.named]
    split
    · exact if_neg apart
    · rfl

/-- A table of the shape of a matrix that is known in advance, and an index, may be given to both
forms so that rows and columns differ. -/
theorem exists_apart (naming : Naming) {otherNaming : Naming} (matrix : tensor.rank = 2)
    (initial : setting.initializer? data = some tensor) (different : data ≠ indices)
    (distinct : otherNaming.Distinct) (knowsData : otherNaming.Knows data)
    (knowsIndices : otherNaming.Knows indices) :
    ∃ (table index : Grid Int) (environment otherEnvironment : Environment Int),
      table.shape = tensor.shape.map UInt64.toNat ∧ index.rank = 2 ∧
      (∀ axis, Arithmetic.integers.Within index table axis) ∧
      (∀ layer, environment.table? layer = some table) ∧
      environment.Gives .integers setting naming (.var indices false) index ∧
      otherEnvironment.Gives .integers setting otherNaming (.var data false) table ∧
      otherEnvironment.Gives .integers setting otherNaming (.var indices false) index ∧
      ∀ rows columns, Arithmetic.integers.Gathers table 0 index rows →
        Arithmetic.integers.Gathers table 1 index columns → rows ≠ columns := by
  obtain ⟨count, width, shape⟩ := List.length_eq_two.mp matrix
  let table : Grid Int := Grid.ofCells [count.toNat, width.toNat] fun _ => 0
  let index : Grid Int := ⟨[count.toNat + 1, 0], [], by simp⟩
  let environment : Environment Int :=
    ⟨fun _ => some index, fun _ => some index, fun _ => some table⟩
  have positions : ∀ axis, Arithmetic.integers.Within index table axis :=
    fun _ _ _ _ member => (List.not_mem_nil member).elim
  have ofIndex : environment.Gives .integers setting naming (.var indices false) index := by
    rw [Environment.Gives, Setting.named]
    split <;> rfl
  rcases exists_giving initial different distinct knowsData knowsIndices table index
    with ⟨otherEnvironment, ofData, ofOther⟩
  exact ⟨table, index, environment, otherEnvironment, by rw [shape]; rfl, rfl, positions,
    fun _ => rfl, ofIndex, ofData, ofOther, fun _ _ => rows_ne_columns rfl rfl⟩

theorem rank_eq_of_shape {α : Type} {table : Grid α}
    (shape : table.shape = tensor.shape.map UInt64.toNat) : table.rank = tensor.rank := by
  rw [Grid.rank, shape, List.length_map]
  rfl

/-- An embedding that starts from its data computes what the general form does, on all tables
of the shape of the data and all matrices of positions, exactly if the axis of the node is the
first one. Where names in use are proper, both are read from their code. -/
theorem lookUp_agrees_iff (pretrained : Pretrained setting node data indices tensor)
    (unset : embeddings.get? node.name = none) (different : data ≠ indices)
    (distinct : otherBefore.naming.Distinct)
    (dataRanked : setting.rankOf? otherBefore.inferred data = some tensor.rank)
    (indexRanked : setting.rankOf? otherBefore.inferred indices = some 2)
    (run : generate setting node before = (.ok code, after))
    (otherRun : generate { setting with embeddings } node otherBefore = (.ok other, otherAfter)) :
    (∃ layer, code.layer = some ⟨layer, .given tensor⟩) ∧
    (before.naming.Proper →
      Source.assignment? code.assignment.code = some code.assignment) ∧
    (otherBefore.naming.Proper →
      Source.assignment? other.assignment.code = some other.assignment) ∧
    ((∀ {α : Type} (arithmetic : Arithmetic α) (environment otherEnvironment : Environment α)
        (table index : Grid α),
        table.shape = tensor.shape.map UInt64.toNat → index.rank = 2 →
        arithmetic.Within index table 0 →
        arithmetic.Within index table (ReduceSum.axisPlace 2 (listedAxis node)).toNat →
        (∀ layer ∈ code.layer, environment.table? layer.name = some table) →
        environment.Gives arithmetic setting after.naming
          (indexOf setting before.inferred indices) index →
        otherEnvironment.Gives arithmetic setting otherAfter.naming (.var data false) table →
        otherEnvironment.Gives arithmetic setting otherAfter.naming
          (indexOf setting otherBefore.inferred indices) index →
        ∃ result, code.assignment.value.value? arithmetic environment = some result ∧
          other.assignment.value.value? arithmetic otherEnvironment = some result) ↔
      listedAxis node = 0 ∨ listedAxis node = -2) := by
  rcases pretrained.generate_eq_ok run with ⟨matrix, layer, name, place, rfl, same⟩
  rcases generate_eq_ok_of_general pretrained.hasData pretrained.hasIndices unset otherRun
    with ⟨dataRank, indexRank, axis, dataKnown, indexKnown, placed, knowsData, knowsIndices, grows,
      otherSame⟩
  cases dataRanked.symm.trans dataKnown
  cases indexRanked.symm.trans indexKnown
  rw [matrix] at placed otherSame
  rw [named_embeddings] at otherSame
  change _ = setting.named _ (expression _ (indexOf setting otherBefore.inferred indices) _ _ _)
    at otherSame
  have located := axisPosition?_of_axis placed
  have axisPlace : (ReduceSum.axisPlace 2 (listedAxis node)).toNat = axis := by
    have onRank : OnRank 2 (listedAxis node) := onRank_iff.mpr ⟨axis, located⟩
    exact Option.some.inj ((axisPosition?_of_onRank onRank).symm.trans located)
  have within : axis < 2 := (axisPosition?_eq_some.mp located).1
  rw [axisPlace, ← place_eq_zero_iff located]
  refine ⟨⟨layer, rfl⟩, assignment?_of_generate run, assignment?_of_generate otherRun, ?_, ?_⟩
  · intro agrees
    rcases Nat.lt_succ_iff_lt_or_eq.mp within with zero | rfl
    · exact Nat.lt_one_iff.mp zero
    rcases exists_apart after.naming matrix pretrained.initial different (grows distinct) knowsData
      knowsIndices with ⟨table, index, environment, otherEnvironment, shape, ofMatrix, positions,
      ofLayer, ofIndex, ofData, ofOther, apart⟩
    have tableMatrix : table.rank = 2 := (rank_eq_of_shape shape).trans matrix
    have ofPlace : place.value? .integers environment = some index :=
      (Expression.value?_uncloned place).symm.trans (same ▸ gives_indexOf before.inferred ofIndex)
    rcases exists_rows tableMatrix ofMatrix (positions 0) (ofLayer layer) ofPlace
      with ⟨rows, gathersRows, rowsValue⟩
    rcases Arithmetic.exists_gathers (tableMatrix ▸ Nat.one_lt_two) (positions 1)
      with ⟨columns, gathersColumns⟩
    have columnsValue := value?_matrices tableMatrix ofMatrix within otherSame gathersColumns ofData
      (gives_indexOf _ ofOther)
    rcases agrees .integers environment otherEnvironment table index shape ofMatrix (positions 0)
      (positions 1) (fun layer _ => ofLayer layer.name) (gives_indexOf _ ofIndex) ofData
      (gives_indexOf _ ofOther) with ⟨result, looked, taken⟩
    cases rowsValue.symm.trans looked
    cases columnsValue.symm.trans taken
    exact (apart _ _ gathersRows gathersColumns rfl).elim
  · rintro rfl α arithmetic environment otherEnvironment table index shape ofMatrix positions _
      ofLayer ofIndex ofData ofOther
    have tableMatrix : table.rank = 2 := (rank_eq_of_shape shape).trans matrix
    have ofPlace : place.value? arithmetic environment = some index :=
      (Expression.value?_uncloned place).symm.trans (same ▸ ofIndex)
    rcases exists_rows tableMatrix ofMatrix positions (ofLayer _ rfl) ofPlace
      with ⟨rows, gathers, computed⟩
    exact ⟨rows, computed,
      value?_matrices tableMatrix ofMatrix within otherSame gathers ofData ofOther⟩

/-! ## A table of two rows -/

/-- A node that looks up rows, or takes slices along an axis. -/
def lookUpNode (axis : Int64) : Node :=
  ⟨"look_up", "Gather", "", ["rows", "ids"], ["found"], .ofList [("axis", .int axis)]⟩

/-- A graph in which the node is an embedding that starts from its data. -/
def lookingUp (axis : Int64) : Setting where
  graph := {
    name := "looking_up"
    nodes := [lookUpNode axis]
    inputs := [⟨"ids", some .int64, some [.size 1, .size 2]⟩]
    outputs := [⟨"found", none, none⟩]
    valueInfos := .ofList [("ids", ⟨"ids", some .int64, some [.size 1, .size 2]⟩)]
    initializers := .ofList [("rows", ⟨.float32, [2, 2], .float32 [1, 2, 3, 4]⟩)]
    opsetVersion := none }
  embeddings := .ofList [("look_up", ⟨2, 2⟩)]

def lookUpCode : NodeCode :=
  ⟨some ⟨"look_up", .given ⟨.float32, [2, 2], .float32 [1, 2, 3, 4]⟩⟩,
    ⟨"found", .embed "look_up" (.var "ids" false)⟩⟩

def takeCode (axis : Nat) : NodeCode :=
  ⟨none, ⟨"found", .take (.constant "rows") 2 3 axis (.var "ids" false)⟩⟩

/-- Values for both, a table and a matrix of positions. -/
def lookUpEnvironment : Environment Int where
  localValue? _ := some ⟨[1, 2], [1, 0], rfl⟩
  constantValue? _ := some ⟨[2, 2], [1, 2, 3, 4], rfl⟩
  table? _ := some ⟨[2, 2], [1, 2, 3, 4], rfl⟩

theorem lookingUp_pretrained (axis : Int64) :
    Pretrained (lookingUp axis) (lookUpNode axis) "rows" "ids"
      ⟨.float32, [2, 2], .float32 [1, 2, 3, 4]⟩ where
  hasData := rfl
  hasIndices := rfl
  initial := rfl
  counted := ⟨⟨2, 2⟩, rfl, rfl⟩

/-- The first axis may be counted from the end. -/
theorem first_axis_agrees :
    ∃ after otherAfter result,
      generate (lookingUp (-2)) (lookUpNode (-2)) .start = (.ok lookUpCode, after) ∧
      generate { lookingUp (-2) with embeddings := .empty } (lookUpNode (-2)) .start =
        (.ok (takeCode 0), otherAfter) ∧
      lookUpCode.assignment.value.value? .integers lookUpEnvironment = some result ∧
      (takeCode 0).assignment.value.value? .integers lookUpEnvironment = some result := by
  obtain ⟨after, run⟩ : ∃ after,
      generate (lookingUp (-2)) (lookUpNode (-2)) .start = (.ok lookUpCode, after) :=
    ⟨_, Prod.ext (by decide +kernel) rfl⟩
  obtain ⟨otherAfter, otherRun⟩ : ∃ after,
      generate { lookingUp (-2) with embeddings := .empty } (lookUpNode (-2)) .start =
        (.ok (takeCode 0), after) :=
    ⟨_, Prod.ext (by decide +kernel) rfl⟩
  have agrees := (lookUp_agrees_iff (lookingUp_pretrained (-2)) rfl (by decide)
    Naming.distinct_empty rfl rfl run otherRun).2.2.2
  rcases agrees.mpr (.inr rfl) .integers lookUpEnvironment lookUpEnvironment
    ⟨[2, 2], [1, 2, 3, 4], rfl⟩ ⟨[1, 2], [1, 0], rfl⟩ rfl rfl (by decide) (by decide)
    (fun _ _ => rfl) rfl rfl rfl with ⟨result, found, taken⟩
  exact ⟨after, otherAfter, result, run, otherRun, found, taken⟩

/-- Along the second axis the embedding still looks up rows, where columns are meant. -/
theorem second_axis_overlooked :
    (generate (lookingUp 1) (lookUpNode 1) .start).1 = .ok lookUpCode ∧
      (generate { lookingUp 1 with embeddings := .empty } (lookUpNode 1) .start).1 =
        .ok (takeCode 1) ∧
      lookUpCode.assignment.value.value? .integers lookUpEnvironment =
        some ⟨[1, 2, 2], [3, 4, 1, 2], rfl⟩ ∧
      (takeCode 1).assignment.value.value? .integers lookUpEnvironment =
        some ⟨[2, 1, 2], [2, 1, 4, 3], rfl⟩ := by
  refine ⟨?_, ?_, ?_, ?_⟩ <;> decide +kernel

end OnnxForge.Network.Gather
