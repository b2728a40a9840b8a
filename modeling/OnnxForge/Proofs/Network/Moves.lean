import OnnxForge.Proofs.Network.Code.Networks

/-!
# Clones and moves

The function of a network reads the variables that its graph uses, in the order of the graph.
The uses are registered ahead of the reads, so an earlier read of a variable is a clone. The
one exception is a variable of an output without a name: such uses are not registered, since
a missing input of a node has no name either. A use that no read takes away, such as that of
the table of an embedding, keeps the last read a clone.
-/

namespace OnnxForge.Network

/-! ## Uses and reads of a graph -/

variable {setting : Setting} {generators : Generators} {network : Network} {node : Node}

/-- The inputs that nodes have, with the positions of the nodes from a first one on. -/
def presentFrom (first : Nat) (nodes : List Node) : List (String × Nat) :=
  (nodes.zipIdx first).flatMap fun (node, position) =>
    (node.inputs.filter (· != "")).map fun name => (name, position)

theorem presentFrom_cons (first : Nat) (node : Node) (rest : List Node) :
    presentFrom first (node :: rest) =
      (node.inputs.filter (· != "")).map (fun name => (name, first)) ++
        presentFrom (first + 1) rest :=
  rfl

/-- Inputs of nodes count as uses unless they are missing, and so do outputs. -/
theorem counted_eq (graph : Graph) :
    counted graph =
      presentFrom 0 graph.nodes ++ (outputReads graph).filter fun read => read.1 != "" := by
  rw [counted, occurrences, List.filter_append, List.filter_flatMap, presentFrom, outputReads]
  simp only [List.filter_map]
  rfl

/-- All the names that are read for a graph, in order. -/
def Generators.allReads (generators : Generators) (setting : Setting) : List (String × Nat) :=
  generators.readsFrom setting 0 setting.graph.nodes ++ outputReads setting.graph

theorem Generators.readsFrom_sublist (generators : Generators) (setting : Setting)
    (nodes : List Node) (first : Nat) :
    (generators.readsFrom setting first nodes).Sublist (presentFrom first nodes) := by
  induction nodes generalizing first with
  | nil => exact List.Sublist.refl _
  | cons node rest ih =>
      rw [readsFrom_cons, presentFrom_cons]
      exact ((generators.reads_sublist setting node).map _).append (ih (first + 1))

/-- The axes of a sum that are an input are known in advance. -/
theorem ReduceSum.isInitializer_of_request {request : ReduceSum.Request}
    (asked : ReduceSum.request setting node = .ok request) {name : String}
    (present : node.input? 1 = some name) :
    setting.isInitializer name = true := by
  rcases Attempt.outcome_bind_eq_ok.mp asked with ⟨axes, fromInput, _⟩
  rw [inputAxes, present] at fromInput
  dsimp only at fromInput
  rw [Setting.isInitializer]
  split at fromInput
  · cases fromInput
  next tensor found => rw [found, Option.isSome_some]

/-- Where nodes have no more inputs than they read, all computed inputs are read. -/
theorem Planned.filter_reads {inferred : Table Inferred} {generator : Generator} {plan : Plan}
    (planned : Planned setting inferred node generator plan)
    (general : setting.embeddings.get? node.name = none)
    (few : generator ≠ .max → node.inputs.length ≤ 2) :
    (generator.reads setting node).filter (fun name => !setting.isInitializer name) =
      (node.inputs.filter (· != "")).filter fun name => !setting.isInitializer name := by
  have parted (short : node.inputs.length ≤ 2) :
      node.inputs.filter (· != "") = (node.input? 0).toList ++ (node.input? 1).toList := by
    rw [toList_input?, toList_input?, ← List.filter_append, List.drop_zero,
      ← List.take_add, List.take_of_length_le short]
  cases planned with
  | slices =>
      rw [parted (few (by decide)), Generator.reads, general]
  | lookUp hasData hasIndices configured =>
      rw [general] at configured
      cases configured
  | largest => rfl
  | sums hasData asked =>
      have known :
          (node.input? 1).toList.filter (fun name => !setting.isInitializer name) = [] := by
        apply List.filter_eq_nil_iff.mpr
        intro name present
        simp [ReduceSum.isInitializer_of_request asked (Option.mem_toList.mp present)]
      rw [parted (few (by decide)), Generator.reads, List.filter_append, known, List.append_nil]

namespace Setting

variable {identifier : String → String}

theorem schedule_sublist {first second : List (String × Nat)} (within : first.Sublist second) :
    (setting.schedule identifier first).Sublist (setting.schedule identifier second) :=
  (within.filter _).map _

theorem schedule_congr {first second : List (String × Nat)}
    (same : (first.filter fun read => !setting.isInitializer read.1) =
      second.filter fun read => !setting.isInitializer read.1) :
    setting.schedule identifier first = setting.schedule identifier second :=
  congrArg (List.map _) same

theorem count_schedule (name : String) (reads : List (String × Nat)) (position : Nat) :
    (setting.schedule identifier reads).count (name, position) =
      reads.countP fun read =>
        (identifier read.1, read.2) == (name, position) && !setting.isInitializer read.1 := by
  rw [schedule, List.count, List.countP_map, List.countP_filter]
  rfl

/-- Reads without a name are those of one variable, unless they are of a constant. -/
theorem count_schedule_filter {name : String}
    (other : setting.isInitializer "" = true ∨ name ≠ identifier "")
    (reads : List (String × Nat)) (position : Nat) :
    (setting.schedule identifier (reads.filter fun read => read.1 != "")).count (name, position) =
      (setting.schedule identifier reads).count (name, position) := by
  rw [count_schedule, count_schedule, List.countP_filter]
  apply List.countP_congr
  rintro ⟨given, place⟩ _
  by_cases missing : given = ""
  · subst missing
    rcases other with known | different
    · simp [known]
    · simp [Ne.symm different]
  · simp [missing]

end Setting

/-! ## Compilations -/

namespace Generators

/-- The reads of nodes have names. -/
theorem ne_empty_of_readsFrom {nodes : List Node} {first : Nat} {read : String × Nat}
    (member : read ∈ generators.readsFrom setting first nodes) :
    read.1 ≠ "" := by
  rcases List.mem_flatMap.mp member with ⟨⟨node, position⟩, _, ofNode⟩
  rcases List.mem_map.mp ofNode with ⟨name, isRead, rfl⟩
  have present := (generators.reads_sublist setting node).mem isRead
  simpa using (List.mem_filter.mp present).2

theorem readsFrom_positions {nodes : List Node} {first : Nat} {read : String × Nat}
    (member : read ∈ generators.readsFrom setting first nodes) :
    first ≤ read.2 ∧ read.2 < first + nodes.length := by
  rcases List.mem_flatMap.mp member with ⟨⟨node, position⟩, inRow, ofNode⟩
  rcases List.mem_map.mp ofNode with ⟨name, _, rfl⟩
  have notBefore := List.le_snd_of_mem_zipIdx inRow
  have within := List.snd_lt_add_of_mem_zipIdx inRow
  exact ⟨notBefore, within⟩

theorem readsFrom_sorted (nodes : List Node) (first : Nat) :
    (generators.readsFrom setting first nodes).Pairwise fun a b => a.2 ≤ b.2 := by
  induction nodes generalizing first with
  | nil => exact .nil
  | cons node rest ih =>
      rw [readsFrom_cons]
      refine List.pairwise_append.mpr ⟨?_, ih (first + 1), ?_⟩
      · exact List.pairwise_map.mpr (List.pairwise_of_forall fun _ _ => Nat.le_refl first)
      · intro early inFirst late inRest
        rcases List.mem_map.mp inFirst with ⟨name, _, rfl⟩
        exact Nat.le_of_succ_le (readsFrom_positions inRest).1

/-- The reads of a graph come in the order of the positions, outputs after nodes. -/
theorem allReads_sorted (generators : Generators) (setting : Setting) :
    (generators.allReads setting).Pairwise fun a b => a.2 ≤ b.2 := by
  refine List.pairwise_append.mpr ⟨readsFrom_sorted _ _, ?_, ?_⟩
  · exact List.pairwise_map.mpr (List.pairwise_of_forall fun _ _ => Nat.le_refl _)
  · intro early ofNode late ofOutput
    rcases List.mem_map.mp ofOutput with ⟨output, _, rfl⟩
    have before := (readsFrom_positions ofNode).2
    rw [Nat.zero_add] at before
    exact Nat.le_of_lt before

end Generators

namespace Compilation

/-- The reads of the function are those that take away the uses of the graph. -/
theorem reads_eq (compilation : Compilation setting generators network) :
    network.reads =
      (compilation.ready.uses.consumeAll
        (setting.schedule compilation.naming.identifier (generators.allReads setting))).1 := by
  have ofNodes := compilation.generates.uses
  have ofOutputs : compilation.done.uses.consumeAll _ = (_, _) :=
    Prod.ext compilation.returnedReads rfl
  rw [Generators.allReads, Setting.schedule_append, Uses.consumeAll_append ofNodes ofOutputs,
    reads, compilation.assignments, List.flatMap_map]
  rfl

theorem knows_reads (compilation : Compilation setting generators network) {read : String × Nat}
    (member : read ∈ generators.allReads setting) :
    compilation.naming.Knows read.1 := by
  rcases List.mem_append.mp member with ofNodes | ofOutputs
  · rcases List.mem_flatMap.mp ofNodes with ⟨⟨node, position⟩, inRow, ofNode⟩
    rcases List.mem_map.mp ofNode with ⟨name, isRead, rfl⟩
    exact compilation.knows_read (List.fst_mem_of_mem_zipIdx inRow) isRead
  · rcases List.mem_map.mp ofOutputs with ⟨output, isOutput, rfl⟩
    exact compilation.knows_output isOutput

/-- Whether the uses of a variable are registered: all are but those of outputs without a
name. -/
def Registers (compilation : Compilation setting generators network) (name : String) : Prop :=
  setting.isInitializer "" = true ∨ "" ∉ setting.graph.outputs.map (·.name) ∨
    name ≠ compilation.naming.identifier ""

variable {compilation : Compilation setting generators network} {name : String}

/-- The uses left before the first read are those registered. -/
theorem count_left_ready (compilation : Compilation setting generators network) (name : String)
    (position : Nat) :
    (compilation.ready.uses.left name).count position =
      (setting.schedule compilation.naming.identifier (counted setting.graph)).count
        (name, position) := by
  rw [compilation.readyUses, Uses.count_left_registerAll]
  exact Nat.zero_add _

/-- All outputs count for a variable that is registered. -/
theorem Registers.count_outputs (registers : compilation.Registers name) (position : Nat) :
    (setting.schedule compilation.naming.identifier
        ((outputReads setting.graph).filter fun read => read.1 != "")).count (name, position) =
      (setting.schedule compilation.naming.identifier (outputReads setting.graph)).count
        (name, position) := by
  rcases registers with known | named | different
  · exact Setting.count_schedule_filter (.inl known) _ _
  · rw [List.filter_eq_self.mpr]
    intro read member
    rcases List.mem_map.mp member with ⟨output, isOutput, rfl⟩
    refine bne_iff_ne.mpr fun missing => named ?_
    exact List.mem_map.mpr ⟨output, isOutput, missing⟩
  · exact Setting.count_schedule_filter (.inr different) _ _

/-- The uses of a variable that is registered cover its reads. -/
theorem Registers.covers (registers : compilation.Registers name) :
    compilation.ready.uses.Covers name
      (setting.schedule compilation.naming.identifier (generators.allReads setting)) := by
  intro position
  rw [compilation.count_left_ready, counted_eq, Generators.allReads, Setting.schedule_append,
    Setting.schedule_append, List.count_append, List.count_append, registers.count_outputs]
  have within := generators.readsFrom_sublist setting setting.graph.nodes 0
  exact Nat.add_le_add_right ((Setting.schedule_sublist within).count_le _) _

/-- They match its reads where nodes have no more inputs than they read. -/
theorem Registers.matches (registers : compilation.Registers name)
    (few : setting.schedule compilation.naming.identifier
        (generators.readsFrom setting 0 setting.graph.nodes) =
      setting.schedule compilation.naming.identifier (presentFrom 0 setting.graph.nodes)) :
    compilation.ready.uses.Matches name
      (setting.schedule compilation.naming.identifier (generators.allReads setting)) := by
  intro position
  rw [compilation.count_left_ready, counted_eq, Generators.allReads, Setting.schedule_append,
    Setting.schedule_append, List.count_append, List.count_append, registers.count_outputs, few]

/-- Nothing is registered for the variable of outputs without a name. -/
theorem left_nameless (compilation : Compilation setting generators network)
    (returned : "" ∈ setting.graph.outputs.map (·.name)) :
    compilation.ready.uses.left (compilation.naming.identifier "") = [] := by
  rcases List.mem_map.mp returned with ⟨output, isOutput, nameless⟩
  have knowsNameless := compilation.knows_output isOutput
  rw [nameless] at knowsNameless
  rw [compilation.readyUses]
  apply Uses.left_eq_nil
  intro position member
  rcases List.mem_map.mp member with ⟨use, kept, same⟩
  rcases List.mem_filter.mp kept with ⟨occurs, computed⟩
  have known := compilation.usesKnown use occurs (by simpa using computed)
  have missing := compilation.distinct.identifier_inj known knowsNameless (congrArg Prod.fst same)
  have named := (List.mem_filter.mp occurs).2
  rw [missing] at named
  cases named

/-- The variable of outputs without a name is read once for each of them. -/
theorem count_nameless (compilation : Compilation setting generators network)
    (computed : setting.isInitializer "" = false)
    (returned : "" ∈ setting.graph.outputs.map (·.name)) :
    (network.reads.map (·.1)).count (compilation.naming.identifier "") =
      (setting.graph.outputs.map (·.name)).count "" := by
  rcases List.mem_map.mp returned with ⟨output, isOutput, nameless⟩
  have knowsNameless := compilation.knows_output isOutput
  rw [nameless] at knowsNameless
  have readNameless : ∀ read ∈ generators.allReads setting,
      (compilation.naming.identifier read.1 == compilation.naming.identifier "" &&
          !setting.isInitializer read.1) = true ↔ (read.1 == "") = true := by
    intro read member
    rw [Bool.and_eq_true, beq_iff_eq, beq_iff_eq]
    constructor
    · rintro ⟨same, _⟩
      exact compilation.distinct.identifier_inj (compilation.knows_reads member) knowsNameless same
    · intro missing
      rw [missing, computed]
      exact ⟨rfl, rfl⟩
  have ofNodes :
      (generators.readsFrom setting 0 setting.graph.nodes).countP (fun read => read.1 == "") = 0 :=
    List.countP_eq_zero.mpr fun read member missing =>
      Generators.ne_empty_of_readsFrom member (beq_iff_eq.mp missing)
  calc (network.reads.map (·.1)).count (compilation.naming.identifier "")
      = (generators.allReads setting).countP fun read =>
          compilation.naming.identifier read.1 == compilation.naming.identifier "" &&
            !setting.isInitializer read.1 := by
        rw [compilation.reads_eq, Uses.map_fst_consumeAll, Setting.schedule, List.map_map,
          List.count, List.countP_map, List.countP_filter]
        rfl
    _ = (generators.allReads setting).countP fun read => read.1 == "" :=
        List.countP_congr readNameless
    _ = (outputReads setting.graph).countP fun read => read.1 == "" := by
        rw [Generators.allReads, List.countP_append, ofNodes, Nat.zero_add]
    _ = (setting.graph.outputs.map (·.name)).count "" := by
        rw [outputReads, List.count, List.countP_map, List.countP_map]
        rfl

/-- The reads of a registered variable are clones until its last one. -/
theorem Registers.clones (registers : compilation.Registers name) {earlier later : String × Bool}
    (inOrder : [earlier, later].Sublist network.reads) (first : earlier.1 = name)
    (second : later.1 = name) :
    earlier.2 = true := by
  rw [compilation.reads_eq] at inOrder
  have sorted : (setting.schedule compilation.naming.identifier
      (generators.allReads setting)).Pairwise fun a b => a.2 ≤ b.2 :=
    List.pairwise_map.mpr ((generators.allReads_sorted setting).filter _)
  have pairs := registers.covers.clones sorted
  exact List.pairwise_iff_forall_sublist.mp pairs inOrder first second

/-- The reads of the variable of outputs without a name are no clones. -/
theorem moves_nameless (compilation : Compilation setting generators network)
    (returned : "" ∈ setting.graph.outputs.map (·.name)) {cloned : Bool}
    (member : (compilation.naming.identifier "", cloned) ∈ network.reads) :
    cloned = false := by
  rw [compilation.reads_eq] at member
  exact Uses.moves_of_left_eq_nil (compilation.left_nameless returned) member

theorem registers_or_nameless (compilation : Compilation setting generators network)
    (name : String) :
    compilation.Registers name ∨
      setting.isInitializer "" = false ∧ "" ∈ setting.graph.outputs.map (·.name) ∧
        name = compilation.naming.identifier "" := by
  rw [Registers]
  cases setting.isInitializer ""
  · by_cases returned : "" ∈ setting.graph.outputs.map (·.name)
    · by_cases same : name = compilation.naming.identifier ""
      · exact .inr ⟨rfl, returned, same⟩
      · exact .inl (.inr (.inr same))
    · exact .inl (.inr (.inl returned))
  · exact .inl (.inl rfl)

/-- No read of a variable follows one that moves it, exactly when at most one output without
a name is computed. -/
theorem pairwise_reads (compilation : Compilation setting generators network) :
    network.reads.Pairwise (fun earlier later => earlier.1 = later.1 → earlier.2 = true) ↔
      setting.isInitializer "" = true ∨ (setting.graph.outputs.map (·.name)).count "" ≤ 1 := by
  rw [List.pairwise_iff_forall_sublist]
  constructor
  · intro cloned
    by_contra neither
    rw [not_or, Bool.not_eq_true, Nat.not_le] at neither
    rcases neither with ⟨computed, many⟩
    have returned := List.count_pos_iff.mp (Nat.lt_of_succ_lt many)
    have counted := compilation.count_nameless computed returned
    have twice : (List.replicate 2 (compilation.naming.identifier "")).Sublist
        (network.reads.map (·.1)) :=
      List.replicate_sublist_iff.mpr (counted.symm ▸ many)
    rcases List.sublist_map_iff.mp twice with ⟨reads, inOrder, named⟩
    have pair : reads.length = 2 := by
      rw [← List.length_map, ← named, List.length_replicate]
    rcases List.length_eq_two.mp pair with ⟨earlier, later, rfl⟩
    rcases List.cons.inj named with ⟨first, rest⟩
    rcases List.cons.inj rest with ⟨second, _⟩
    have isClone := cloned inOrder (first.symm.trans second)
    have isMove : earlier.2 = false := by
      apply compilation.moves_nameless returned
      rw [first]
      exact inOrder.mem List.mem_cons_self
    rw [isMove] at isClone
    cases isClone
  · rintro few earlier later inOrder same
    rcases compilation.registers_or_nameless earlier.1
      with registers | ⟨computed, returned, nameless⟩
    · exact registers.clones inOrder rfl same.symm
    · have once : (setting.graph.outputs.map (·.name)).count "" ≤ 1 := by
        simpa [computed] using few
      have counted := compilation.count_nameless computed returned
      have both := (inOrder.map (·.1)).count_le (compilation.naming.identifier "")
      have twice : ([earlier, later].map (·.1)).count (compilation.naming.identifier "") = 2 := by
        simp [← same, nameless]
      omega

/-- Where the reads of nodes are all their uses, the last read of every variable moves it. -/
theorem moves_last (compilation : Compilation setting generators network)
    (few : setting.schedule compilation.naming.identifier
        (generators.readsFrom setting 0 setting.graph.nodes) =
      setting.schedule compilation.naming.identifier (presentFrom 0 setting.graph.nodes))
    {earlier later : List (String × Bool)} {cloned : Bool}
    (split : network.reads = earlier ++ (name, cloned) :: later)
    (last : name ∉ later.map (·.1)) :
    cloned = false := by
  rcases compilation.registers_or_nameless name with registers | ⟨_, returned, rfl⟩
  · rw [compilation.reads_eq] at split
    exact (registers.matches few).moves split last
  · apply compilation.moves_nameless returned
    rw [split]
    exact List.mem_append_right _ List.mem_cons_self

end Compilation

/-! ## Moves of a network -/

/-- Where nodes have no more inputs than they read, they read all computed ones. -/
theorem filter_readsFrom {naming : Naming} {nodes : List Node} {codes : List NodeCode}
    (made : List.Forall₂ (Made setting generators naming) nodes codes)
    (general : ∀ node ∈ nodes, setting.embeddings.get? node.name = none)
    (few : ∀ node ∈ nodes, ∀ generator, generators.find node.opType = .ok generator →
      generator ≠ .max → node.inputs.length ≤ 2) (first : Nat) :
    (generators.readsFrom setting first nodes).filter (fun read => !setting.isInitializer read.1) =
      (presentFrom first nodes).filter fun read => !setting.isInitializer read.1 := by
  induction made generalizing first with
  | nil => rfl
  | @cons node code rest codes ofNode _ ih =>
      have ⟨generalHere, generalRest⟩ := List.forall_mem_cons.mp general
      have ⟨fewHere, fewRest⟩ := List.forall_mem_cons.mp few
      obtain ⟨found, planned, _, _, _, _⟩ := ofNode
      have same := planned.filter_reads generalHere (fewHere _ found)
      rw [Generators.readsFrom_cons, presentFrom_cons, List.filter_append, List.filter_append,
        ih generalRest fewRest, List.filter_map, List.filter_map, Generators.reads_of_find found]
      exact congrArg (List.map (fun name => (name, first)) · ++ _) same

/-- Every read of a variable but the last one is a clone, exactly when at most one output
without a name is computed. Without embeddings, the last one is a move, unless a node has
inputs that its operator does not read. The code tells the function with its reads. -/
theorem variables_moved_last {chosen : List Generator}
    (compiled : ofGraph setting (.ofGenerators chosen) = .ok network) :
    (network.reads.Pairwise (fun earlier later => earlier.1 = later.1 → earlier.2 = true) ↔
      setting.isInitializer "" = true ∨ (setting.graph.outputs.map (·.name)).count "" ≤ 1) ∧
    ((∀ node ∈ setting.graph.nodes, setting.embeddings.get? node.name = none) →
      (∀ node ∈ setting.graph.nodes, node.opType = "Gather" ∨ node.opType = "ReduceSum" →
        node.inputs.length ≤ 2) →
      ∀ earlier name cloned later, network.reads = earlier ++ (name, cloned) :: later →
        name ∉ later.map (·.1) → cloned = false) ∧
    ∀ layout, Source.module? (network.code layout) = some network.listing := by
  obtain ⟨compilation⟩ := Compilation.of_ofGraph compiled
  refine ⟨compilation.pairwise_reads, ?_, module?_of_ofGraph compiled⟩
  intro general few earlier name cloned later split last
  refine compilation.moves_last (Setting.schedule_congr ?_) split last
  refine filter_readsFrom compilation.generates.made general ?_ 0
  intro node member generator found other
  apply few node member
  rw [← Generators.operator_eq found]
  cases generator with
  | gather => exact .inl rfl
  | max => exact (other rfl).elim
  | reduceSum => exact .inr rfl

/-- A graph that gathers twice by one index and returns the first slices twice. -/
def sharing : Setting where
  graph := {
    name := "sharing"
    nodes := [
      ⟨"first", "Gather", "", ["table", "index"], ["rows"], .empty⟩,
      ⟨"second", "Gather", "", ["rows", "index"], ["again"], .empty⟩,
      ⟨"sum", "ReduceSum", "", ["again", ""], ["total"], .ofList [("keepdims", .int 0)]⟩]
    inputs := [
      ⟨"table", some .float32, some [.size 4, .size 2]⟩,
      ⟨"index", some .int64, some [.size 3]⟩]
    outputs := [⟨"rows", none, none⟩, ⟨"total", none, none⟩, ⟨"rows", none, none⟩]
    valueInfos := .ofList [
      ("table", ⟨"table", some .float32, some [.size 4, .size 2]⟩),
      ("index", ⟨"index", some .int64, some [.size 3]⟩)]
    initializers := .empty
    opsetVersion := none }
  embeddings := .empty

/-- The slices are cloned for the second node and the first output, the index for the first
node. -/
theorem sharing_moved_last :
    ∃ network, ofGraph sharing (.ofGenerators Generator.all) = .ok network ∧
      network.reads = [
        ("table", false), ("index", true), ("rows", true), ("index", false), ("again", false),
        ("rows", true), ("total", false), ("rows", false)] ∧
      network.reads.Pairwise (fun earlier later => earlier.1 = later.1 → earlier.2 = true) ∧
      ∀ earlier name cloned later, network.reads = earlier ++ (name, cloned) :: later →
        name ∉ later.map (·.1) → cloned = false := by
  let network : Network := {
    inputs := [⟨"table", ⟨2, .float⟩⟩, ⟨"index", ⟨1, .int⟩⟩]
    results := [⟨2, .float⟩, ⟨1, .float⟩, ⟨2, .float⟩]
    layers := []
    constants := []
    assignments := [
      ⟨"rows", .select (.var "table" false) 0 (.var "index" true)⟩,
      ⟨"again", .select (.var "rows" true) 0 (.var "index" false)⟩,
      ⟨"total", .sum (.var "again" false)⟩]
    returned := [.var "rows" true, .var "total" false, .var "rows" false] }
  have compiled : ofGraph sharing (.ofGenerators Generator.all) = .ok network := by
    decide +kernel
  have moved := variables_moved_last compiled
  refine ⟨network, compiled, rfl, moved.1.mpr (.inr (by decide)), moved.2.1 ?_ ?_⟩
  · exact fun node _ => rfl
  · decide

/-- A graph that returns its one input, which has no name, twice. -/
def nameless : Setting where
  graph := {
    name := "nameless"
    nodes := []
    inputs := [⟨"", some .float32, some [.size 2]⟩]
    outputs := [⟨"", some .float32, some [.size 2]⟩, ⟨"", some .float32, some [.size 2]⟩]
    valueInfos := .ofList [("", ⟨"", some .float32, some [.size 2]⟩)]
    initializers := .empty
    opsetVersion := none }
  embeddings := .empty

/-- Without a name a variable is moved twice, although inputs and outputs of nodes are
distinct. -/
theorem nameless_moved_twice :
    (nameless.graph.inputs.map (·.name) ++ nameless.graph.nodes.flatMap (·.outputs)).Nodup ∧
      ∃ network, ofGraph nameless (.ofGenerators Generator.all) = .ok network ∧
        network.reads = [("tensor", false), ("tensor", false)] ∧
        ¬ network.reads.Pairwise fun earlier later => earlier.1 = later.1 → earlier.2 = true := by
  refine ⟨by decide, {
    inputs := [⟨"tensor", ⟨1, .float⟩⟩]
    results := [⟨1, .float⟩, ⟨1, .float⟩]
    layers := []
    constants := []
    assignments := []
    returned := [.var "tensor" false, .var "tensor" false] }, ?_, rfl, ?_⟩
  · decide +kernel
  · decide

end OnnxForge.Network
