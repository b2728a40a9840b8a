import OnnxForge.Proofs.Network.Expressions
import OnnxForge.Proofs.Network.Identifiers
import OnnxForge.Proofs.Network.Uses

/-!
# Reading values

What it takes to read values one after the other. Each name gets its identifier, an
initializer becomes a constant unless it is one, and a computed value takes away one of its
uses. What is known of values stays. All is told with the identifiers that names have in a
later naming, where they are the same.
-/

namespace OnnxForge.Network

open Attempt

namespace Setting

/-- Reads the names of an expression, in their order, on behalf of an owner. -/
def instantiate (setting : Setting) (owner : String) : Expression → Generation Expression
  | .var name _ => setting.read owner name
  | .constant field => return .constant field
  | .toInt operand => do return .toInt (← setting.instantiate owner operand)
  | .max operand => do return .max (← setting.instantiate owner operand)
  | .sum operand => do return .sum (← setting.instantiate owner operand)
  | .sumAlong operand axis => do return .sumAlong (← setting.instantiate owner operand) axis
  | .squeeze operand rank axes => do
    return .squeeze (← setting.instantiate owner operand) rank axes
  | .select operand axis index => do
    let operand ← setting.instantiate owner operand
    let index ← setting.instantiate owner index
    return .select operand axis index
  | .take operand indexRank rank axis index => do
    let operand ← setting.instantiate owner operand
    let index ← setting.instantiate owner index
    return .take operand indexRank rank axis index
  | .embed layer index => do return .embed layer (← setting.instantiate owner index)

/-- The constants after a name is read. -/
def addRead (setting : Setting) (identifier : String → String) (constants : List Constant)
    (name : String) : List Constant :=
  match setting.initializer? name with
  | none => constants
  | some tensor =>
    addConstant ⟨identifier name, .ofElementType tensor.elementType, tensor⟩ constants

/-- The reads of variables among reads of names, by their identifiers. -/
def schedule (setting : Setting) (identifier : String → String) (reads : List (String × Nat)) :
    List (String × Nat) :=
  (reads.filter fun read => !setting.isInitializer read.1).map fun read =>
    (identifier read.1, read.2)

theorem schedule_append (setting : Setting) (identifier : String → String)
    (first second : List (String × Nat)) :
    setting.schedule identifier (first ++ second) =
      setting.schedule identifier first ++ setting.schedule identifier second := by
  rw [schedule, List.filter_append, List.map_append]
  rfl

end Setting

/-- What it takes to read names, which gives reads of variables. -/
structure Reading (setting : Setting) (naming : Naming) (before : Progress)
    (names : List String) (reads : List (String × Bool)) (after : Progress) : Prop where
  grows : before.naming.Grows after.naming
  known : ∀ name ∈ names, naming.Knows name
  inferred : after.inferred = before.inferred
  position : after.position = before.position
  constants :
    after.constants = names.foldl (setting.addRead naming.identifier) before.constants
  uses :
    before.uses.consumeAll
        (setting.schedule naming.identifier (names.map fun name => (name, before.position))) =
      (reads, after.uses)

variable {setting : Setting} {naming : Naming} {owner : String} {before after : Progress}

namespace Reading

theorem nil : Reading setting naming before [] [] before where
  grows := .refl _
  known := List.forall_mem_nil _
  inferred := rfl
  position := rfl
  constants := rfl
  uses := rfl

/-- Names may be read in two parts. -/
theorem append {between : Progress} {first second : List String}
    {reads others : List (String × Bool)}
    (early : Reading setting naming before first reads between)
    (late : Reading setting naming between second others after) :
    Reading setting naming before (first ++ second) (reads ++ others) after where
  grows := early.grows.trans late.grows
  known := List.forall_mem_append.mpr ⟨early.known, late.known⟩
  inferred := late.inferred.trans early.inferred
  position := late.position.trans early.position
  constants := by rw [late.constants, early.constants, List.foldl_append]
  uses := by
    rw [List.map_append, Setting.schedule_append]
    have following := late.uses
    rw [early.position] at following
    exact Uses.consumeAll_append early.uses following

end Reading

/-! ## Single values -/

theorem kindOf_eq_ok {name : String} {tensor : Tensor} {kind : TensorKind}
    (found : kindOf owner name tensor = .ok kind) :
    kind = .ofElementType tensor.elementType := by
  rw [kindOf] at found
  split at found
  · cases found
  · cases found
    rfl

theorem readVariable_run (name : String) (before : Progress) :
    readVariable name before =
      (.ok (.var (before.naming.tensor name).1
          (before.uses.consume (before.naming.tensor name).1 before.position).1),
        { before with
          naming := (before.naming.tensor name).2
          uses := (before.uses.consume (before.naming.tensor name).1 before.position).2 }) :=
  rfl

theorem readConstant_run (name : String) (kind : TensorKind) (tensor : Tensor)
    (before : Progress) :
    readConstant name kind tensor before =
      (.ok (.constant (before.naming.tensor name).1),
        { before with
          naming := (before.naming.tensor name).2
          constants :=
            addConstant ⟨(before.naming.tensor name).1, kind, tensor⟩ before.constants }) :=
  rfl

theorem outputName_eq_ok {node : Node} {index : Nat} {identifier : String}
    (run : outputName node index before = (.ok identifier, after)) :
    ∃ name, node.output? index = some name ∧
      tensorName name before = (.ok identifier, after) := by
  rw [outputName] at run
  cases found : node.output? index with
  | none =>
      rw [found] at run
      cases run
  | some name =>
      rw [found] at run
      exact ⟨name, rfl, run⟩

/-- A value that is read is the variable or the constant of its name. -/
theorem Setting.read_eq_ok {name : String} {value : Expression}
    (run : setting.read owner name before = (.ok value, after))
    (later : after.naming.Grows naming) :
    Reading setting naming before [name] value.reads after ∧
      value.uncloned = setting.named naming.identifier (.var name false) := by
  rw [Setting.read] at run
  have grows := before.naming.grows_tensor name
  cases found : setting.initializer? name with
  | none =>
      rw [found] at run
      dsimp only at run
      rw [readVariable_run] at run
      cases run
      have same := later.identifier_tensor
      refine ⟨⟨grows, ?known, rfl, rfl, ?constants, ?uses⟩, ?value⟩
      case known => exact List.forall_mem_singleton.mpr later.knows_tensor
      case constants => simp [addRead, found]
      case uses => simp [schedule, isInitializer, found, Uses.consumeAll, same, Expression.reads]
      case value => simp [named, isInitializer, found, same, Expression.uncloned]
  | some tensor =>
      rw [found] at run
      dsimp only at run
      cases kinds : kindOf owner name tensor with
      | error fault =>
          rw [kinds] at run
          cases run
      | ok kind =>
          rw [kinds] at run
          dsimp only at run
          rw [readConstant_run] at run
          cases run
          obtain rfl := kindOf_eq_ok kinds
          have same := later.identifier_tensor
          refine ⟨⟨grows, ?known, rfl, rfl, ?constants, ?uses⟩, ?value⟩
          case known => exact List.forall_mem_singleton.mpr later.knows_tensor
          case constants => simp [addRead, found, same]
          case uses => simp [schedule, isInitializer, found, Uses.consumeAll, Expression.reads]
          case value => simp [named, isInitializer, found, same, Expression.uncloned]

/-! ## Expressions and lists -/

/-- An expression over names becomes the one in which their values take the place of the
names. -/
theorem Setting.instantiate_eq_ok {template value : Expression}
    (run : setting.instantiate owner template before = (.ok value, after))
    (later : after.naming.Grows naming) :
    Reading setting naming before template.names value.reads after ∧
      value.uncloned = setting.named naming.identifier template := by
  induction template generalizing before after value with
  | var name cloned => exact read_eq_ok run later
  | constant field =>
      cases run
      exact ⟨.nil, rfl⟩
  | toInt operand ih =>
      rcases bind_pure_eq_ok.mp run with ⟨inner, read, rfl⟩
      exact (ih read later).imp_right (congrArg Expression.toInt)
  | max operand ih =>
      rcases bind_pure_eq_ok.mp run with ⟨inner, read, rfl⟩
      exact (ih read later).imp_right (congrArg Expression.max)
  | sum operand ih =>
      rcases bind_pure_eq_ok.mp run with ⟨inner, read, rfl⟩
      exact (ih read later).imp_right (congrArg Expression.sum)
  | sumAlong operand axis ih =>
      rcases bind_pure_eq_ok.mp run with ⟨inner, read, rfl⟩
      exact (ih read later).imp_right (congrArg (Expression.sumAlong · axis))
  | squeeze operand rank axes ih =>
      rcases bind_pure_eq_ok.mp run with ⟨inner, read, rfl⟩
      exact (ih read later).imp_right (congrArg (Expression.squeeze · rank axes))
  | select operand axis index ihOperand ihIndex =>
      rcases bind_eq_ok.mp run with ⟨inner, between, readOperand, following⟩
      rcases bind_pure_eq_ok.mp following with ⟨places, readIndex, rfl⟩
      have ⟨late, sameIndex⟩ := ihIndex readIndex later
      have ⟨early, sameOperand⟩ := ihOperand readOperand (late.grows.trans later)
      have reading := early.append late
      rw [Expression.names, Expression.names, ← List.map_append] at reading
      exact ⟨reading, by rw [Expression.uncloned, sameOperand, sameIndex, named]⟩
  | take operand indexRank rank axis index ihOperand ihIndex =>
      rcases bind_eq_ok.mp run with ⟨inner, between, readOperand, following⟩
      rcases bind_pure_eq_ok.mp following with ⟨places, readIndex, rfl⟩
      have ⟨late, sameIndex⟩ := ihIndex readIndex later
      have ⟨early, sameOperand⟩ := ihOperand readOperand (late.grows.trans later)
      have reading := early.append late
      rw [Expression.names, Expression.names, ← List.map_append] at reading
      exact ⟨reading, by rw [Expression.uncloned, sameOperand, sameIndex, named]⟩
  | embed layer index ih =>
      rcases bind_pure_eq_ok.mp run with ⟨inner, read, rfl⟩
      exact (ih read later).imp_right (congrArg (Expression.embed layer))

/-- Values that are read one after the other. -/
theorem Setting.mapM_read_eq_ok {infos : List ValueInfo} {values : List Expression}
    (run : (infos.mapM fun info => setting.read owner info.name) before = (.ok values, after))
    (later : after.naming.Grows naming) :
    Reading setting naming before (infos.map (·.name)) (values.flatMap Expression.reads) after ∧
      values.map Expression.uncloned =
        infos.map fun info => setting.named naming.identifier (.var info.name false) := by
  induction infos generalizing before values with
  | nil =>
      cases run
      exact ⟨.nil, rfl⟩
  | cons info rest ih =>
      rcases mapM_cons_eq_ok.mp run with ⟨value, others, between, first, following, rfl⟩
      have ⟨late, sameRest⟩ := ih following
      have ⟨early, same⟩ := read_eq_ok first (late.grows.trans later)
      exact ⟨early.append late, by rw [List.map_cons, List.map_cons, same, sameRest]⟩

/-! ## What can be read -/

/-- A value that is made of one is found where that is. -/
theorem exists_bind_pure_iff {α β : Type} {attempt : Generation α} {build : α → β} :
    (∃ value, (attempt >>= fun part => pure (build part)) before = (.ok value, after)) ↔
      ∃ part, attempt before = (.ok part, after) := by
  simp only [bind_pure_eq_ok]
  constructor
  · rintro ⟨_, part, found, _⟩
    exact ⟨part, found⟩
  · rintro ⟨part, found⟩
    exact ⟨build part, part, found, rfl⟩

/-- A value that is made of two is found where they are, one after the other. -/
theorem exists_bind_bind_pure_iff {α β γ : Type} {first : Generation α} {second : Generation β}
    {build : α → β → γ} :
    (∃ value, (first >>= fun part => second >>= fun other => pure (build part other)) before =
        (.ok value, after)) ↔
      ∃ between, (∃ part, first before = (.ok part, between)) ∧
        ∃ other, second between = (.ok other, after) := by
  constructor
  · rintro ⟨_, run⟩
    rcases bind_eq_ok.mp run with ⟨part, between, found, following⟩
    rcases bind_pure_eq_ok.mp following with ⟨other, also, _⟩
    exact ⟨between, ⟨part, found⟩, other, also⟩
  · rintro ⟨between, ⟨part, found⟩, other, also⟩
    exact ⟨_, bind_eq_ok.mpr ⟨part, between, found, bind_pure_eq_ok.mpr ⟨other, also, rfl⟩⟩⟩

namespace Setting

/-- Reads names in their order. -/
def readAll (setting : Setting) (owner : String) : List String → Generation Unit
  | [] => return ()
  | name :: rest => do
    discard (setting.read owner name)
    setting.readAll owner rest

theorem readAll_append_eq_ok {first second : List String} :
    setting.readAll owner (first ++ second) before = (.ok (), after) ↔
      ∃ between, setting.readAll owner first before = (.ok (), between) ∧
        setting.readAll owner second between = (.ok (), after) := by
  induction first generalizing before with
  | nil =>
      constructor
      · intro run
        exact ⟨before, rfl, run⟩
      · rintro ⟨between, started, run⟩
        cases started
        exact run
  | cons name rest ih =>
      rw [List.cons_append, readAll, readAll]
      constructor
      · intro run
        rcases bind_eq_ok.mp run with ⟨_, middle, found, following⟩
        rcases ih.mp following with ⟨between, others, remaining⟩
        exact ⟨between, bind_eq_ok.mpr ⟨_, middle, found, others⟩, remaining⟩
      · rintro ⟨between, run, remaining⟩
        rcases bind_eq_ok.mp run with ⟨_, middle, found, others⟩
        exact bind_eq_ok.mpr ⟨_, middle, found, ih.mpr ⟨between, others, remaining⟩⟩

/-- An expression can be read where its names can. -/
theorem exists_instantiate_iff {template : Expression} :
    (∃ value, setting.instantiate owner template before = (.ok value, after)) ↔
      setting.readAll owner template.names before = (.ok (), after) := by
  induction template generalizing before after with
  | var name cloned =>
      rw [Expression.names_var, readAll, readAll, instantiate]
      constructor
      · rintro ⟨value, run⟩
        exact bind_eq_ok.mpr ⟨(), after, bind_pure_eq_ok.mpr ⟨value, run, rfl⟩, rfl⟩
      · intro run
        rcases bind_eq_ok.mp run with ⟨_, between, read, done⟩
        rcases bind_pure_eq_ok.mp read with ⟨value, found, _⟩
        cases done
        exact ⟨value, found⟩
  | constant field =>
      constructor
      · rintro ⟨value, run⟩
        cases run
        rfl
      · intro run
        cases run
        exact ⟨_, rfl⟩
  | toInt operand ih => exact exists_bind_pure_iff.trans ih
  | max operand ih => exact exists_bind_pure_iff.trans ih
  | sum operand ih => exact exists_bind_pure_iff.trans ih
  | sumAlong operand axis ih => exact exists_bind_pure_iff.trans ih
  | squeeze operand rank axes ih => exact exists_bind_pure_iff.trans ih
  | select operand axis index ihOperand ihIndex =>
      rw [Expression.names_select, readAll_append_eq_ok]
      refine exists_bind_bind_pure_iff.trans (exists_congr fun between => ?_)
      rw [ihOperand, ihIndex]
  | take operand indexRank rank axis index ihOperand ihIndex =>
      rw [Expression.names_take, readAll_append_eq_ok]
      refine exists_bind_bind_pure_iff.trans (exists_congr fun between => ?_)
      rw [ihOperand, ihIndex]
  | embed layer index ih => exact exists_bind_pure_iff.trans ih

end Setting

end OnnxForge.Network
