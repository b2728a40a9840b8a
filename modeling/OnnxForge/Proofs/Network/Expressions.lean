import OnnxForge.Network.Generation

/-!
# What expressions read

The variables, constants and layers that an expression reads, in the order in which it is
evaluated. An expression over names of tensors becomes one of generated code when each name
is replaced by the variable or the constant that carries the tensor.
-/

namespace OnnxForge.Network

namespace Expression

/-! ## Reads -/

/-- The variables read, each with whether it is cloned. -/
def reads : Expression → List (String × Bool)
  | .var name cloned => [(name, cloned)]
  | .constant _ => []
  | .toInt operand | .max operand | .sum operand => operand.reads
  | .sumAlong operand _ | .squeeze operand _ _ => operand.reads
  | .select operand _ index | .take operand _ _ _ index => operand.reads ++ index.reads
  | .embed _ index => index.reads

/-- The constant fields read. -/
def constants : Expression → List String
  | .var _ _ => []
  | .constant field => [field]
  | .toInt operand | .max operand | .sum operand => operand.constants
  | .sumAlong operand _ | .squeeze operand _ _ => operand.constants
  | .select operand _ index | .take operand _ _ _ index => operand.constants ++ index.constants
  | .embed _ index => index.constants

/-- The layers used. -/
def layers : Expression → List String
  | .var _ _ | .constant _ => []
  | .toInt operand | .max operand | .sum operand => operand.layers
  | .sumAlong operand _ | .squeeze operand _ _ => operand.layers
  | .select operand _ index | .take operand _ _ _ index => operand.layers ++ index.layers
  | .embed layer index => layer :: index.layers

/-- The names of the variables read. -/
def names (expression : Expression) : List String :=
  expression.reads.map (·.1)

/-- The expression without its clones. -/
def uncloned : Expression → Expression
  | .var name _ => .var name false
  | .constant field => .constant field
  | .toInt operand => .toInt operand.uncloned
  | .max operand => .max operand.uncloned
  | .sum operand => .sum operand.uncloned
  | .sumAlong operand axis => .sumAlong operand.uncloned axis
  | .squeeze operand rank axes => .squeeze operand.uncloned rank axes
  | .select operand axis index => .select operand.uncloned axis index.uncloned
  | .take operand indexRank rank axis index =>
    .take operand.uncloned indexRank rank axis index.uncloned
  | .embed layer index => .embed layer index.uncloned

@[simp]
theorem names_var (name : String) (cloned : Bool) : (Expression.var name cloned).names = [name] :=
  rfl

theorem names_select (operand : Expression) (axis : Nat) (index : Expression) :
    (Expression.select operand axis index).names = operand.names ++ index.names :=
  List.map_append

theorem names_take (operand : Expression) (indexRank rank axis : Nat) (index : Expression) :
    (Expression.take operand indexRank rank axis index).names = operand.names ++ index.names :=
  List.map_append

@[simp]
theorem names_uncloned (expression : Expression) :
    expression.uncloned.names = expression.names := by
  induction expression <;> simp_all [uncloned, names, reads]

@[simp]
theorem constants_uncloned (expression : Expression) :
    expression.uncloned.constants = expression.constants := by
  induction expression <;> simp_all [uncloned, constants]

@[simp]
theorem layers_uncloned (expression : Expression) :
    expression.uncloned.layers = expression.layers := by
  induction expression <;> simp_all [uncloned, layers]

/-- Only names of variables and no fields are read. -/
structure OverNames (expression : Expression) : Prop where
  constants : expression.constants = []
  layers : expression.layers = []

end Expression

/-! ## Names in place of values -/

namespace Setting

/-- Whether a name stands for a tensor known in advance. -/
def isInitializer (setting : Setting) (name : String) : Bool :=
  (setting.initializer? name).isSome

/-- The expression in which the identifiers of its names take the place of the names. -/
def named (setting : Setting) (identifier : String → String) : Expression → Expression
  | .var name _ =>
    if setting.isInitializer name then .constant (identifier name)
    else .var (identifier name) false
  | .constant field => .constant field
  | .toInt operand => .toInt (setting.named identifier operand)
  | .max operand => .max (setting.named identifier operand)
  | .sum operand => .sum (setting.named identifier operand)
  | .sumAlong operand axis => .sumAlong (setting.named identifier operand) axis
  | .squeeze operand rank axes => .squeeze (setting.named identifier operand) rank axes
  | .select operand axis index =>
    .select (setting.named identifier operand) axis (setting.named identifier index)
  | .take operand indexRank rank axis index =>
    .take (setting.named identifier operand) indexRank rank axis
      (setting.named identifier index)
  | .embed layer index => .embed layer (setting.named identifier index)

variable (setting : Setting) (identifier : String → String)

/-- The names that are computed become variables. -/
theorem names_named (expression : Expression) :
    (setting.named identifier expression).names =
      (expression.names.filter fun name => !setting.isInitializer name).map identifier := by
  induction expression with
  | var name cloned =>
      by_cases known : setting.isInitializer name <;>
        simp [named, Expression.names, Expression.reads, known]
  | _ => simp_all [named, Expression.names, Expression.reads]

/-- The names of initializers become constants. -/
theorem constants_named {expression : Expression} (none : expression.constants = []) :
    (setting.named identifier expression).constants =
      (expression.names.filter setting.isInitializer).map identifier := by
  induction expression with
  | var name cloned =>
      by_cases known : setting.isInitializer name <;>
        simp [named, Expression.names, Expression.reads, Expression.constants, known]
  | constant field => cases none
  | _ => simp_all [named, Expression.names, Expression.reads, Expression.constants]

@[simp]
theorem layers_named (expression : Expression) :
    (setting.named identifier expression).layers = expression.layers := by
  induction expression with
  | var name cloned =>
      by_cases known : setting.isInitializer name <;>
        simp [named, Expression.layers, known]
  | _ => simp_all [named, Expression.layers]

end Setting

/-! ## Reads of networks -/

/-- The variables that the function of a network reads, in order, each with whether it is
cloned. -/
def reads (network : Network) : List (String × Bool) :=
  network.assignments.flatMap (·.value.reads) ++ network.returned.flatMap Expression.reads

end OnnxForge.Network
