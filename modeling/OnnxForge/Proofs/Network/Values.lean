import OnnxForge.Proofs.Grid
import OnnxForge.Proofs.Network.Proper

/-!
# Values of expressions

What the operations of generated code compute. The value of an expression is a grid, once the
values of variables, constants and layers are given; there is none if an operation cannot be
applied. The arithmetic of the elements is a parameter, since every machine that runs the code
has its own.
-/

namespace OnnxForge.Network

open Attempt

/-! ## Operations -/

/-- How the elements of tensors are computed with. -/
structure Arithmetic (α : Type) where
  sum : List α → α
  /-- The largest of some elements, if there are any. -/
  largest? : List α → Option α
  /-- An element as an integer. -/
  toInt : α → α
  /-- The position that an element stands for in an index. -/
  position? : α → Option Nat

/-- The arithmetic of integers. Negative ones are no positions. -/
def Arithmetic.integers : Arithmetic Int where
  sum elements := elements.foldr (· + ·) 0
  largest? := List.max?
  toInt := id
  position? := Int.toNat?

namespace Arithmetic

variable {α : Type} (arithmetic : Arithmetic α)

/-- The elements as integers. -/
def integral (grid : Grid α) : Grid α :=
  ⟨grid.shape, grid.elements.map arithmetic.toInt, (List.length_map _).trans grid.complete⟩

/-- The largest element, in a vector. -/
def maximum? (grid : Grid α) : Option (Grid α) :=
  (arithmetic.largest? grid.elements).map fun element => ⟨[1], [element], rfl⟩

/-- The sum of all elements, in a vector. -/
def total (grid : Grid α) : Grid α :=
  ⟨[1], [arithmetic.sum grid.elements], rfl⟩

/-- The sums along an axis, which stays with one position. -/
def sumAlong? (grid : Grid α) (axis : Nat) : Option (Grid α) :=
  grid.shape[axis]?.map fun size =>
    Grid.ofCells (grid.shape.set axis 1) fun cell =>
      arithmetic.sum
        ((List.range size).filterMap fun coordinate => grid.at? (cell.set axis coordinate))

/-- The slices at the positions along an axis that a vector lists. -/
def select? (grid : Grid α) (axis : Nat) (index : Grid α) : Option (Grid α) :=
  if index.rank = 1 ∧ axis < grid.rank then
    Grid.ofCells? (grid.shape.set axis index.elements.length) fun cell => do
      let entry ← index.elements[← cell[axis]?]?
      grid.at? (cell.set axis (← arithmetic.position? entry))
  else none

/-- The slices at the positions along an axis that a tensor lists: those that its elements
list as a vector, arranged as the tensor is. -/
def take? (grid : Grid α) (axis : Nat) (index : Grid α) : Option (Grid α) := do
  let slices ← arithmetic.select? grid axis index.flat
  slices.reshape? (grid.shape.take axis ++ index.shape ++ grid.shape.drop (axis + 1))

/-- The rows of a table that a matrix lists. -/
def rows? (table index : Grid α) : Option (Grid α) :=
  if table.rank = 2 ∧ index.rank = 2 then
    Grid.ofCells? (index.shape ++ table.shape.drop 1) fun cell => do
      let entry ← index.at? (cell.take 2)
      table.at? ((← arithmetic.position? entry) :: cell.drop 2)
  else none

end Arithmetic

/-- A tensor of that rank without the given axes, each of which has one position. -/
def squeeze? {α : Type} (grid : Grid α) (rank : Nat) (axes : List Nat) : Option (Grid α) :=
  if axes.Nodup ∧ (∀ axis ∈ axes, grid.shape[axis]? = some 1) ∧
      rank = grid.rank - axes.length ∧ 1 ≤ rank then
    grid.reshape? (collapse axes none 0 grid.shape)
  else none

/-! ## Expressions -/

/-- The values that generated code finds. -/
structure Environment (α : Type) where
  localValue? : String → Option (Grid α)
  constantValue? : String → Option (Grid α)
  /-- The tables of layers. -/
  table? : String → Option (Grid α)

variable {α : Type} {arithmetic : Arithmetic α} {environment : Environment α}

/-- The value of an expression, if all of its operations can be applied. -/
def Expression.value? (arithmetic : Arithmetic α) (environment : Environment α) :
    Expression → Option (Grid α)
  | .var name _ => environment.localValue? name
  | .constant field => environment.constantValue? field
  | .toInt operand => (operand.value? arithmetic environment).map arithmetic.integral
  | .max operand => operand.value? arithmetic environment >>= arithmetic.maximum?
  | .sum operand => (operand.value? arithmetic environment).map arithmetic.total
  | .sumAlong operand axis => do arithmetic.sumAlong? (← operand.value? arithmetic environment) axis
  | .squeeze operand rank axes => do squeeze? (← operand.value? arithmetic environment) rank axes
  | .select operand axis index => do
    let grid ← operand.value? arithmetic environment
    arithmetic.select? grid axis (← index.value? arithmetic environment)
  | .take operand indexRank rank axis index => do
    let grid ← operand.value? arithmetic environment
    let positions ← index.value? arithmetic environment
    if positions.rank = indexRank ∧ rank = grid.rank - 1 + indexRank then
      arithmetic.take? grid axis positions
    else none
  | .embed layer index => do
    let table ← environment.table? layer
    arithmetic.rows? table (← index.value? arithmetic environment)

/-- Clones have no say in values. -/
theorem Expression.value?_uncloned (expression : Expression) :
    expression.uncloned.value? arithmetic environment =
      expression.value? arithmetic environment := by
  induction expression <;> simp_all only [uncloned, value?]

/-- Whether an expression over names has that value, once their identifiers take the place of
the names. -/
def Environment.Gives (environment : Environment α) (arithmetic : Arithmetic α)
    (setting : Setting) (naming : Naming) (template : Expression) (value : Grid α) : Prop :=
  (setting.named naming.identifier template).value? arithmetic environment = some value

/-! ## Code of plans -/

variable {setting : Setting} {owner : String} {before : Progress}

/-- Whether a name stands for texts, which have no place in generated code. -/
def Setting.HoldsTexts (setting : Setting) (name : String) : Prop :=
  ∃ tensor, setting.initializer? name = some tensor ∧ tensor.elementType = .string

theorem Setting.exists_read (owner : String) (before : Progress) {name : String}
    (numeric : ¬setting.HoldsTexts name) :
    ∃ value after, setting.read owner name before = (.ok value, after) := by
  rw [read]
  cases found : setting.initializer? name with
  | none => exact ⟨_, _, rfl⟩
  | some tensor =>
      have noTexts : tensor.elementType ≠ .string := fun texts => numeric ⟨tensor, found, texts⟩
      dsimp only
      rw [kindOf, if_neg noTexts]
      exact ⟨_, _, rfl⟩

theorem Setting.exists_readAll {names : List String}
    (numeric : ∀ name ∈ names, ¬setting.HoldsTexts name) :
    ∃ after, setting.readAll owner names before = (.ok (), after) := by
  induction names generalizing before with
  | nil => exact ⟨before, rfl⟩
  | cons name rest ih =>
      have ⟨first, others⟩ := List.forall_mem_cons.mp numeric
      rcases setting.exists_read owner before first with ⟨value, between, found⟩
      rcases ih others with ⟨after, remaining⟩
      exact ⟨after, bind_eq_ok.mpr ⟨_, between, bind_pure_eq_ok.mpr ⟨value, found, rfl⟩, remaining⟩⟩

/-- A node whose plan reads no texts becomes code that computes what the plan says, over
variables with proper names. -/
theorem Planned.exists_generate {generator : Generator} {node : Node} {output : String}
    {template : Expression} {known : Inferred}
    (planned : Planned setting before.inferred node generator (.plain template known))
    (hasOutput : node.output? 0 = some output)
    (numeric : ∀ name ∈ template.names, ¬setting.HoldsTexts name) :
    ∃ value after, generator.generate setting node before =
        (.ok ⟨none, ⟨after.naming.identifier output, value⟩⟩, after) ∧
      value.uncloned = setting.named after.naming.identifier template ∧
      (before.naming.Proper →
        after.naming.Proper ∧ ∀ name ∈ value.names, Identifier.Proper name) := by
  rcases setting.exists_readAll numeric with ⟨between, readable⟩
  rcases Setting.exists_instantiate_iff.mpr readable with ⟨_, read⟩
  obtain ⟨code, after, performed⟩ : ∃ code after,
      (Plan.plain template known).perform setting node before = (.ok code, after) :=
    ⟨_, _, bind_eq_ok.mpr ⟨_, between, read, finish_eq_ok.mpr ⟨output, hasOutput, rfl, rfl⟩⟩⟩
  rcases Plan.perform_eq_ok performed (.refl _) with ⟨other, found, step⟩
  cases hasOutput.symm.trans found
  rcases code with ⟨layer, name, value⟩
  cases step.yields with
  | plain same =>
      exact ⟨value, after, Generator.generate_eq_ok.mpr ⟨_, planned.plan_eq, performed⟩, same,
        fun proper =>
          ⟨Plan.perform_proper performed proper, Plan.names_proper performed proper⟩⟩

end OnnxForge.Network
