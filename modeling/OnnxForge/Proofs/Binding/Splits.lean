import OnnxForge.Proofs.Binding.Dispatch
import OnnxForge.Proofs.Build.Conformity

/-!
# Outputs of splits

A split has one output for each of its sizes. Where the sizes come from has changed with the
versions of the operator: they were an attribute first, then an array, and by now their number
may stand in for them. The rules of the functions fall back from one source on another, and the
schemas refuse what a rule lets pass: attributes of another type, and splits into nothing. Both
together leave one number for each call.
-/

namespace OnnxForge

namespace Build.OutputCount

/-! ## Sources of the number -/

variable {count : OutputCount} {attributes : Attributes}

section Typed

variable (typed : ∀ value, attributes.get? "split" = some value → value.type = .ints)
include typed

end Typed

end Build.OutputCount

namespace Binding

open Build

/-- The sizes of a split are given, so many of them: since version 13 by the array in the second
place, or at version 18 without such an array by their number; before that by the attribute, or
at version 1 without the attribute by the array. -/
inductive SplitSizes (version : Int64) (arguments : List (Option Argument))
    (attributes : Attributes) : Nat → Prop
  | array {tensor : Tensor} (recent : 13 ≤ version)
      (passed : arguments[1]? = some (some (.array tensor))) :
      SplitSizes version arguments attributes tensor.payload.length
  | number {number : Int64} (latest : version = 18)
      (absent : ∀ tensor, arguments[1]? ≠ some (some (.array tensor)))
      (given : attributes.get? "num_outputs" = some (.int number)) (positive : 0 < number) :
      SplitSizes version arguments attributes number.toInt.toNat
  | listed {sizes : List Int64} (early : version < 13)
      (given : attributes.get? "split" = some (.ints sizes)) :
      SplitSizes version arguments attributes sizes.length
  | first {tensor : Tensor} (oldest : version = 1)
      (absent : attributes.get? "split" = none)
      (passed : arguments[1]? = some (some (.array tensor))) :
      SplitSizes version arguments attributes tensor.payload.length

variable {arguments : List (Option Argument)} {attributes : Attributes}

/-- There is one number of sizes at most, since one source excludes the others. -/
theorem SplitSizes.unique {version : Int64} {number other : Nat}
    (sizes : SplitSizes version arguments attributes number)
    (others : SplitSizes version arguments attributes other) : number = other := by
  cases sizes <;> cases others <;> grind

namespace Function

/-! ## Rules and sizes -/

section Rules

variable {count : OutputCount} {schema : Schema}

/-- A rule finds the number of the sizes that are given. -/
def Finds (schema : Schema) (arguments : List (Option Argument)) (attributes : Attributes) :
    Prop :=
  ∀ count, countOf schema arguments attributes = .ok count ↔
    ∃ number, SplitSizes schema.sinceVersion arguments attributes number ∧ count = .exactly number

end Rules

end Function

/-! ## Calls -/

section Splits

variable {before after : Builder} {node : Message.Node} {schema : Schema}

end Splits

end Binding

end OnnxForge
