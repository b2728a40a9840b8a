import OnnxForge.Build.Error
import OnnxForge.Graph

/-!
# Numbers of outputs

A new node has the outputs that its schema declares, or a number of them that the
sizes of a split determine.
-/

namespace OnnxForge.Build

/-- The number of outputs of a new node. -/
inductive OutputCount
  | declared
  | exactly (count : Nat)
deriving DecidableEq

namespace OutputCount

/-- One output for each size in the array of a split. -/
def ofSplitInput : Option Argument → Except InputFault OutputCount
  | some (.array tensor) => .ok (.exactly tensor.payload.length)
  | some other => .error (.splitNotArray other)
  | none => .error .splitInputMissing

/-- One output for each size in the attribute of a split. -/
def ofSplitAttribute (attributes : Attributes) : Except InputFault OutputCount :=
  match attributes.get? "split" with
  | some (.ints sizes) => .ok (.exactly sizes.length)
  | some (.int _) => .ok (.exactly 1)
  | _ => .error .splitAttributeMissing

/-- The number in an attribute, which has to be positive. -/
def ofNumOutputs (attributes : Attributes) : Except InputFault OutputCount :=
  match (attributes.get? "num_outputs").bind AttributeValue.int? with
  | some count =>
    if 0 < count then .ok (.exactly count.toInt.toNat) else .error .splitCountMissing
  | none => .error .splitCountMissing

end OutputCount

end OnnxForge.Build
