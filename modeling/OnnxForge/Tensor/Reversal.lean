import OnnxForge.Tensor

/-!
# Reversal of axes

The tensor seen along its axes in reverse order, the transpose of a matrix in
general rank. The elements are read at the reversed indices, in row-major order of
the reversed shape.
-/

namespace OnnxForge

namespace Shape

/-- The indices into a shape, in row-major order. -/
def indices : List Nat → List (List Nat)
  | [] => [[]]
  | size :: rest =>
    (List.range size).flatMap fun first => (indices rest).map (first :: ·)

/-- The place of an index among the indices of a shape in row-major order. -/
def offset : (shape : List Nat) → (index : List Nat) → Nat
  | _ :: rest, first :: index => first * rest.prod + offset rest index
  | _, _ => 0

end Shape

/-- The elements of a row-major list, read with the axes in reverse order. -/
def reverseAxes {α : Type} (shape : List Nat) (elements : List α) : List α :=
  let table := elements.toArray
  (Shape.indices shape.reverse).filterMap fun index =>
    table[Shape.offset shape index.reverse]?

namespace Elements

/-- The same elements, read with the axes of the shape in reverse order. -/
def reverseAxes (shape : List Nat) : Elements → Elements
  | .float16 bits => .float16 (OnnxForge.reverseAxes shape bits)
  | .float32 bits => .float32 (OnnxForge.reverseAxes shape bits)
  | .float64 bits => .float64 (OnnxForge.reverseAxes shape bits)
  | .int8 values => .int8 (OnnxForge.reverseAxes shape values)
  | .int16 values => .int16 (OnnxForge.reverseAxes shape values)
  | .int32 values => .int32 (OnnxForge.reverseAxes shape values)
  | .int64 values => .int64 (OnnxForge.reverseAxes shape values)
  | .uint8 values => .uint8 (OnnxForge.reverseAxes shape values)
  | .uint16 values => .uint16 (OnnxForge.reverseAxes shape values)
  | .bool values => .bool (OnnxForge.reverseAxes shape values)
  | .string values => .string (OnnxForge.reverseAxes shape values)

end Elements

/-- The tensor of a row-major list of elements seen with its axes in reverse order. -/
def Tensor.ofReversed (elements : Elements) (shape : Shape) : Tensor :=
  .ofElements (elements.reverseAxes (shape.map UInt64.toNat)) shape.reverse

end OnnxForge
