import OnnxForge.Tensor

/-!
# Scalars

The elements of a tensor one by one, whatever representation its payload keeps them in.
-/

namespace OnnxForge

/-- An element of a payload. Floating point numbers are bit patterns. -/
inductive Scalar
  | float16 (bits : UInt16)
  | float32 (bits : UInt32)
  | float64 (bits : UInt64)
  | int32 (value : Int32)
  | int64 (value : Int64)
  | bool (value : Bool)
  | string (value : String)
deriving DecidableEq

namespace Payload

/-- The elements of a payload, in order. -/
def scalars : Payload → List Scalar
  | .float16 bits => bits.map .float16
  | .float32 bits => bits.map .float32
  | .float64 bits => bits.map .float64
  | .int32 values => values.map .int32
  | .int64 values => values.map .int64
  | .bool values => values.map .bool
  | .string values => values.map .string

@[simp]
theorem length_scalars (payload : Payload) : payload.scalars.length = payload.length := by
  cases payload <;> exact List.length_map _

end Payload

end OnnxForge
