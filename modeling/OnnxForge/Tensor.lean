import OnnxForge.ElementType
import OnnxForge.Text.Numeral

/-!
# Tensors

A dense tensor is an element type, a shape and a payload of elements in row-major
order. Element types of eight and sixteen bits share the payload of 32-bit
integers, each value extended to it. Sizes are words of 64 bits, and so is their
product. Where no word can be a product, the program stops, unless it is built to
let its arithmetic wrap around.
-/

namespace OnnxForge

/-- The sizes of a tensor along its axes. -/
abbrev Shape := List UInt64

/-- The elements of a tensor, by the representation they share. Floating point numbers
are bit patterns. -/
inductive Payload
  | float16 (bits : List UInt16)
  | float32 (bits : List UInt32)
  | float64 (bits : List UInt64)
  | int32 (values : List Int32)
  | int64 (values : List Int64)
  | bool (values : List Bool)
  | string (values : List String)
deriving DecidableEq

/-- The number of elements. -/
def Payload.length : Payload → Nat
  | .float16 bits => bits.length
  | .float32 bits => bits.length
  | .float64 bits => bits.length
  | .int32 values => values.length
  | .int64 values => values.length
  | .bool values => values.length
  | .string values => values.length

/-- Whether elements of that type are kept in that representation. -/
def Payload.fits : Payload → ElementType → Bool
  | .float16 _, .float16 => true
  | .float32 _, .float32 => true
  | .float64 _, .float64 => true
  | .int32 _, .int8 | .int32 _, .int16 | .int32 _, .int32 => true
  | .int32 _, .uint8 | .int32 _, .uint16 => true
  | .int64 _, .int64 => true
  | .bool _, .bool => true
  | .string _, .string => true
  | _, _ => false

/-- A dense tensor. -/
structure Tensor where
  elementType : ElementType
  shape : Shape
  payload : Payload
deriving DecidableEq

/-- What becomes of a product of words that no word of 64 bits can be. -/
inductive Overflow
  /-- The program stops there, as it does when built to check its arithmetic. -/
  | stops
  /-- The product wraps around, as it does in a release. -/
  | wraps
deriving DecidableEq

/-- The product of two words; none if the program stops there. -/
def Overflow.product? (overflow : Overflow) (left right : UInt64) : Option UInt64 :=
  match overflow with
  | .wraps => some (left * right)
  | .stops => if left.toNat * right.toNat < UInt64.size then some (left * right) else none

/-- The product of the sizes along all axes in their order; one for a scalar. -/
def Shape.size? (overflow : Overflow) (shape : Shape) : Option UInt64 :=
  shape.foldlM overflow.product? 1

/-- The product of the sizes as a word of 64 bits, where the program does not stop. -/
def Shape.size (shape : Shape) : UInt64 :=
  shape.foldl (· * ·) 1

/-- The sizes in brackets. -/
def Shape.text (shape : Shape) : String :=
  Text.bracketed (shape.map fun size => Text.natural size.toNat)

namespace Tensor

/-- The number of axes. -/
def rank (tensor : Tensor) : Nat :=
  tensor.shape.length

/-- Whether there are as many elements as the shape asks for; none if the program stops. -/
def consistent? (overflow : Overflow) (tensor : Tensor) : Option Bool :=
  (tensor.shape.size? overflow).map fun size => tensor.payload.length == size.toNat

/-- The program does not stop at the sizes, and there are as many elements as they ask for. -/
def consistent (tensor : Tensor) : Bool :=
  tensor.consistent? .stops == some true

/-- The elements of a tensor of whole numbers. -/
def integers? (tensor : Tensor) : Option (List Int64) :=
  match tensor.payload with
  | .int64 values => some values
  | .int32 values => some (values.map Int32.toInt64)
  | _ => none

end Tensor

/-- Elements of one machine type, as a caller has them. -/
inductive Elements
  | float16 (bits : List UInt16)
  | float32 (bits : List UInt32)
  | float64 (bits : List UInt64)
  | int8 (values : List Int8)
  | int16 (values : List Int16)
  | int32 (values : List Int32)
  | int64 (values : List Int64)
  | uint8 (values : List UInt8)
  | uint16 (values : List UInt16)
  | bool (values : List Bool)
  | string (values : List String)

namespace Elements

/-- The element type of the tensors made of these elements. -/
def elementType : Elements → ElementType
  | .float16 _ => .float16
  | .float32 _ => .float32
  | .float64 _ => .float64
  | .int8 _ => .int8
  | .int16 _ => .int16
  | .int32 _ => .int32
  | .int64 _ => .int64
  | .uint8 _ => .uint8
  | .uint16 _ => .uint16
  | .bool _ => .bool
  | .string _ => .string

/-- The elements in the representation that tensors keep. -/
def payload : Elements → Payload
  | .float16 bits => .float16 bits
  | .float32 bits => .float32 bits
  | .float64 bits => .float64 bits
  | .int8 values => .int32 (values.map Int8.toInt32)
  | .int16 values => .int32 (values.map Int16.toInt32)
  | .int32 values => .int32 values
  | .int64 values => .int64 values
  | .uint8 values => .int32 (values.map fun value => Int32.ofNat value.toNat)
  | .uint16 values => .int32 (values.map fun value => Int32.ofNat value.toNat)
  | .bool values => .bool values
  | .string values => .string values

end Elements

/-- The tensor of the given elements and shape, which need not agree. -/
def Tensor.ofElements (elements : Elements) (shape : Shape) : Tensor :=
  ⟨elements.elementType, shape, elements.payload⟩

end OnnxForge
