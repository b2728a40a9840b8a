import OnnxForge.Proofs.Build.Record
import OnnxForge.Proofs.Graph.Tensors

/-!
# How many elements a shape asks for

A shape asks for as many elements as the product of its sizes tells, a natural number. Readers
and builders compare the length of a payload with the product that words of 64 bits have. In a
program that lets products wrap around, that is the remainder of the number: where the product
fits a word, what is taken is complete, even if the product of some of the sizes does not fit,
and where it does not fit, a tensor with the remainder of the elements is taken, which exists
for every shape. A program that stops at such a product takes complete tensors alone; it does
not refuse the others, but comes to an end on them.
-/

namespace OnnxForge

/-! ## A tensor for every shape -/

/-- A payload of so many elements that are zero, false or empty. -/
def Payload.blank (elementType : ElementType) (count : Nat) : Payload :=
  match elementType with
  | .float16 => .float16 (List.replicate count 0)
  | .float32 => .float32 (List.replicate count 0)
  | .float64 => .float64 (List.replicate count 0)
  | .int8 | .int16 | .int32 | .uint8 | .uint16 => .int32 (List.replicate count 0)
  | .int64 => .int64 (List.replicate count 0)
  | .bool => .bool (List.replicate count false)
  | .string => .string (List.replicate count "")

theorem Payload.fits_blank (elementType : ElementType) (count : Nat) :
    (blank elementType count).fits elementType = true := by
  cases elementType <;> rfl

theorem Payload.length_blank (elementType : ElementType) (count : Nat) :
    (blank elementType count).length = count := by
  cases elementType <;> exact List.length_replicate

namespace Tensor

open Build

/-- The tensor of a shape with as many elements as the product of its sizes is as a word. -/
def blank (elementType : ElementType) (shape : Shape) : Tensor :=
  ⟨elementType, shape, .blank elementType shape.size.toNat⟩

theorem blank_consistent (elementType : ElementType) (shape : Shape) :
    (blank elementType shape).consistent? .wraps = some true :=
  consistent?_eq_some_true_iff.mpr
    ⟨shape.passable_wraps, Payload.length_blank elementType shape.size.toNat⟩

theorem blank_wellFormed (elementType : ElementType) {shape : Shape}
    (small : ∀ size ∈ shape, size.toNat < Nat.pow 2 63) :
    (blank elementType shape).WellFormed .wraps :=
  ⟨Payload.fits_blank elementType _, blank_consistent elementType shape, small⟩

/-! ## Taking tensors -/

/-- A tensor is taken: it is read of a message, found to be complete, added to inputs of a node
that are being staged, or kept as an initializer of a graph. -/
inductive Taken (overflow : Overflow) (tensor : Tensor) : Prop
  | read {message : Message.Tensor} (accepted : read overflow message = .ok tensor)
  | complete (consistent : tensor.consistent? overflow = some true)
  | staged {before after : Staging}
      (added : Collecting.addArray overflow tensor before = (.ok (), after))
  | kept {before after : Builder} {name : String}
      (added : Building.addInitializer overflow tensor before = (.ok name, after))

variable {overflow : Overflow} {tensor : Tensor}

/-- One check stands behind all ways to take a tensor. -/
theorem Taken.consistent (taken : tensor.Taken overflow) :
    tensor.consistent? overflow = some true := by
  cases taken with
  | read accepted => exact (wellFormed_of_read accepted).consistent
  | complete consistent => exact consistent
  | staged added | kept added =>
      rcases Attempt.bind_eq_ok.mp added with ⟨_, _, checked, _⟩
      exact checkArray_eq_ok_iff.mp (Attempt.ofExcept_eq_ok.mp checked).1

end Tensor

namespace Build

open Attempt

variable {overflow : Overflow} {tensor : Tensor}

theorem Collecting.exists_addArray (consistent : tensor.consistent? overflow = some true)
    (before : Staging) : ∃ after, addArray overflow tensor before = (.ok (), after) :=
  ⟨_, bind_eq_ok.mpr
    ⟨(), before, ofExcept_eq_ok.mpr ⟨checkArray_eq_ok_iff.mpr consistent, rfl⟩, rfl⟩⟩

theorem Building.exists_addInitializer (consistent : tensor.consistent? overflow = some true)
    (before : Builder) :
    ∃ name after, addInitializer overflow tensor before = (.ok name, after) :=
  ⟨_, _, bind_eq_ok.mpr
    ⟨(), before, ofExcept_eq_ok.mpr ⟨checkArray_eq_ok_iff.mpr consistent, rfl⟩, rfl⟩⟩

end Build

/-! ## Complete tensors -/

namespace Tensor

open Build

/-- In a program that wraps products around, what is taken of a shape has as many elements as
the remainder of the product of its sizes tells. These are as many as the shape asks for exactly
if a word can be that product, however large the product of some of the sizes is. Beyond words
the check is of no avail: of every such shape and every element type there is a tensor with too
few elements that is read of its own message, that can be staged as an input at all times, and
that every builder takes as an initializer. A program that stops at products that are no words
takes a tensor only with as many elements as its shape asks for, as an array of a session too;
the tensors with too few elements it does not refuse for their number, since it stops at their
sizes. -/
theorem sizes_exact_iff (elementType : ElementType) (shape : Shape) :
    (∀ tensor : Tensor, tensor.Taken .wraps → tensor.shape = shape →
      tensor.payload.length = shape.count % Nat.pow 2 64 ∧
        (tensor.payload.length = shape.count ↔ shape.count < Nat.pow 2 64)) ∧
    ((∀ size ∈ shape, size.toNat < Nat.pow 2 63) → Nat.pow 2 64 ≤ shape.count →
      ∃ tensor : Tensor, tensor.elementType = elementType ∧ tensor.shape = shape ∧
        tensor.payload.length < shape.count ∧
        (∀ name, read .wraps (tensor.toMessage name) = .ok tensor) ∧
        (∀ before, ∃ after, Collecting.addArray .wraps tensor before = (.ok (), after)) ∧
        (∀ before, ∃ name after,
          Building.addInitializer .wraps tensor before = (.ok name, after)) ∧
        ∀ name,
          ofMessage (tensor.toMessage name) = .error (.invalidTensor name .overflow)) ∧
    (∀ tensor : Tensor, tensor.Taken .stops → tensor.payload.length = tensor.shape.count) ∧
    ∀ (catalogue : Catalogue) (calls : List Call),
      ∀ array ∈ ((Session.start catalogue).record calls).arrays,
        array.payload.length = array.shape.count := by
  refine ⟨?_, ?_, fun tensor taken => length_eq_count taken.consistent, ?_⟩
  · rintro tensor taken rfl
    have length := (consistent?_eq_some_true_iff.mp taken.consistent).2
    rw [length]
    exact ⟨tensor.shape.toNat_size, tensor.shape.toNat_size_eq_count_iff⟩
  · intro small large
    have consistent := blank_consistent elementType shape
    have length : (blank elementType shape).payload.length = shape.size.toNat :=
      Payload.length_blank elementType _
    have fewer : (blank elementType shape).payload.length < shape.count :=
      length ▸ Nat.lt_of_lt_of_le shape.size.toNat_lt large
    refine ⟨blank elementType shape, rfl, rfl, fewer,
      fun name => (blank_wellFormed elementType small).read_toMessage name,
      Collecting.exists_addArray consistent, Building.exists_addInitializer consistent,
      fun name => read_toMessage_of_not_passable name (Payload.fits_blank elementType _) small
        fun passable => Nat.not_lt.mpr large passable.count_lt⟩
  · intro catalogue calls array member
    exact length_eq_count
      (consistent_iff.mp ((Session.recorded_start catalogue calls).consistent array member))

/-- A shape with a size of zero asks for no elements, though the product of its other sizes is
no word. Truth values for a square of two to the power of 33 are too few. -/
theorem sizes_exact_of_squares :
    let hollow : Tensor := ⟨.int64, [1099511627776, 1099511627776, 0], .int64 []⟩
    let square : Shape := [8589934592, 8589934592]
    hollow.payload.length = hollow.shape.count ∧
    ∃ tensor : Tensor, tensor.elementType = .bool ∧ tensor.shape = square ∧
      tensor.payload.length < square.count := by
  intro hollow square
  have taken : hollow.Taken .wraps := .complete (by decide)
  refine ⟨((sizes_exact_iff .int64 hollow.shape).1 hollow taken rfl).2.mpr (by decide), ?_⟩
  have small : ∀ size ∈ square, size.toNat < Nat.pow 2 63 :=
    List.forall_mem_cons.mpr ⟨by decide, List.forall_mem_singleton.mpr (by decide)⟩
  rcases (sizes_exact_iff .bool square).2.1 small (by decide) with
    ⟨tensor, type, shape, fewer, _⟩
  exact ⟨tensor, type, shape, fewer⟩

/-- A message of a shape whose product is two to the power of 64. -/
def wideMessage : Message.Tensor :=
  { name := "wide", dims := [4294967296, 4294967296], dataType := 1 }

/-- Where products wrap around, the message without elements is read, so it is not so that
whatever is taken has as many elements as its shape asks for. A program that stops there does
not find that elements are missing either. -/
theorem wide_without_elements :
    read .wraps wideMessage = .ok ⟨.float32, [4294967296, 4294967296], .float32 []⟩ ∧
    ofMessage wideMessage = .error (.invalidTensor "wide" .overflow) ∧
    Shape.count [4294967296, 4294967296] = Nat.pow 2 64 ∧
    ¬ ∀ tensor : Tensor, tensor.Taken .wraps → tensor.payload.length = tensor.shape.count := by
  have accepted : read .wraps wideMessage =
      .ok ⟨.float32, [4294967296, 4294967296], .float32 []⟩ := by
    decide +kernel
  refine ⟨accepted, by decide +kernel, by decide, fun complete => ?_⟩
  have none : 0 = Shape.count [4294967296, 4294967296] := complete _ (.read accepted)
  exact absurd none (by decide)

end Tensor

end OnnxForge
