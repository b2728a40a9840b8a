import OnnxForge.Proofs.Graph.RoundTrip

/-!
# Tensors from messages of others

Messages of others keep elements as raw octets, or in any mix of fields of which one counts.
What is read of such a message is in the representation that its element type asks for,
complete, and of sizes that a message can tell. That is all that a tensor needs to come back
from its own message, whose only elements are in the field that suits their type.
-/

namespace OnnxForge

namespace Payload

variable {elementType : ElementType} {payload : Payload}

theorem fits_of_ofFields {message : Message.Tensor}
    (read : ofFields elementType message = .ok payload) : payload.fits elementType = true := by
  cases elementType with
  | string =>
      simp only [ofFields] at read
      split at read <;> cases read
      rfl
  | _ =>
      cases read
      rfl

/-- Elements of words fit when the representation made of them does. -/
private theorem fits_of_rawWords {width : Nat} {octets : Bytes} {make : List Nat → Payload}
    (read : make <$> rawWords width octets = .ok payload)
    (made : ∀ words, (make words).fits elementType = true) : payload.fits elementType = true := by
  cases found : rawWords width octets with
  | error fault =>
      rw [found] at read
      cases read
  | ok words =>
      rw [found] at read
      cases read
      exact made words

theorem fits_of_ofRaw {octets : Bytes} (read : ofRaw elementType octets = .ok payload) :
    payload.fits elementType = true := by
  cases elementType with
  | string => cases read
  | int8 | uint8 | bool =>
      cases read
      rfl
  | _ => exact fits_of_rawWords read fun _ => rfl

end Payload

namespace Tensor

variable {overflow : Overflow} {tensor : Tensor}

/-- Numbers of a message that are not negative are sizes of 63 bits. -/
private theorem small_of_sizes {numbers : List Int64} (sizes : numbers.any (· < 0) = false) :
    ∀ size ∈ numbers.map Int64.toUInt64, size.toNat < Nat.pow 2 63 := by
  rw [List.forall_mem_map]
  intro number member
  have natural := List.any_eq_false.mp sizes number member
  rw [decide_eq_true_eq] at natural
  refine Nat.lt_of_not_le fun large => natural ?_
  have negative := (toInt64_neg_iff number.toUInt64).mpr large
  rwa [Int64.toInt64_toUInt64] at negative

/-- A payload that fits is kept in a well-formed tensor, or in none. -/
private theorem wellFormed_of_checked {elementType : ElementType} {numbers : List Int64}
    {payload : Payload} (sizes : numbers.any (· < 0) = false)
    (fits : payload.fits elementType = true)
    (complete : checked overflow ⟨elementType, numbers.map Int64.toUInt64, payload⟩ =
      .ok tensor) : tensor.WellFormed overflow := by
  rcases checked_eq_ok.mp complete with ⟨rfl, consistent⟩
  exact ⟨fits, consistent, small_of_sizes sizes⟩

/-- What is read of a message is well-formed, wherever its elements were kept. -/
theorem wellFormed_of_read {message : Message.Tensor}
    (accepted : read overflow message = .ok tensor) : tensor.WellFormed overflow := by
  rw [read, Attempt.outcome_bind_eq_ok] at accepted
  rcases accepted with ⟨elementType, _, contents⟩
  rw [mapError_eq_ok] at contents
  cases sizes : message.dims.any (· < 0) with
  | true =>
      rw [sizes] at contents
      cases contents
  | false =>
      rw [sizes] at contents
      rw [if_neg Bool.false_ne_true] at contents
      split at contents
      · rcases Attempt.outcome_bind_eq_ok.mp contents with ⟨payload, stored, complete⟩
        exact wellFormed_of_checked sizes (Payload.fits_of_ofFields stored) complete
      · rcases Attempt.outcome_bind_eq_ok.mp contents with ⟨payload, stored, complete⟩
        exact wellFormed_of_checked sizes (Payload.fits_of_ofRaw stored) complete

/-- What is read of a message, whatever fields hold its elements, is in the representation of
its element type and comes back from its own message under every name. So does every tensor
in the representation of its element type whose sizes are numbers of 63 bits and tell, as a
word, how many elements there are, if the program gets through them. -/
theorem messages_exact (overflow : Overflow) :
    (∀ message tensor, read overflow message = .ok tensor →
      tensor.payload.fits tensor.elementType = true ∧
        ∀ name, read overflow (tensor.toMessage name) = .ok tensor) ∧
    (∀ tensor : Tensor, tensor.payload.fits tensor.elementType = true →
      tensor.payload.length = (tensor.shape.map UInt64.toNat).prod % Nat.pow 2 64 →
      (overflow = .stops →
        ∀ taken, taken <+: tensor.shape → (taken.map UInt64.toNat).prod < Nat.pow 2 64) →
      (∀ size ∈ tensor.shape, size.toNat < Nat.pow 2 63) →
        ∀ name, read overflow (tensor.toMessage name) = .ok tensor) := by
  constructor
  · intro message tensor accepted
    have wellFormed := wellFormed_of_read accepted
    exact ⟨wellFormed.fits, fun name => wellFormed.read_toMessage name⟩
  · intro tensor fits complete passable small name
    have consistent : tensor.consistent? overflow = some true :=
      consistent?_eq_some_true_iff.mpr ⟨passable, complete.trans tensor.shape.toNat_size.symm⟩
    exact WellFormed.read_toMessage name ⟨fits, consistent, small⟩

/-- Half precision numbers as raw octets, one of them no number, beside elements that do not
count. -/
def rawHalves : Message.Tensor :=
  { name := "halves", dims := [2, 1], dataType := 10, int32Data := [7, 7, 7],
    floatData := [0], rawData := [0x01, 0x7E, 0x00, 0x3C] }

/-- Raw octets come back as half precision numbers, and a scalar that is no number as the one
it is. -/
theorem rawHalves_exact :
    ofMessage rawHalves = .ok ⟨.float16, [2, 1], .float16 [0x7E01, 0x3C00]⟩ ∧
    ofMessage ((⟨.float16, [2, 1], .float16 [0x7E01, 0x3C00]⟩ : Tensor).toMessage "other") =
      .ok ⟨.float16, [2, 1], .float16 [0x7E01, 0x3C00]⟩ ∧
    ofMessage ((⟨.float32, [], .float32 [0x7FC00001]⟩ : Tensor).toMessage "scalar") =
      .ok ⟨.float32, [], .float32 [0x7FC00001]⟩ := by
  have raw : ofMessage rawHalves = .ok ⟨.float16, [2, 1], .float16 [0x7E01, 0x3C00]⟩ := by
    decide +kernel
  have passable : ∀ taken : Shape, taken <+: [] →
      (taken.map UInt64.toNat).prod < Nat.pow 2 64 := by
    intro taken front
    rw [List.prefix_nil.mp front]
    decide
  exact ⟨raw, ((messages_exact .stops).1 rawHalves _ raw).2 "other",
    (messages_exact .stops).2 ⟨.float32, [], .float32 [0x7FC00001]⟩ rfl rfl
      (fun _ => passable) (fun _ member => absurd member List.not_mem_nil) "scalar"⟩

end Tensor

end OnnxForge
