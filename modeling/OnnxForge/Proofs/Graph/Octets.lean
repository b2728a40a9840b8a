import Mathlib.Data.List.Basic
import OnnxForge.Proofs.Graph.Tensors
import OnnxForge.Proofs.Wire

/-!
# Elements as raw octets

The same elements may be stored in a message in two ways: in the field that suits their type,
where small integers, truth values and half precision numbers are extended to words of 32 bits,
or as raw octets, each element in as many as its type is wide. Readers take both apart by rules
of their own and find the same payload, also where there are no elements and no octets either.
Octets that do not come out even are no elements.
-/

namespace OnnxForge

/-! ## Words of octets -/

namespace Bytes

theorem groups_flatMap {α : Type} {size : Nat} {write : α → Bytes} {items : List α}
    (even : ∀ item ∈ items, (write item).length = size) :
    groups size items.length (items.flatMap write) = items.map write := by
  induction items with
  | nil => rfl
  | cons item rest ih =>
      have ⟨first, others⟩ := List.forall_mem_cons.mp even
      rw [List.length_cons, groups, List.flatMap_cons, List.take_left' first,
        List.drop_left' first, ih others, List.map_cons]

/-- Words that are written one after the other are cut apart again. -/
theorem words?_flatMap_littleEndian {width : Nat} (positive : 0 < width) {words : List Nat}
    (fit : ∀ word ∈ words, word < Nat.pow 256 width) :
    words? width (words.flatMap (littleEndian width)) = some words := by
  have even : ∀ word ∈ words, (littleEndian width word).length = width :=
    fun word _ => length_littleEndian width word
  have count : (words.flatMap (littleEndian width)).length = words.length * width := by
    rw [List.length_flatMap, List.map_congr_left even, List.map_const', List.sum_replicate_nat]
  have restored : words.map (ofLittleEndian ∘ littleEndian width) = words.map id :=
    List.map_congr_left fun word member => ofLittleEndian_littleEndian (fit word member)
  rw [words?, count, if_pos (Nat.mul_mod_left _ _), Nat.mul_div_cancel _ positive,
    groups_flatMap even, List.map_map, restored, List.map_id]

/-- Octets are words of one octet. -/
theorem words?_one (octets : Bytes) : words? 1 octets = some (octets.map UInt8.toNat) := by
  have single : ∀ octets : Bytes,
      (groups 1 octets.length octets).map ofLittleEndian = octets.map UInt8.toNat := by
    intro octets
    induction octets with
    | nil => rfl
    | cons octet rest ih => exact congrArg (octet.toNat :: ·) ih
  rw [words?, if_pos (Nat.mod_one _), Nat.div_one, single]

end Bytes

/-! ## Elements in messages -/

/-- The raw octets of one element. Texts have no width: octets do not tell where one ends. -/
def ElementType.width : ElementType → Nat
  | .int8 | .uint8 | .bool => 1
  | .float16 | .int16 | .uint16 => 2
  | .float32 | .int32 => 4
  | .float64 | .int64 => 8
  | .string => 0

theorem ElementType.width_pos {elementType : ElementType} (numeric : elementType ≠ .string) :
    0 < elementType.width := by
  cases elementType with
  | string => exact (numeric rfl).elim
  | _ => decide

namespace Payload

/-- The payload of elements with the bit patterns given. -/
def ofWords : ElementType → List Nat → Payload
  | .float16, words => .float16 (words.map UInt16.ofNat)
  | .float32, words => .float32 (words.map UInt32.ofNat)
  | .float64, words => .float64 (words.map UInt64.ofNat)
  | .int8, words => .int32 (words.map fun word => (UInt8.ofNat word).toInt8.toInt32)
  | .int16, words => .int32 (words.map fun word => (UInt16.ofNat word).toInt16.toInt32)
  | .int32, words => .int32 (words.map fun word => (UInt32.ofNat word).toInt32)
  | .int64, words => .int64 (words.map fun word => (UInt64.ofNat word).toInt64)
  | .uint8, words | .uint16, words => .int32 (words.map fun word => Int32.ofNat word)
  | .bool, words => .bool (words.map fun word => UInt8.ofNat word != 0)
  | .string, _ => .string []

/-- Raw octets are cut into words first, also where a word is one octet. -/
theorem ofRaw_eq {elementType : ElementType} (numeric : elementType ≠ .string)
    (octets : Bytes) :
    ofRaw elementType octets = ofWords elementType <$> rawWords elementType.width octets := by
  cases elementType with
  | string => exact (numeric rfl).elim
  | int8 | uint8 | bool =>
      rw [ElementType.width, rawWords, Bytes.words?_one]
      simp only [ofRaw, ofWords, Functor.map, Except.map, List.map_map, Function.comp_def,
        UInt8.ofNat_toNat]
  | _ => rfl

/-- The elements of a message, wherever it keeps them. -/
def ofMessage (elementType : ElementType) (message : Message.Tensor) :
    Except TensorFault Payload :=
  if message.rawData.isEmpty then ofFields elementType message
  else ofRaw elementType message.rawData

end Payload

namespace Elements

/-- The bit patterns of the elements. -/
def words : Elements → List Nat
  | .float16 bits => bits.map UInt16.toNat
  | .float32 bits => bits.map UInt32.toNat
  | .float64 bits => bits.map UInt64.toNat
  | .int8 values => values.map fun value => value.toUInt8.toNat
  | .int16 values => values.map fun value => value.toUInt16.toNat
  | .int32 values => values.map fun value => value.toUInt32.toNat
  | .int64 values => values.map fun value => value.toUInt64.toNat
  | .uint8 values => values.map UInt8.toNat
  | .uint16 values => values.map UInt16.toNat
  | .bool values => values.map Bool.toNat
  | .string _ => []

/-- The elements as raw octets, the least significant one of each first. -/
def octets (elements : Elements) : Bytes :=
  elements.words.flatMap (Bytes.littleEndian elements.elementType.width)

/-- A message with the elements as raw octets. -/
def rawMessage (name : String) (dims : List Int64) (elements : Elements) : Message.Tensor :=
  { name, dims, dataType := elements.elementType.code, rawData := elements.octets }

/-- A message with the elements in the field that suits their type, which is where tensors are
written to. -/
def fieldMessage (name : String) (dims : List Int64) (elements : Elements) : Message.Tensor :=
  { (Tensor.ofElements elements []).toMessage name with dims }

variable (name : String) (dims : List Int64) (elements : Elements)

@[simp]
theorem fieldMessage_name : (elements.fieldMessage name dims).name = name :=
  Tensor.toMessage_name name _

@[simp]
theorem fieldMessage_dataType :
    (elements.fieldMessage name dims).dataType = elements.elementType.code :=
  Tensor.toMessage_dataType name _

@[simp]
theorem fieldMessage_rawData : (elements.fieldMessage name dims).rawData = [] :=
  Tensor.toMessage_rawData name _

/-! ## What is found of elements -/

/-- A bit pattern has as many octets as the type is wide. -/
theorem word_lt {word : Nat} (member : word ∈ elements.words) :
    word < Nat.pow 256 elements.elementType.width := by
  cases elements with
  | string texts => cases member
  | bool values =>
      rcases List.mem_map.mp member with ⟨value, _, rfl⟩
      exact Nat.lt_of_lt_of_le value.toNat_lt (Nat.le_of_ble_eq_true rfl)
  | _ =>
      rcases List.mem_map.mp member with ⟨value, _, rfl⟩
      exact value.toBitVec.isLt

theorem fits_payload : elements.payload.fits elements.elementType = true := by
  cases elements <;> rfl

/-- The field gives the elements back, whatever the sizes are. -/
theorem ofFields_fieldMessage :
    Payload.ofFields elements.elementType (elements.fieldMessage name dims) =
      .ok elements.payload := by
  refine Eq.trans ?_
    (Tensor.ofFields_toMessage name (.ofElements elements []) elements.fits_payload)
  cases elements <;> rfl

/-- The octets are taken apart into the bit patterns again. -/
theorem rawWords_octets (numeric : elements.elementType ≠ .string) :
    Payload.rawWords elements.elementType.width elements.octets = .ok elements.words := by
  rw [Payload.rawWords, octets, Bytes.words?_flatMap_littleEndian
    (ElementType.width_pos numeric) fun word member => elements.word_lt member]

/-- The bit patterns are those of the elements. -/
theorem ofWords_words (numeric : elements.elementType ≠ .string) :
    Payload.ofWords elements.elementType elements.words = elements.payload := by
  cases elements with
  | string texts => exact (numeric rfl).elim
  | bool values =>
      have truth : ∀ value : Bool, (UInt8.ofNat value.toNat != 0) = value := by decide
      simp only [Payload.ofWords, words, elementType, payload, List.map_map, Function.comp_def,
        truth, List.map_id']
  | _ =>
      simp only [Payload.ofWords, words, elementType, payload, List.map_map, Function.comp_def,
        UInt8.ofNat_toNat, UInt16.ofNat_toNat, UInt32.ofNat_toNat, UInt64.ofNat_toNat,
        Int8.toInt8_toUInt8, Int16.toInt16_toUInt16, Int32.toInt32_toUInt32,
        Int64.toInt64_toUInt64, List.map_id']

/-- Raw octets hold the elements. Where there are none readers look for them in the field, and
find none either. -/
theorem ofMessage_rawMessage (numeric : elements.elementType ≠ .string) :
    Payload.ofMessage elements.elementType (elements.rawMessage name dims) =
      .ok elements.payload := by
  have words := elements.rawWords_octets numeric
  rw [← elements.ofWords_words numeric, Payload.ofMessage]
  split
  next nothing =>
    have none : elements.octets = [] := List.isEmpty_iff.mp nothing
    have noWords : Payload.rawWords elements.elementType.width [] = .ok [] := by
      simp [Payload.rawWords, Bytes.words?, Bytes.groups]
    rw [none, noWords, Except.ok.injEq] at words
    rw [← words]
    cases elements with
    | string texts => exact (numeric rfl).elim
    | _ => rfl
  next =>
    change Payload.ofRaw elements.elementType elements.octets = _
    rw [Payload.ofRaw_eq numeric, words]
    rfl

theorem ofMessage_fieldMessage :
    Payload.ofMessage elements.elementType (elements.fieldMessage name dims) =
      .ok elements.payload := by
  rw [Payload.ofMessage, fieldMessage_rawData, if_pos List.isEmpty_nil,
    elements.ofFields_fieldMessage]

end Elements

namespace Tensor

variable {overflow : Overflow}

/-- Of a message of a known element type the sizes are looked at first, then the elements, and
then whether there are as many as the sizes ask for. -/
theorem read_eq {message : Message.Tensor} {elementType : ElementType}
    (known : ElementType.ofCode? message.dataType = some elementType) :
    read overflow message =
      if message.dims.any (· < 0) then
        .error (.invalidTensor message.name (.negativeSizes message.dims))
      else
        (do checked overflow ⟨elementType, message.dims.map Int64.toUInt64,
              ← Payload.ofMessage elementType message⟩).mapError (.invalidTensor message.name) := by
  have typed : ElementType.ofCode message.dataType = .ok elementType := by
    rw [ElementType.ofCode, known]
  rw [read, typed]
  change Except.mapError _ _ = _
  cases message.dims.any (· < 0) with
  | true => rfl
  | false =>
      rw [Payload.ofMessage, if_neg Bool.false_ne_true, if_neg Bool.false_ne_true]
      split <;> rfl

/-- Octets that do not come out even are refused, unless the sizes are refused before. -/
theorem read_of_uneven {message : Message.Tensor} {elementType : ElementType}
    (known : ElementType.ofCode? message.dataType = some elementType)
    (uneven : ¬ elementType.width ∣ message.rawData.length) :
    read overflow message = .error (.invalidTensor message.name
      (if message.dims.any (· < 0) then .negativeSizes message.dims
      else if elementType = .string then .rawText
      else .unevenOctets message.rawData.length elementType.width)) := by
  have kept : ¬ message.rawData.isEmpty = true := fun nothing => uneven <| by
    rw [List.isEmpty_iff.mp nothing]
    exact Nat.dvd_zero _
  have refused : Payload.ofMessage elementType message =
      .error (if elementType = .string then .rawText
        else .unevenOctets message.rawData.length elementType.width) := by
    rw [Payload.ofMessage, if_neg kept]
    split
    next texts =>
      rw [texts]
      rfl
    next numeric =>
      have cut : Bytes.words? elementType.width message.rawData = none :=
        if_neg fun even => uneven (Nat.dvd_of_mod_eq_zero even)
      rw [Payload.ofRaw_eq numeric, Payload.rawWords, cut]
      rfl
  rw [read_eq known, refused]
  split <;> rfl

variable {elements : Elements}

/-- Messages that hold elements and sizes are accepted exactly if no size is negative and there
are as many elements as the sizes ask for. -/
theorem read_holding (overflow : Overflow) {message : Message.Tensor}
    (type : message.dataType = elements.elementType.code)
    (holds : Payload.ofMessage elements.elementType message = .ok elements.payload) :
    read overflow message =
      if message.dims.any (· < 0) then
        .error (.invalidTensor message.name (.negativeSizes message.dims))
      else
        (checked overflow (.ofElements elements (message.dims.map Int64.toUInt64))).mapError
          (.invalidTensor message.name) := by
  have known : ElementType.ofCode? message.dataType = some elements.elementType := by
    rw [type]
    cases elements.elementType <;> rfl
  rw [read_eq known, holds]
  rfl

/-- Elements are read alike from raw octets and from the field that suits their type: both
messages are refused for the same fault, or both are accepted as the tensor of the elements,
which they are where no size is negative and the sizes ask for as many elements.  Raw octets
that do not come out even are always refused, and so are raw octets of texts. -/
theorem octets_read_alike (overflow : Overflow) :
    (∀ (elements : Elements) (name : String) (dims : List Int64),
      elements.elementType ≠ .string →
        read overflow (elements.rawMessage name dims) =
          read overflow (elements.fieldMessage name dims) ∧
        ∀ tensor, read overflow (elements.rawMessage name dims) = .ok tensor ↔
          tensor = .ofElements elements (dims.map Int64.toUInt64) ∧
            tensor.consistent? overflow = some true ∧ ∀ size ∈ dims, 0 ≤ size) ∧
    (∀ (message : Message.Tensor) (elementType : ElementType),
      ElementType.ofCode? message.dataType = some elementType →
      ¬ elementType.width ∣ message.rawData.length →
        read overflow message = .error (.invalidTensor message.name
          (if message.dims.any (· < 0) then .negativeSizes message.dims
          else if elementType = .string then .rawText
          else .unevenOctets message.rawData.length elementType.width))) := by
  refine ⟨fun elements name dims numeric => ?_, fun message elementType => read_of_uneven⟩
  have raw := read_holding overflow rfl (elements.ofMessage_rawMessage name dims numeric)
  have field := read_holding overflow (elements.fieldMessage_dataType name dims)
    (elements.ofMessage_fieldMessage name dims)
  rw [Elements.fieldMessage_name] at field
  refine ⟨raw.trans field.symm, fun tensor => ?_⟩
  have sizes : (elements.rawMessage name dims).dims.any (· < 0) = true ↔
      ¬ ∀ size ∈ dims, 0 ≤ size := by
    change dims.any (· < 0) = true ↔ _
    simp [Int64.not_le]
  rw [raw]
  split
  next negative =>
    refine ⟨nofun, fun ⟨_, _, natural⟩ => ?_⟩
    exact (sizes.mp negative natural).elim
  next natural =>
    rw [sizes, not_not] at natural
    rw [mapError_eq_ok, checked_eq_ok]
    exact ⟨fun ⟨same, complete⟩ => ⟨same, complete, natural⟩,
      fun ⟨same, complete, _⟩ => ⟨same, complete⟩⟩

/-- Integers of sixteen bits, one of them negative, are read alike from octets and from words,
and octets for one and a half of them are refused. -/
theorem shorts_read_alike :
    let shorts : Elements := .int16 [-2, 300]
    let odd : Message.Tensor :=
      { name := "odd", dims := [1], dataType := 5, rawData := [0xFE, 0xFF, 0x2C] }
    shorts.octets = [0xFE, 0xFF, 0x2C, 0x01] ∧
    ofMessage (shorts.rawMessage "shorts" [1, 2]) = .ok ⟨.int16, [1, 2], .int32 [-2, 300]⟩ ∧
    ofMessage (shorts.fieldMessage "shorts" [1, 2]) = .ok ⟨.int16, [1, 2], .int32 [-2, 300]⟩ ∧
    ofMessage odd = .error (.invalidTensor "odd" (.unevenOctets 3 2)) := by
  intro shorts odd
  have ⟨alike, read⟩ := (octets_read_alike .stops).1 shorts "shorts" [1, 2] (by decide)
  have natural : ∀ size ∈ ([1, 2] : List Int64), 0 ≤ size :=
    List.forall_mem_cons.mpr ⟨by decide, List.forall_mem_singleton.mpr (by decide)⟩
  have accepted := (read ⟨.int16, [1, 2], .int32 [-2, 300]⟩).mpr ⟨by decide, by decide, natural⟩
  exact ⟨by decide, accepted, alike.symm.trans accepted,
    (octets_read_alike .stops).2 odd .int16 (by decide) (by decide)⟩

end Tensor

end OnnxForge
