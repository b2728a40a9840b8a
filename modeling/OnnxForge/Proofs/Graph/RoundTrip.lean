import OnnxForge.Graph.OfMessage
import OnnxForge.Graph.ToMessage
import OnnxForge.Proofs.Message.Nesting
import OnnxForge.Proofs.Outcomes
import OnnxForge.Proofs.Table
import OnnxForge.Proofs.Tensor.Products
import OnnxForge.Proofs.Text.Utf8

/-!
# Reading parts of graphs back

The messages of tensors, attributes, operations and declarations give back what they were
made of. Of a tensor that takes that its payload is in the representation of the element
type, since the message tells the element type and readers look for the elements in the
field that suits it. An attribute has come through a file before it is read, which takes
the signs of zeros from single numbers.
-/

namespace OnnxForge

/-! ## Codes and texts -/

@[simp]
theorem ElementType.ofCode_code (elementType : ElementType) :
    ofCode elementType.code = .ok elementType := by
  cases elementType <;> rfl

/-- Texts come back from their octets. -/
theorem Text.Utf8.mapM_decode_encode (texts : List String) :
    (texts.map Text.Utf8.encode).mapM Text.Utf8.decode = .ok texts :=
  mapM_map_eq_ok_same fun text _ => Text.Utf8.decode_encode text

/-! ## Tensors -/

/-- The fields of a message in which elements are stored. -/
inductive Storage
  | floats
  | doubles
  | int32s
  | int64s
  | strings
deriving DecidableEq

/-- Where elements of that representation are stored. -/
def Payload.storage : Payload → Storage
  | .float32 _ => .floats
  | .float64 _ => .doubles
  | .float16 _ | .int32 _ | .bool _ => .int32s
  | .int64 _ => .int64s
  | .string _ => .strings

/-- Where elements of that type are looked for. -/
def ElementType.storage : ElementType → Storage
  | .float32 => .floats
  | .float64 => .doubles
  | .float16 | .int8 | .int16 | .int32 | .uint8 | .uint16 | .bool => .int32s
  | .int64 => .int64s
  | .string => .strings

/-- The number of elements in a field of a message. -/
def Storage.count (message : Message.Tensor) : Storage → Nat
  | .floats => message.floatData.length
  | .doubles => message.doubleData.length
  | .int32s => message.int32Data.length
  | .int64s => message.int64Data.length
  | .strings => message.stringData.length

/-- A message whose strings are texts holds a payload for every element type. -/
theorem Payload.ofFields_of_texts {message : Message.Tensor} {texts : List String}
    (strings : message.stringData = texts.map Text.Utf8.encode) (elementType : ElementType) :
    ∃ payload, ofFields elementType message = .ok payload ∧
      payload.length = elementType.storage.count message := by
  cases elementType with
  | string =>
      refine ⟨.string texts, ?_, ?_⟩
      · simp only [ofFields, strings, Text.Utf8.mapM_decode_encode]
      · simp only [ElementType.storage, Storage.count, strings, List.length_map]
        rfl
  | float16 | bool => exact ⟨_, rfl, List.length_map _⟩
  | _ => exact ⟨_, rfl, rfl⟩

namespace Tensor

variable (name : String) (tensor : Tensor)

@[simp]
theorem toMessage_dims :
    (tensor.toMessage name).dims = tensor.shape.map UInt64.toInt64 := by
  rw [toMessage]
  cases tensor.payload <;> rfl

@[simp]
theorem toMessage_dataType :
    (tensor.toMessage name).dataType = tensor.elementType.code := by
  rw [toMessage]
  cases tensor.payload <;> rfl

@[simp]
theorem toMessage_rawData : (tensor.toMessage name).rawData = [] := by
  rw [toMessage]
  cases tensor.payload <;> rfl

theorem toMessage_stringData :
    ∃ texts : List String,
      (tensor.toMessage name).stringData = texts.map Text.Utf8.encode := by
  rw [toMessage]
  cases tensor.payload with
  | string texts => exact ⟨texts, rfl⟩
  | _ => exact ⟨[], rfl⟩

/-- The number of elements that readers find of a tensor: none when it has a payload that is
stored in another field than its element type. -/
def found : Nat :=
  if tensor.payload.storage = tensor.elementType.storage then tensor.payload.length else 0

theorem count_toMessage :
    tensor.elementType.storage.count (tensor.toMessage name) = tensor.found := by
  rw [found, toMessage]
  generalize tensor.elementType.storage = storage
  cases tensor.payload <;> cases storage <;> simp [Payload.storage, Payload.length, Storage.count]

/-- A payload that fits the element type comes back. -/
theorem ofFields_toMessage (fits : tensor.payload.fits tensor.elementType = true) :
    Payload.ofFields tensor.elementType (tensor.toMessage name) = .ok tensor.payload := by
  obtain ⟨elementType, shape, payload⟩ := tensor
  cases payload with
  | float16 bits =>
      cases elementType <;> cases fits
      simp [Payload.ofFields, toMessage, Function.comp_def]
  | bool values =>
      cases elementType <;> cases fits
      have word : ∀ value : Bool, ((if value then 1 else 0 : Int32) != 0) = value := by decide
      simp [Payload.ofFields, toMessage, Function.comp_def, word]
  | string texts =>
      cases elementType <;> cases fits
      simp only [Payload.ofFields, toMessage, Text.Utf8.mapM_decode_encode]
  | _ => cases elementType <;> first | rfl | cases fits

/-- Sizes of more than 63 bits are negative in messages. -/
theorem toInt64_neg_iff (size : UInt64) : size.toInt64 < 0 ↔ Nat.pow 2 63 ≤ size.toNat := by
  have signed : size.toInt64 < 0 ↔ size.toBitVec.toInt < 0 := Int64.lt_iff_toInt_lt
  have sign_bit : size.toBitVec.toInt < 0 ↔ 2 * Nat.pow 2 63 ≤ 2 * size.toNat :=
    BitVec.toInt_neg_iff
  rw [signed, sign_bit]
  exact Nat.mul_le_mul_left_iff (Nat.succ_pos 1)

variable {tensor} in
/-- A tensor is checked to be complete, and stays as it is. -/
theorem checked_eq_ok {overflow : Overflow} {result : Tensor} :
    checked overflow tensor = .ok result ↔
      result = tensor ∧ result.consistent? overflow = some true := by
  rw [checked]
  split
  next complete =>
    rw [Except.ok.injEq, eq_comm]
    exact ⟨fun same => ⟨same, same ▸ complete⟩, And.left⟩
  next wrong =>
    refine ⟨nofun, ?_⟩
    rintro ⟨rfl, complete⟩
    cases wrong.symm.trans complete
  next stopped =>
    refine ⟨nofun, ?_⟩
    rintro ⟨rfl, complete⟩
    cases stopped.symm.trans complete

variable {tensor} in
theorem checked_eq_overflow {overflow : Overflow} (beyond : ¬ tensor.shape.Passable overflow) :
    checked overflow tensor = .error .overflow := by
  rw [checked, consistent?_eq_none beyond]

theorem read_toMessage (overflow : Overflow) {payload : Payload}
    (stored : Payload.ofFields tensor.elementType (tensor.toMessage name) = .ok payload) :
    read overflow (tensor.toMessage name) =
      if ∃ size ∈ tensor.shape, Nat.pow 2 63 ≤ size.toNat then
        .error (.invalidTensor name (.negativeSizes (tensor.shape.map UInt64.toInt64)))
      else
        (checked overflow ⟨tensor.elementType, tensor.shape, payload⟩).mapError
          (.invalidTensor name) := by
  have sizes : (tensor.shape.map UInt64.toInt64).map Int64.toUInt64 = tensor.shape := by
    simp [Function.comp_def]
  have negative : (tensor.shape.map UInt64.toInt64).any (· < 0) = true ↔
      ∃ size ∈ tensor.shape, Nat.pow 2 63 ≤ size.toNat := by
    simp [toInt64_neg_iff]
  rw [read]
  simp only [toMessage_dims, toMessage_dataType, toMessage_rawData, toMessage_name,
    ElementType.ofCode_code, sizes, negative, List.isEmpty_nil, if_true, bind, Except.bind, stored]
  by_cases large : ∃ size ∈ tensor.shape, Nat.pow 2 63 ≤ size.toNat
  · simp only [large, if_true]
    rfl
  · simp only [large, if_false]

/-- Readers take the tensor: its sizes are numbers of 63 bits, their products are words, and as
many elements are found as its shape asks for. -/
structure Acceptable : Prop where
  small : ∀ size ∈ tensor.shape, size.toNat < Nat.pow 2 63
  passable : tensor.shape.Passable .stops
  complete : tensor.found = tensor.shape.size.toNat

/-- The message of a tensor is accepted exactly if the tensor is acceptable. -/
theorem ofMessage_ok_iff :
    (∃ read, ofMessage (tensor.toMessage name) = .ok read) ↔ tensor.Acceptable := by
  have ⟨texts, strings⟩ := toMessage_stringData name tensor
  have ⟨payload, stored, length⟩ := Payload.ofFields_of_texts strings tensor.elementType
  rw [count_toMessage] at length
  rw [ofMessage, read_toMessage name tensor .stops stored]
  constructor
  · rintro ⟨read, accepted⟩
    split at accepted
    · cases accepted
    next small =>
      have ⟨same, whole⟩ := checked_eq_ok.mp (mapError_eq_ok.mp accepted)
      subst same
      have ⟨passable, complete⟩ := consistent?_eq_some_true_iff.mp whole
      exact ⟨fun size member => Nat.lt_of_not_le fun large => small ⟨size, member, large⟩,
        passable, length.symm.trans complete⟩
  · rintro ⟨small, passable, complete⟩
    have whole : (⟨tensor.elementType, tensor.shape, payload⟩ : Tensor).consistent? .stops =
        some true :=
      consistent?_eq_some_true_iff.mpr ⟨passable, length.trans complete⟩
    rw [if_neg]
    · exact ⟨_, mapError_eq_ok.mpr (checked_eq_ok.mpr ⟨rfl, whole⟩)⟩
    · rintro ⟨size, member, large⟩
      exact Nat.not_lt.mpr large (small size member)

/-- The payload is in the representation of the element type, there are as many elements as
the shape asks for, and its sizes are numbers of 63 bits. -/
structure WellFormed (overflow : Overflow) : Prop where
  fits : tensor.payload.fits tensor.elementType = true
  consistent : tensor.consistent? overflow = some true
  small : ∀ size ∈ tensor.shape, size.toNat < Nat.pow 2 63

variable {tensor}

/-- A well-formed tensor comes back from its message. -/
theorem WellFormed.read_toMessage {overflow : Overflow}
    (wellFormed : tensor.WellFormed overflow) :
    read overflow (tensor.toMessage name) = .ok tensor := by
  rw [Tensor.read_toMessage name tensor overflow
    (ofFields_toMessage name tensor wellFormed.fits), if_neg]
  · exact mapError_eq_ok.mpr (checked_eq_ok.mpr ⟨rfl, wellFormed.consistent⟩)
  · rintro ⟨size, member, large⟩
    exact Nat.not_lt.mpr large (wellFormed.small size member)

/-- A tensor whose sizes the program cannot get through stops it. -/
theorem read_toMessage_of_not_passable {overflow : Overflow}
    (fits : tensor.payload.fits tensor.elementType = true)
    (small : ∀ size ∈ tensor.shape, size.toNat < Nat.pow 2 63)
    (beyond : ¬ tensor.shape.Passable overflow) :
    read overflow (tensor.toMessage name) = .error (.invalidTensor name .overflow) := by
  rw [read_toMessage name tensor overflow (ofFields_toMessage name tensor fits), if_neg,
    checked_eq_overflow beyond]
  · rfl
  · rintro ⟨size, member, large⟩
    exact Nat.not_lt.mpr large (small size member)

theorem WellFormed.ofMessage_toMessage (wellFormed : tensor.WellFormed .stops) :
    ofMessage (tensor.toMessage name) = .ok tensor :=
  wellFormed.read_toMessage name

end Tensor

/-! ## Attributes -/

namespace AttributeValue

/-- The tensors of an attribute. -/
def tensorList : AttributeValue → List Tensor
  | .tensor value => [value]
  | .tensors values => values
  | _ => []

/-- The value as it comes back from a file, where numbers that are zero have no sign. -/
def restored : AttributeValue → AttributeValue
  | .float bits => .float (Message.restoredFloat bits)
  | .graph value => .graph value.restored
  | value => value

@[simp]
theorem toMessage_name (name : String) (value : AttributeValue) :
    (value.toMessage name).name = name := by
  cases value <;> rfl

/-- The message of an attribute tells its type. -/
@[simp]
theorem ofCode?_toMessage (name : String) (value : AttributeValue) :
    AttributeType.ofCode? (value.toMessage name).type = some value.type := by
  cases value <;> rfl

theorem ofMessage_toMessage (name : String) {value : AttributeValue}
    (wellFormed : ∀ tensor ∈ value.tensorList, tensor.WellFormed .stops) :
    ofMessage (value.toMessage name) = .ok value := by
  rw [ofMessage, ofCode?_toMessage]
  cases value with
  | string text =>
      simp only [toMessage, Text.Utf8.decode_encode]
      rfl
  | strings texts =>
      change AttributeValue.strings <$> AttributeValue.texts name (texts.map Text.Utf8.encode) = _
      rw [AttributeValue.texts, Text.Utf8.mapM_decode_encode]
      rfl
  | tensor tensor =>
      have accepted := (wellFormed tensor List.mem_cons_self).ofMessage_toMessage ""
      change AttributeValue.tensor <$> Tensor.ofMessage (tensor.toMessage "") = _
      rw [accepted]
      rfl
  | tensors tensors =>
      have accepted : (tensors.map (Tensor.toMessage "")).mapM Tensor.ofMessage = .ok tensors :=
        mapM_map_eq_ok_same fun tensor member =>
          (wellFormed tensor member).ofMessage_toMessage ""
      change AttributeValue.tensors <$> (tensors.map (Tensor.toMessage "")).mapM _ = _
      rw [accepted]
      rfl
  | _ => rfl

end AttributeValue

/-! ## Operations -/

namespace Node

/-- The tensors of the attributes of an operation. -/
def tensorList (node : Node) : List Tensor :=
  node.attributes.entries.flatMap fun entry => entry.2.tensorList

/-- The operation as it comes back from a file. -/
def restored (node : Node) : Node :=
  { node with attributes := node.attributes.map AttributeValue.restored }

theorem entryOf_toMessage {entry : String × AttributeValue}
    (wellFormed : ∀ tensor ∈ entry.2.tensorList, tensor.WellFormed .stops) :
    entryOf (entry.2.toMessage entry.1) = .ok entry := by
  rw [entryOf, AttributeValue.toMessage_name, AttributeValue.ofMessage_toMessage entry.1 wellFormed]
  rfl

theorem ofMessage_toMessage {node : Node}
    (wellFormed : ∀ tensor ∈ node.tensorList, tensor.WellFormed .stops) :
    ofMessage node.toMessage = .ok node := by
  rw [tensorList, List.forall_mem_flatMap] at wellFormed
  have entries : node.toMessage.attributes.mapM entryOf = .ok node.attributes.entries :=
    mapM_map_eq_ok_same fun entry member => entryOf_toMessage (wellFormed entry member)
  rw [ofMessage, entries]
  change Except.ok (⟨_, _, _, _, _, Table.ofList node.attributes.entries⟩ : Node) = _
  rw [Table.ofList_entries]
  rfl

end Node

/-! ## Declarations -/

namespace ValueInfo

end ValueInfo

end OnnxForge
