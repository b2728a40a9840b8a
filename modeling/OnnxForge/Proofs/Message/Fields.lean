import OnnxForge.Message.Decode
import OnnxForge.Message.Encode
import OnnxForge.Proofs.Message.Nesting
import OnnxForge.Proofs.Text.Utf8
import OnnxForge.Proofs.Wire

/-!
# Reading fields into messages

Readers take in fields one after the other, and every kind of field has its effect on the
message read so far. A text or string of octets is read when its length is a number of 32
bits; a message inside another needs a length of 64 bits and a level of its own.
-/

namespace OnnxForge.Message

/-! ## Values -/

/-- The content of the field of a message with the given fields. -/
def contentOf (octets : Bytes) : Wire.Delimited :=
  ⟨octets.length, (Wire.encodeVarint octets.length).length, octets⟩

theorem int32?_toUInt64 (value : Int32) : int32? value.toInt64.toUInt64 = some value := by
  have low := value.minValue_le_toInt
  have high := value.toInt_le
  rw [int32?]
  simp only [Int64.toInt64_toUInt64, Int32.toInt_toInt64, Int32.ofInt_toInt]
  exact if_pos ⟨low, high⟩

/-- The octets are few enough for a string: their number takes 32 bits. -/
def Short (octets : Bytes) : Prop :=
  octets.length < UInt32.size

instance : DecidablePred Short := fun _ => inferInstanceAs (Decidable (_ < _))

theorem complete?_contentOf {octets : Bytes} (short : Short octets) :
    complete? (contentOf octets) = some octets := by
  have width : (Wire.encodeVarint octets.length).length ≤ 32 / 7 + 1 :=
    (Wire.numeral_encodeVarint short).length_le
  exact if_pos ⟨width, short, rfl⟩

theorem text?_contentOf {text : String}
    (short : Short (Text.Utf8.encode text)) :
    text? (contentOf (Text.Utf8.encode text)) = some text := by
  rw [text?, complete?_contentOf short, Option.bind_some, Text.Utf8.decode?_encode]

theorem packedInt64?_write (value : Int64) (rest : Bytes) :
    packedInt64? (Wire.encodeVarint value.toUInt64.toNat ++ rest) = some (value, rest) := by
  simp only [packedInt64?, Wire.varint?_encodeVarint, Option.map_some, Int64.toInt64_toUInt64]

theorem packedInt32?_write (value : Int32) (rest : Bytes) :
    packedInt32? (Wire.encodeVarint value.toInt64.toUInt64.toNat ++ rest) =
      some (value, rest) := by
  simp only [packedInt32?, Wire.varint?_encodeVarint, Option.bind_some, int32?_toUInt64,
    Option.map_some]

theorem packedWord32?_write (value : UInt32) (rest : Bytes) :
    packedWord32? (Bytes.littleEndian 4 value.toNat ++ rest) = some (value, rest) := by
  have bounded : value.toNat < Nat.pow 256 4 := value.toNat_lt
  simp only [packedWord32?, Wire.word?_littleEndian bounded, Option.map_some, UInt32.ofNat_toNat]

theorem packedWord64?_write (value : UInt64) (rest : Bytes) :
    packedWord64? (Bytes.littleEndian 8 value.toNat ++ rest) = some (value, rest) := by
  have bounded : value.toNat < Nat.pow 256 8 := value.toNat_lt
  simp only [packedWord64?, Wire.word?_littleEndian bounded, Option.map_some, UInt64.ofNat_toNat]

/-! ## Fields in a row -/

/-- The octets of the fields are few enough for a message: their number takes 64 bits. -/
def Bounded (fields : List Wire.Field) : Prop :=
  (Wire.encode fields).length < UInt64.size

theorem Bounded.left {first second : List Wire.Field} (bounded : Bounded (first ++ second)) :
    Bounded first := by
  rw [Bounded, Wire.encode_append, List.length_append] at bounded
  exact Nat.lt_of_le_of_lt (Nat.le_add_right _ _) bounded

theorem Bounded.right {first second : List Wire.Field} (bounded : Bounded (first ++ second)) :
    Bounded second := by
  rw [Bounded, Wire.encode_append, List.length_append] at bounded
  exact Nat.lt_of_le_of_lt (Nat.le_add_left _ _) bounded

theorem Bounded.of_mem {fields : List Wire.Field} (bounded : Bounded fields)
    {field : Wire.Field} (member : field ∈ fields) :
    Bounded [field] := by
  rcases List.append_of_mem member with ⟨early, late, rfl⟩
  have others : Bounded ([field] ++ late) := bounded.right
  exact others.left

theorem Bounded.content {number : Nat} {fields : List Wire.Field}
    (bounded : Bounded [messageField number fields]) :
    Bounded fields := by
  rw [Bounded, Wire.encode_cons, Wire.encode_nil, List.append_nil] at bounded
  exact Nat.lt_of_le_of_lt (Wire.length_le_encode number _) bounded

/-- Access to a part of a message. -/
structure Part (α β : Type) where
  get : α → β
  set : α → β → α
  set_get : ∀ message, set message (get message) = message := by
    intro message; cases message <;> rfl
  get_set : ∀ message part, get (set message part) = part := by intros; rfl
  set_set : ∀ message first second,
    set (set message first) second = set message second := by intros; rfl

/-- Fields that are read one after the other lead from one state of a message to another. -/
def Restores {α : Type} (add : α → Wire.Field → Option α) (fields : List Wire.Field)
    (before after : α) : Prop :=
  Bounded fields → fields.foldlM add before = some after

namespace Restores

variable {α β : Type} {add : α → Wire.Field → Option α} {before between after : α}
variable {number : Nat}

theorem nil : Restores add [] before before :=
  fun _ => rfl

theorem append {first second : List Wire.Field} (head : Restores add first before between)
    (tail : Restores add second between after) :
    Restores add (first ++ second) before after := by
  intro bounded
  rw [List.foldlM_append, head bounded.left]
  exact tail bounded.right

/-- The last fields lead to the whole message. -/
theorem last {fields : List Wire.Field} (piece : Restores add fields before between)
    (whole : between = after) :
    Restores add fields before after :=
  whole ▸ piece

theorem single {field : Wire.Field} (added : Bounded [field] → add before field = some after) :
    Restores add [field] before after := by
  intro bounded
  rw [List.foldlM_cons, added bounded]
  rfl

/-- A field that is left out where it would change nothing. -/
theorem leftOut {idle : Prop} [Decidable idle] {field : Wire.Field} (same : idle → before = after)
    (added : add before field = some after) :
    Restores add (if idle then [] else [field]) before after := by
  split
  next holds => exact same holds ▸ nil
  next _ => exact single fun _ => added

/-! ### Single values -/

theorem int64 (put : α → Int64 → α)
    (reads : ∀ message value,
      add message ⟨number, .varint value⟩ = some (put message value.toInt64))
    (idle : put before 0 = before) (value : Int64) :
    Restores add (int64Field number value) before (put before value) := by
  refine leftOut (fun zero => ?_) ?_
  · rw [zero, idle]
  · rw [reads, Int64.toInt64_toUInt64]

theorem int32 {put : α → Int32 → α}
    (reads : ∀ message value,
      add message ⟨number, .varint value⟩ = (int32? value).map (put message))
    (idle : put before 0 = before) (value : Int32) :
    Restores add (int32Field number value) before (put before value) := by
  refine leftOut (fun zero => ?_) ?_
  · rw [zero, idle]
  · rw [reads, int32?_toUInt64, Option.map_some]

/-- A negative zero has lost its sign when it is read. -/
theorem float (put : α → UInt32 → α)
    (reads : ∀ message bits, add message ⟨number, .fixed32 bits⟩ = some (put message bits))
    (idle : put before 0 = before) (bits : UInt32) :
    Restores add (floatField number bits) before
      (put before (restoredFloat bits)) := by
  rw [floatField, restoredFloat]
  split
  next zero =>
    rw [idle]
    exact nil
  next _ => exact single fun _ => reads before bits

theorem bytes {put : α → Bytes → α}
    (reads : ∀ message content,
      add message ⟨number, .delimited content⟩ = (complete? content).map (put message))
    (idle : put before [] = before) {octets : Bytes} (short : Short octets) :
    Restores add (bytesField number octets) before (put before octets) := by
  refine leftOut (fun empty => ?_) ((reads before (contentOf octets)).trans ?_)
  · rw [List.isEmpty_iff.mp empty, idle]
  · rw [complete?_contentOf short, Option.map_some]

theorem text {put : α → String → α}
    (reads : ∀ message content,
      add message ⟨number, .delimited content⟩ = (text? content).map (put message))
    (idle : put before "" = before) {text : String}
    (short : Short (Text.Utf8.encode text)) :
    Restores add (textField number text) before (put before text) := by
  refine leftOut (fun empty => ?_) ((reads before (contentOf _)).trans ?_)
  · have none : text = "" := by
      have decoded := Text.Utf8.decode?_encode text
      rw [List.isEmpty_iff.mp empty] at decoded
      exact (Option.some.inj decoded).symm
    rw [none, idle]
  · rw [text?_contentOf short, Option.map_some]

/-! ### Packed numbers -/

theorem packed {γ : Type} {put : α → List γ → α} {read : Bytes → Option (γ × Bytes)}
    {write : γ → Bytes}
    (written : ∀ value, write value ≠ [])
    (restored : ∀ value rest, read (write value ++ rest) = some (value, rest))
    (reads : ∀ message content, add message ⟨number, .delimited content⟩ =
      (Wire.packed? read content.octets).map (put message))
    (idle : put before [] = before) (values : List γ) :
    Restores add (packedField number write values) before (put before values) := by
  refine leftOut (fun empty => ?_) ((reads before (contentOf _)).trans ?_)
  · rw [List.isEmpty_iff.mp empty, idle]
  · rw [contentOf, Wire.packed?_flatMap written restored, Option.map_some]

theorem littleEndian_ne_nil (width value : Nat) :
    Bytes.littleEndian (width + 1) value ≠ [] :=
  List.cons_ne_nil _ _

theorem int64s {put : α → List Int64 → α}
    (reads : ∀ message content, add message ⟨number, .delimited content⟩ =
      (Wire.packed? packedInt64? content.octets).map (put message))
    (idle : put before [] = before) (values : List Int64) :
    Restores add (int64sField number values) before (put before values) :=
  packed (fun _ => Wire.encodeVarint_ne_nil _) packedInt64?_write reads idle values

theorem int32s {put : α → List Int32 → α}
    (reads : ∀ message content, add message ⟨number, .delimited content⟩ =
      (Wire.packed? packedInt32? content.octets).map (put message))
    (idle : put before [] = before) (values : List Int32) :
    Restores add (int32sField number values) before (put before values) :=
  packed (fun _ => Wire.encodeVarint_ne_nil _) packedInt32?_write reads idle values

theorem uint64s {put : α → List UInt64 → α}
    (reads : ∀ message content, add message ⟨number, .delimited content⟩ =
      (Wire.packed? Wire.varint? content.octets).map (put message))
    (idle : put before [] = before) (values : List UInt64) :
    Restores add (uint64sField number values) before (put before values) :=
  packed (fun _ => Wire.encodeVarint_ne_nil _) Wire.varint?_encodeVarint reads idle values

theorem floats {put : α → List UInt32 → α}
    (reads : ∀ message content, add message ⟨number, .delimited content⟩ =
      (Wire.packed? packedWord32? content.octets).map (put message))
    (idle : put before [] = before) (values : List UInt32) :
    Restores add (floatsField number values) before (put before values) :=
  packed (fun _ => littleEndian_ne_nil _ _) packedWord32?_write reads idle values

theorem doubles {put : α → List UInt64 → α}
    (reads : ∀ message content, add message ⟨number, .delimited content⟩ =
      (Wire.packed? packedWord64? content.octets).map (put message))
    (idle : put before [] = before) (values : List UInt64) :
    Restores add (doublesField number values) before (put before values) :=
  packed (fun _ => littleEndian_ne_nil _ _) packedWord64?_write reads idle values

/-! ### Several fields of one number -/

/-- Every item of a list has a field, which adds it to a part of the message. -/
theorem each {γ : Type} (part : Part α (List β)) (fieldOf : γ → Wire.Field) (restored : γ → β)
    {items : List γ} (before : α)
    (added : ∀ item ∈ items, ∀ message, Bounded [fieldOf item] →
      add message (fieldOf item) =
        some (part.set message (part.get message ++ [restored item]))) :
    Restores add (items.map fieldOf) before
      (part.set before (part.get before ++ items.map restored)) := by
  induction items generalizing before with
  | nil =>
      rw [List.map_nil, List.map_nil, List.append_nil, part.set_get]
      exact nil
  | cons item rest ih =>
      have ⟨first, others⟩ := List.forall_mem_cons.mp added
      have head : Restores add [fieldOf item] before
          (part.set before (part.get before ++ [restored item])) :=
        single (first before)
      have whole := head.append (ih _ others)
      rw [part.get_set, part.set_set, List.append_assoc] at whole
      exact whole

theorem bytesList (part : Part α (List Bytes))
    (reads : ∀ message content, add message ⟨number, .delimited content⟩ =
      (complete? content).map fun octets => part.set message (part.get message ++ [octets]))
    {values : List Bytes} (short : ∀ octets ∈ values, Short octets) :
    Restores add (bytesFields number values) before
      (part.set before (part.get before ++ values)) := by
  have restored := each part (fun octets => ⟨number, .octets octets⟩) id before
    fun octets (member : octets ∈ values) message _ => by
      refine (reads message (contentOf octets)).trans ?_
      rw [complete?_contentOf (short octets member), Option.map_some, id_eq]
  rwa [List.map_id] at restored

theorem texts (part : Part α (List String))
    (reads : ∀ message content, add message ⟨number, .delimited content⟩ =
      (text? content).map fun text => part.set message (part.get message ++ [text]))
    {values : List String} (short : ∀ text ∈ values, Short (Text.Utf8.encode text)) :
    Restores add (textFields number values) before
      (part.set before (part.get before ++ values)) := by
  have restored := each part (fun text => ⟨number, .octets (Text.Utf8.encode text)⟩) id before
    fun text (member : text ∈ values) message _ => by
      refine (reads message (contentOf _)).trans ?_
      rw [text?_contentOf (short text member), Option.map_some, id_eq]
  rw [List.map_id] at restored
  rwa [textFields, bytesFields, List.map_map]

/-- Every message of a list has a field, which is read if the message is. -/
theorem messages {γ : Type} (part : Part α (List β)) {read : Wire.Delimited → Option β}
    {fieldsOf : γ → List Wire.Field} {restored : γ → β} {items : List γ}
    (reads : ∀ message content, add message ⟨number, .delimited content⟩ =
      (read content).map fun item => part.set message (part.get message ++ [item]))
    (nested : ∀ item ∈ items, Bounded (fieldsOf item) →
      read (contentOf (Wire.encode (fieldsOf item))) = some (restored item)) :
    Restores add (items.map fun item => messageField number (fieldsOf item)) before
      (part.set before (part.get before ++ items.map restored)) := by
  refine each part _ restored before fun item member message bounded => ?_
  refine (reads message (contentOf _)).trans ?_
  rw [nested item member bounded.content, Option.map_some]

/-- Messages that are read as they are written come back as they are. -/
theorem messages_same (part : Part α (List β)) {read : Wire.Delimited → Option β}
    {fieldsOf : β → List Wire.Field} {items : List β}
    (reads : ∀ message content, add message ⟨number, .delimited content⟩ =
      (read content).map fun item => part.set message (part.get message ++ [item]))
    (nested : ∀ item ∈ items, Bounded (fieldsOf item) →
      read (contentOf (Wire.encode (fieldsOf item))) = some item) :
    Restores add (items.map fun item => messageField number (fieldsOf item)) before
      (part.set before (part.get before ++ items)) := by
  have restored : Restores add (items.map fun item => messageField number (fieldsOf item)) before
      (part.set before (part.get before ++ items.map id)) :=
    messages part reads nested
  rwa [List.map_id] at restored

/-- A message that may be missing has a field when it is there. -/
theorem optional {γ : Type} (put : α → Option β → α) {read : Wire.Delimited → Option β}
    {fieldsOf : γ → List Wire.Field} {restored : γ → β} {item : Option γ}
    (reads : ∀ message content, add message ⟨number, .delimited content⟩ =
      (read content).map fun item => put message (some item))
    (idle : put before none = before)
    (nested : ∀ present ∈ item, Bounded (fieldsOf present) →
      read (contentOf (Wire.encode (fieldsOf present))) = some (restored present)) :
    Restores add (item.elim [] fun present => [messageField number (fieldsOf present)]) before
      (put before (item.map restored)) := by
  cases item with
  | none =>
      rw [Option.map_none, idle]
      exact nil
  | some present =>
      refine single fun bounded => (reads before (contentOf _)).trans ?_
      rw [nested present rfl bounded.content, Option.map_some, Option.map_some]

theorem optional_same (put : α → Option β → α) {read : Wire.Delimited → Option β}
    {fieldsOf : β → List Wire.Field} {item : Option β}
    (reads : ∀ message content, add message ⟨number, .delimited content⟩ =
      (read content).map fun item => put message (some item))
    (idle : put before none = before)
    (nested : ∀ present ∈ item, Bounded (fieldsOf present) →
      read (contentOf (Wire.encode (fieldsOf present))) = some present) :
    Restores add (item.elim [] fun present => [messageField number (fieldsOf present)]) before
      (put before item) := by
  have restored :
      Restores add (item.elim [] fun present => [messageField number (fieldsOf present)]) before
        (put before (item.map id)) :=
    optional put reads idle nested
  rwa [Option.map_id] at restored

end Restores

end OnnxForge.Message
