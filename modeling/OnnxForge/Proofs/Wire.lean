import OnnxForge.Wire

/-!
# Reading fields back

What is written of a number, a word or a field is read back from the octets, and what
follows it is left. Fields in a row are read back where there is room for all of them.
-/

namespace OnnxForge.Bytes

@[simp]
theorem length_littleEndian (width value : Nat) : (littleEndian width value).length = width := by
  induction width generalizing value with
  | zero => rfl
  | succ width ih => rw [littleEndian, List.length_cons, ih]

/-- The octets of a number give the number back, as far as they reach. -/
theorem ofLittleEndian_littleEndian {width value : Nat} (fits : value < Nat.pow 256 width) :
    ofLittleEndian (littleEndian width value) = value := by
  induction width generalizing value with
  | zero =>
      rw [Nat.lt_one_iff.mp fits]
      rfl
  | succ width ih =>
      have high : value / 256 < Nat.pow 256 width :=
        (Nat.div_lt_iff_lt_mul (by decide)).mpr fits
      have low : (UInt8.ofNat (value % 256)).toNat = value % 256 := by
        rw [UInt8.toNat_ofNat']
        omega
      rw [littleEndian, ofLittleEndian, ih high, low]
      omega

end OnnxForge.Bytes

namespace OnnxForge.Wire

/-! ## Numbers -/

theorem encodeVarint_small {value : Nat} (small : value < 0x80) :
    encodeVarint value = [UInt8.ofNat value] := by
  rw [encodeVarint, if_pos small]

theorem encodeVarint_large {value : Nat} (large : ¬ value < 0x80) :
    encodeVarint value =
      UInt8.ofNat (value % 0x80 + 0x80) :: encodeVarint (value / 0x80) := by
  rw [encodeVarint, if_neg large]

/-- Octets that hold a number of at most `bits` bits in groups of seven, least significant
first. The number may have more groups than it needs, the last of which are zero. -/
inductive Numeral : (bits value : Nat) → Bytes → Prop
  | last {bits value : Nat} (small : value < 0x80) (fits : value < Nat.pow 2 bits) :
      Numeral bits value [UInt8.ofNat value]
  | more {bits low high : Nat} {octets : Bytes} (several : 0 < bits) (small : low < 0x80)
      (higher : Numeral bits high octets) :
      Numeral (bits + 7) (low + 0x80 * high) (UInt8.ofNat (low + 0x80) :: octets)

namespace Numeral

variable {bits value : Nat} {octets : Bytes}

theorem lt (numeral : Numeral bits value octets) : value < Nat.pow 2 bits := by
  induction numeral with
  | last _ fits => exact fits
  | @more bits low high octets _ small _ ih =>
      have whole : Nat.pow 2 (bits + 7) = Nat.pow 2 bits * 0x80 := Nat.pow_add 2 bits 7
      omega

theorem ne_nil (numeral : Numeral bits value octets) : octets ≠ [] := by
  cases numeral <;> exact List.cons_ne_nil _ _

theorem length_le (numeral : Numeral bits value octets) : octets.length ≤ bits / 7 + 1 := by
  induction numeral with
  | last => exact Nat.succ_le_succ (Nat.zero_le _)
  | more _ _ _ ih =>
      rw [Nat.add_div_right _ (by decide), List.length_cons]
      exact Nat.succ_le_succ ih

/-- What holds a number holds it where more bits are allowed. -/
theorem mono (numeral : Numeral bits value octets) {more : Nat} (fewer : bits ≤ more) :
    Numeral more value octets := by
  induction numeral generalizing more with
  | last small fits =>
      exact .last small (Nat.lt_of_lt_of_le fits (Nat.pow_le_pow_right (by decide) fewer))
  | more several small _ ih =>
      obtain ⟨bits, rfl⟩ : ∃ bits, more = bits + 7 := ⟨more - 7, by omega⟩
      exact .more (by omega) small (ih (by omega))

/-- The number is read from the octets where so many bits are allowed. -/
theorem varintWithin (numeral : Numeral bits value octets) (rest : Bytes) :
    varintWithin bits (octets ++ rest) = some (value, rest) := by
  induction numeral with
  | @last bits value small fits =>
      have octet : (UInt8.ofNat value).toNat = value := by
        rw [UInt8.toNat_ofNat']
        omega
      rw [List.singleton_append, Wire.varintWithin]
      simp only [octet, if_pos small]
      exact if_neg fun ⟨_, large⟩ => Nat.not_lt.mpr large fits
  | @more bits low high octets several small _ ih =>
      have octet : (UInt8.ofNat (low + 0x80)).toNat = low + 0x80 := by
        rw [UInt8.toNat_ofNat']
        omega
      rw [List.cons_append, Wire.varintWithin]
      simp only [octet, if_neg (show ¬ low + 0x80 < 0x80 by omega),
        if_neg (show ¬ bits + 7 ≤ 7 by omega), Nat.add_sub_cancel, ih, Option.map_some]

theorem varint? (numeral : Numeral 64 value octets) (rest : Bytes) :
    varint? (octets ++ rest) = some (UInt64.ofNat value, rest) := by
  rw [Wire.varint?, numeral.varintWithin, Option.map_some]

end Numeral

/-- A number of at most `bits` bits is written in groups of seven. -/
theorem numeral_encodeVarint {bits value : Nat} (fits : value < Nat.pow 2 bits) :
    Numeral bits value (encodeVarint value) := by
  induction bits using Nat.strongRecOn generalizing value with
  | _ bits ih =>
      by_cases small : value < 0x80
      · rw [encodeVarint_small small]
        exact .last small fits
      · have several : 7 < bits := Nat.lt_of_not_le fun few => by
          have bound : Nat.pow 2 bits ≤ Nat.pow 2 7 := Nat.pow_le_pow_right (by decide) few
          exact small (Nat.lt_of_lt_of_le fits bound)
        obtain ⟨more, rfl⟩ : ∃ more, bits = more + 7 := ⟨bits - 7, by omega⟩
        have high : value / 0x80 < Nat.pow 2 more := by
          rw [Nat.div_lt_iff_lt_mul (by decide)]
          exact Nat.lt_of_lt_of_eq fits (Nat.pow_add 2 more 7)
        have following := ih more (by omega) high
        have written := Numeral.more (by omega) (Nat.mod_lt value (by decide)) following
        rwa [Nat.mod_add_div, ← encodeVarint_large small] at written

/-- A number of at most `bits` bits is read back where so many are allowed. -/
theorem varintWithin_encodeVarint {bits value : Nat} (fits : value < Nat.pow 2 bits)
    (rest : Bytes) :
    varintWithin bits (encodeVarint value ++ rest) = some (value, rest) :=
  (numeral_encodeVarint fits).varintWithin rest

theorem varint?_encodeVarint (value : UInt64) (rest : Bytes) :
    varint? (encodeVarint value.toNat ++ rest) = some (value, rest) := by
  simp only [varint?, varintWithin_encodeVarint value.toNat_lt, Option.map_some,
    UInt64.ofNat_toNat]

theorem encodeVarint_ne_nil (value : Nat) : encodeVarint value ≠ [] := by
  rw [encodeVarint]
  split <;> exact List.cons_ne_nil _ _

/-- As many octets as a word has are read as one. -/
theorem word?_append {width : Nat} {octets : Bytes} (length : octets.length = width)
    (rest : Bytes) :
    word? width (octets ++ rest) = some (Bytes.ofLittleEndian octets, rest) := by
  have enough : ¬ (octets ++ rest).length < width := by
    rw [List.length_append]
    omega
  rw [word?, if_neg enough, List.take_left' length, List.drop_left' length]

theorem word?_littleEndian {width value : Nat} (fits : value < Nat.pow 256 width)
    (rest : Bytes) :
    word? width (Bytes.littleEndian width value ++ rest) = some (value, rest) := by
  rw [word?_append (Bytes.length_littleEndian width value), Bytes.ofLittleEndian_littleEndian fits]

/-! ## Fields -/

/-- A field as it is written: its number fits into a tag, it is no group, and a value with a
length has as many octets as it says. -/
def Field.Written (field : Field) : Prop :=
  0 < field.number ∧ field.number < 0x20000000 ∧
    match field.value with
    | .delimited content => Value.delimited content = .octets content.octets
    | .group => False
    | _ => True

/-- A value with a length is no longer than its field. -/
theorem length_le_encode (number : Nat) (octets : Bytes) :
    octets.length ≤ (Field.encode ⟨number, .octets octets⟩).length := by
  change octets.length ≤ (tag number 2 ++ (encodeVarint octets.length ++ octets)).length
  simp only [List.length_append]
  omega

/-- Octets that hold the number of a field and the kind of its value. -/
structure Tag (number kind : Nat) (octets : Bytes) : Prop where
  positive : 0 < number
  known : kind < 8
  numeral : Numeral 32 (number * 8 + kind) octets

theorem Tag.tag? {number kind : Nat} {octets : Bytes} (tag : Tag number kind octets)
    (rest : Bytes) :
    tag? (octets ++ rest) = some (number, kind, rest) := by
  have number_eq : (number * 8 + kind) / 8 = number := by
    have known := tag.known
    omega
  have kind_eq : (number * 8 + kind) % 8 = kind := by
    have known := tag.known
    omega
  rw [Wire.tag?, varint32?, tag.numeral.varintWithin]
  simp only [number_eq, kind_eq, if_neg (Nat.ne_of_gt tag.positive)]

theorem tag_tag {number kind : Nat} (positive : 0 < number) (small : number < 0x20000000)
    (known : kind < 8) :
    Tag number kind (tag number kind) :=
  ⟨positive, known, numeral_encodeVarint (show number * 8 + kind < 0x100000000 by omega)⟩

/-- A value with a length is read with all its octets where there is room for them. -/
theorem delimited?_append {room : Nat} {length content : Bytes}
    (numeral : Numeral 64 content.length length) (fits : length.length + content.length ≤ room)
    (rest : Bytes) :
    delimited? room (length ++ (content ++ rest)) =
      some (⟨content.length, length.length, content⟩, rest) := by
  have announced : (UInt64.ofNat content.length).toNat = content.length :=
    UInt64.toNat_ofNat_of_lt' numeral.lt
  have width : (length ++ (content ++ rest)).length - (content ++ rest).length =
      length.length := by
    rw [List.length_append]
    omega
  rw [delimited?, numeral.varint?]
  simp only [announced, width, if_neg (show ¬ room - length.length < content.length by omega),
    List.take_left, List.drop_left]

/-- A written field is read back where there is room for it. -/
theorem field?_encode {field : Field} (written : field.Written) {depth room : Nat}
    (fits : field.encode.length ≤ room) (small : room < UInt64.size) (rest : Bytes) :
    field? depth room (field.encode ++ rest) = some (field, rest) := by
  obtain ⟨number, value⟩ := field
  rcases written with ⟨positive, numbered, shape⟩
  have tagged : ∀ kind < 8, ∀ more, tag? (tag number kind ++ more) = some (number, kind, more) :=
    fun kind known more => (tag_tag positive numbered known).tag? more
  cases value with
  | varint value =>
      simp only [Field.encode, Value.kind, List.append_assoc, field?, tagged 0 (by decide),
        varint?_encodeVarint, Option.map_some]
  | fixed64 value =>
      have bounded : value.toNat < Nat.pow 256 8 := value.toNat_lt
      simp only [Field.encode, Value.kind, List.append_assoc, field?, tagged 1 (by decide),
        word?_littleEndian bounded, Option.map_some, UInt64.ofNat_toNat]
  | fixed32 value =>
      have bounded : value.toNat < Nat.pow 256 4 := value.toNat_lt
      simp only [Field.encode, Value.kind, List.append_assoc, field?, tagged 5 (by decide),
        word?_littleEndian bounded, Option.map_some, UInt32.ofNat_toNat]
  | group => exact shape.elim
  | delimited content =>
      obtain ⟨octets, rfl⟩ : ∃ octets, content =
          ⟨octets.length, (encodeVarint octets.length).length, octets⟩ :=
        ⟨content.octets, Value.delimited.inj shape⟩
      simp only [Field.encode, Value.kind, List.length_append] at fits
      simp only [Field.encode, Value.kind, List.append_assoc, field?, tagged 2 (by decide)]
      have short : octets.length < Nat.pow 2 64 := Nat.lt_of_le_of_lt (by omega) small
      rw [delimited?_append (numeral_encodeVarint short)]
      · rfl
      · simp only [List.length_append]
        omega

@[simp]
theorem encode_nil : encode [] = [] :=
  rfl

@[simp]
theorem encode_cons (field : Field) (fields : List Field) :
    encode (field :: fields) = field.encode ++ encode fields :=
  rfl

@[simp]
theorem encode_append (first second : List Field) :
    encode (first ++ second) = encode first ++ encode second :=
  List.flatMap_append

theorem Field.encode_ne_nil (field : Field) : field.encode ≠ [] := by
  rw [Field.encode, tag]
  exact List.append_ne_nil_of_left_ne_nil (encodeVarint_ne_nil _) _

theorem fieldsWithin_encode {fields : List Field} (written : ∀ field ∈ fields, field.Written)
    {depth steps room : Nat} (enough : (encode fields).length ≤ steps)
    (fits : (encode fields).length ≤ room) (small : room < UInt64.size) :
    fieldsWithin depth steps room (encode fields) = some fields := by
  induction fields generalizing steps room with
  | nil =>
      rw [encode_nil]
      cases steps <;> rfl
  | cons field rest ih =>
      have ⟨first, others⟩ := List.forall_mem_cons.mp written
      have nonempty := List.length_pos_iff.mpr field.encode_ne_nil
      rw [encode_cons, List.length_append] at enough fits
      obtain ⟨step, rfl⟩ : ∃ step, steps = step + 1 := ⟨steps - 1, by omega⟩
      have read : field? depth room (field.encode ++ encode rest) = some (field, encode rest) :=
        field?_encode first (by omega) small (encode rest)
      have following :
          fieldsWithin depth step (room - field.encode.length) (encode rest) = some rest :=
        ih others (by omega) (by omega) (by omega)
      have consumed : (field.encode ++ encode rest).length - (encode rest).length =
          field.encode.length := by
        rw [List.length_append]
        omega
      rw [encode_cons, fieldsWithin]
      · simp only [read, consumed, following, Option.map_some]
      · exact List.append_ne_nil_of_left_ne_nil field.encode_ne_nil _

/-- Written fields are read back where there is room for them. -/
theorem fields?_encode {fields : List Field} (written : ∀ field ∈ fields, field.Written)
    {depth room : Nat} (fits : (encode fields).length ≤ room) (small : room < UInt64.size) :
    fields? depth room (encode fields) = some fields :=
  fieldsWithin_encode written (Nat.le_refl _) fits small

/-! ## Packed numbers -/

section Packed

variable {α : Type} {read : Bytes → Option (α × Bytes)} {write : α → Bytes}

theorem packedWithin_flatMap (written : ∀ value, write value ≠ [])
    (restored : ∀ value rest, read (write value ++ rest) = some (value, rest))
    {values : List α} {steps : Nat} (enough : (values.flatMap write).length ≤ steps) :
    packedWithin read steps (values.flatMap write) = some values := by
  induction values generalizing steps with
  | nil => cases steps <;> rfl
  | cons value rest ih =>
      have nonempty := List.length_pos_iff.mpr (written value)
      rw [List.flatMap_cons, List.length_append] at enough
      obtain ⟨step, rfl⟩ : ∃ step, steps = step + 1 := ⟨steps - 1, by omega⟩
      have following : packedWithin read step (rest.flatMap write) = some rest :=
        ih (by omega)
      rw [List.flatMap_cons, packedWithin]
      · simp only [restored, following, Option.map_some]
      · exact List.append_ne_nil_of_left_ne_nil (written value) _

/-- Packed numbers are read back when each of them is. -/
theorem packed?_flatMap (written : ∀ value, write value ≠ [])
    (restored : ∀ value rest, read (write value ++ rest) = some (value, rest))
    (values : List α) :
    packed? read (values.flatMap write) = some values :=
  packedWithin_flatMap written restored (Nat.le_refl _)

end Packed

end OnnxForge.Wire
