import OnnxForge.Bytes

/-!
# Tagged fields

A message is written as a sequence of fields. A field is a tag, which holds the
number of the field and the kind of its value, followed by the value: a variable
length integer, a word of four or eight octets, a length and that many octets, or a
group of fields that ends with a tag of its own.

Every reader takes octets and gives back what it read with the octets after it.
-/

namespace OnnxForge.Wire

/-- The content of a length-delimited value. -/
structure Delimited where
  /-- The length as written. -/
  length : Nat
  /-- The number of octets in which the length is written. -/
  width : Nat
  /-- The octets, which fall short of the length when the input ends before it does; whether
  that is a fault is for the reader of the field. -/
  octets : Bytes
deriving DecidableEq

/-- The value of a field. -/
inductive Value
  | varint (value : UInt64)
  | fixed64 (value : UInt64)
  | delimited (content : Delimited)
  /-- A group, whose fields no message uses. -/
  | group
  | fixed32 (value : UInt32)
deriving DecidableEq

/-- A field of a message. -/
structure Field where
  number : Nat
  value : Value
deriving DecidableEq

/-! ## Writing -/

/-- A number in groups of seven bits, least significant first; each octet but the last has
its high bit set. -/
def encodeVarint (value : Nat) : Bytes :=
  if value < 0x80 then [UInt8.ofNat value]
  else UInt8.ofNat (value % 0x80 + 0x80) :: encodeVarint (value / 0x80)
termination_by value
decreasing_by omega

/-- A length-delimited value with all its octets, and its length in as few as it needs. -/
def Value.octets (octets : Bytes) : Value :=
  .delimited ⟨octets.length, (encodeVarint octets.length).length, octets⟩

/-- The kind of a value, as the tag holds it. -/
def Value.kind : Value → Nat
  | .varint _ => 0
  | .fixed64 _ => 1
  | .delimited _ => 2
  | .group => 3
  | .fixed32 _ => 5

/-- The tag of a field. -/
def tag (number kind : Nat) : Bytes :=
  encodeVarint (number * 8 + kind)

/-- The octets of a field. A group is written empty. -/
def Field.encode (field : Field) : Bytes :=
  tag field.number field.value.kind ++
    match field.value with
    | .varint value => encodeVarint value.toNat
    | .fixed64 value => Bytes.littleEndian 8 value.toNat
    | .delimited content => encodeVarint content.length ++ content.octets
    | .group => tag field.number 4
    | .fixed32 value => Bytes.littleEndian 4 value.toNat

/-- The octets of a message. -/
def encode (fields : List Field) : Bytes :=
  fields.flatMap Field.encode

/-! ## Reading -/

/-- Reads a number of at most `bits` bits, which has no more octets than such a number may
need: the octet that holds the last of the bits has to be the last one. -/
def varintWithin (bits : Nat) : Bytes → Option (Nat × Bytes)
  | [] => none
  | octet :: rest =>
    let n := octet.toNat
    if n < 0x80 then if bits < 7 ∧ Nat.pow 2 bits ≤ n then none else some (n, rest)
    else if bits ≤ 7 then none
    else (varintWithin (bits - 7) rest).map fun (high, rest) => (n - 0x80 + 0x80 * high, rest)

/-- Reads a number of at most 64 bits, in at most ten octets. -/
def varint? (octets : Bytes) : Option (UInt64 × Bytes) :=
  (varintWithin 64 octets).map fun (value, rest) => (UInt64.ofNat value, rest)

/-- Reads a number of at most 32 bits, in at most five octets. -/
def varint32? (octets : Bytes) : Option (Nat × Bytes) :=
  varintWithin 32 octets

/-- Reads a word of `width` octets. -/
def word? (width : Nat) (octets : Bytes) : Option (Nat × Bytes) :=
  if octets.length < width then none
  else some (Bytes.ofLittleEndian (octets.take width), octets.drop width)

/-- Reads a tag: the number of the field, which is not zero, and the kind of its value. -/
def tag? (octets : Bytes) : Option (Nat × Nat × Bytes) :=
  match varint32? octets with
  | some (value, rest) => if value / 8 = 0 then none else some (value / 8, value % 8, rest)
  | none => none

/-- Reads a length and that many octets. -/
def octets? (octets : Bytes) : Option (Bytes × Bytes) :=
  match varint32? octets with
  | some (length, rest) =>
    if rest.length < length then none else some (rest.take length, rest.drop length)
  | none => none

/-- Passes over the fields of a group and the tag that ends it, whatever its number. Groups
may be nested in it to `depth` levels. Each field takes at least one octet, so `steps`
octets bound the search. -/
def skipGroup : (steps : Nat) → (depth : Nat) → Bytes → Option Bytes
  | 0, _, _ => none
  | steps + 1, depth, octets =>
    match tag? octets with
    | some (_, 4, rest) => some rest
    | some (_, 0, rest) => (varint? rest).bind fun (_, rest) => skipGroup steps depth rest
    | some (_, 1, rest) => (word? 8 rest).bind fun (_, rest) => skipGroup steps depth rest
    | some (_, 2, rest) => (octets? rest).bind fun (_, rest) => skipGroup steps depth rest
    | some (_, 3, rest) =>
      match depth with
      | 0 => none
      | inner + 1 => (skipGroup steps inner rest).bind fun rest => skipGroup steps depth rest
    | some (_, 5, rest) => (word? 4 rest).bind fun (_, rest) => skipGroup steps depth rest
    | _ => none

/-- Reads the content of a length-delimited value in a message with room for `room` more
octets, which may be more than the input has. -/
def delimited? (room : Nat) (octets : Bytes) : Option (Delimited × Bytes) :=
  match varint? octets with
  | some (length, rest) =>
    let width := octets.length - rest.length
    if room - width < length.toNat then none
    else some (⟨length.toNat, width, rest.take length.toNat⟩, rest.drop length.toNat)
  | none => none

/-- Reads one field in a message with room for `room` more octets and `depth` more levels of
nesting. A group in the message itself takes no level. -/
def field? (depth room : Nat) (octets : Bytes) : Option (Field × Bytes) :=
  match tag? octets with
  | some (number, 0, rest) =>
    (varint? rest).map fun (value, rest) => (⟨number, .varint value⟩, rest)
  | some (number, 1, rest) =>
    (word? 8 rest).map fun (value, rest) => (⟨number, .fixed64 (UInt64.ofNat value)⟩, rest)
  | some (number, 2, rest) =>
    (delimited? (room - (octets.length - rest.length)) rest).map fun (content, rest) =>
      (⟨number, .delimited content⟩, rest)
  | some (number, 3, rest) =>
    (skipGroup rest.length depth rest).map fun rest => (⟨number, .group⟩, rest)
  | some (number, 5, rest) =>
    (word? 4 rest).map fun (value, rest) => (⟨number, .fixed32 (UInt32.ofNat value)⟩, rest)
  | _ => none

/-- Reads fields until the octets end, at most `steps` of them. -/
def fieldsWithin (depth : Nat) : (steps : Nat) → (room : Nat) → Bytes → Option (List Field)
  | _, _, [] => some []
  | 0, _, _ :: _ => none
  | steps + 1, room, octets =>
    match field? depth room octets with
    | some (field, rest) =>
      (fieldsWithin depth steps (room - (octets.length - rest.length)) rest).map (field :: ·)
    | none => none

/-- Reads the fields of a message of declared length `room`, of which `octets` are there. It
leaves `depth` levels of nesting. -/
def fields? (depth room : Nat) (octets : Bytes) : Option (List Field) :=
  fieldsWithin depth octets.length room octets

/-- Reads numbers until the octets end, at most `steps` of them. -/
def packedWithin {α : Type} (read : Bytes → Option (α × Bytes)) :
    (steps : Nat) → Bytes → Option (List α)
  | _, [] => some []
  | 0, _ :: _ => none
  | steps + 1, octets =>
    match read octets with
    | some (value, rest) => (packedWithin read steps rest).map (value :: ·)
    | none => none

/-- Reads the numbers packed into a length-delimited value. -/
def packed? {α : Type} (read : Bytes → Option (α × Bytes)) (octets : Bytes) : Option (List α) :=
  packedWithin read octets.length octets

end OnnxForge.Wire
