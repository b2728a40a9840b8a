/-!
# Bytes

Byte strings are lists of octets. Words of two, four and eight octets are written
with the least significant octet first.
-/

namespace OnnxForge

/-- A string of octets. -/
abbrev Bytes := List UInt8

namespace Bytes

/-- The `width` octets of `value`, least significant first. -/
def littleEndian : (width : Nat) → (value : Nat) → Bytes
  | 0, _ => []
  | width + 1, value => UInt8.ofNat (value % 256) :: littleEndian width (value / 256)

/-- The number whose octets are given, least significant first. -/
def ofLittleEndian : Bytes → Nat
  | [] => 0
  | octet :: rest => octet.toNat + 256 * ofLittleEndian rest

/-- The first `count` groups of `size` octets. -/
def groups (size : Nat) : (count : Nat) → Bytes → List Bytes
  | 0, _ => []
  | count + 1, bytes => bytes.take size :: groups size count (bytes.drop size)

/-- The octets cut into words of `size` octets, or nothing when they do not come out even. -/
def words? (size : Nat) (bytes : Bytes) : Option (List Nat) :=
  if bytes.length % size = 0 then
    some ((groups size (bytes.length / size) bytes).map ofLittleEndian)
  else none

end Bytes

end OnnxForge
