import OnnxForge.Proofs.Wire

/-!
# Fields that messages do not declare

Writers of richer formats put fields into messages that readers do not know. Such a field has a
tag and a value: a number, a word, octets with their length, or a group of further fields. A
reader takes it as a whole and goes on with what follows. A group in a message takes no level
of nesting, and every group in a group takes one, so a field is read exactly where so many
levels are left.
-/

namespace OnnxForge.Wire

/-! ## Shapes -/

/-- Octets of a value that is no group, by its kind. -/
inductive Plain : (kind : Nat) → Bytes → Prop
  | varint {value : Nat} {octets : Bytes} (numeral : Numeral 64 value octets) : Plain 0 octets
  | fixed64 {octets : Bytes} (length : octets.length = 8) : Plain 1 octets
  | delimited {length content : Bytes} (numeral : Numeral 32 content.length length) :
      Plain 2 (length ++ content)
  | fixed32 {octets : Bytes} (length : octets.length = 4) : Plain 5 octets

/-- Octets of a group after its first tag: fields, the last of which is followed by a tag that
closes the group with its number. The groups in it take so many levels. -/
inductive Group : (levels number : Nat) → Bytes → Prop
  | close {number : Nat} {octets : Bytes} (tag : Tag number 4 octets) : Group 0 number octets
  | plain {levels number other kind : Nat} {head value rest : Bytes} (tag : Tag other kind head)
      (plain : Plain kind value) (following : Group levels number rest) :
      Group levels number (head ++ (value ++ rest))
  | group {inner levels number other : Nat} {head nested rest : Bytes} (tag : Tag other 3 head)
      (group : Group inner other nested) (following : Group levels number rest) :
      Group (max (inner + 1) levels) number (head ++ (nested ++ rest))

/-- Octets of a field with any value. -/
inductive Complete : (levels number : Nat) → Bytes → Prop
  | plain {number kind : Nat} {head value : Bytes} (tag : Tag number kind head)
      (plain : Plain kind value) :
      Complete 0 number (head ++ value)
  | group {levels number : Nat} {head rest : Bytes} (tag : Tag number 3 head)
      (group : Group levels number rest) :
      Complete levels number (head ++ rest)

/-! ## Groups -/

theorem octets?_append {length content : Bytes} (numeral : Numeral 32 content.length length)
    (rest : Bytes) :
    octets? (length ++ (content ++ rest)) = some (content, rest) := by
  have enough : ¬ (content ++ rest).length < content.length := by
    rw [List.length_append]
    omega
  rw [octets?, varint32?, numeral.varintWithin]
  simp only [if_neg enough, List.take_left, List.drop_left]

/-- A field of a group is passed over. -/
theorem Plain.skipGroup {number kind : Nat} {head value : Bytes} (plain : Plain kind value)
    (tag : Tag number kind head) (steps depth : Nat) (rest : Bytes) :
    skipGroup (steps + 1) depth (head ++ (value ++ rest)) = skipGroup steps depth rest := by
  rw [Wire.skipGroup, tag.tag?]
  cases plain with
  | varint numeral => simp only [numeral.varint?, Option.bind_some]
  | fixed64 length => simp only [word?_append length, Option.bind_some]
  | delimited numeral =>
      rw [List.append_assoc]
      simp only [octets?_append numeral, Option.bind_some]
  | fixed32 length => simp only [word?_append length, Option.bind_some]

/-- A group is passed over where the groups in it have levels enough, and not elsewhere. -/
theorem Group.skipGroup {levels number : Nat} {octets : Bytes}
    (group : Group levels number octets) {steps depth : Nat} (enough : octets.length ≤ steps)
    (rest : Bytes) :
    skipGroup steps depth (octets ++ rest) = if levels ≤ depth then some rest else none := by
  induction group generalizing steps depth rest with
  | close tag =>
      have nonempty := List.length_pos_iff.mpr tag.numeral.ne_nil
      obtain ⟨step, rfl⟩ : ∃ step, steps = step + 1 := ⟨steps - 1, by omega⟩
      rw [Wire.skipGroup, tag.tag?, if_pos (Nat.zero_le depth)]
      rfl
  | plain tag plain _ ih =>
      have nonempty := List.length_pos_iff.mpr tag.numeral.ne_nil
      rw [List.length_append, List.length_append] at enough
      obtain ⟨step, rfl⟩ : ∃ step, steps = step + 1 := ⟨steps - 1, by omega⟩
      rw [List.append_assoc, List.append_assoc, plain.skipGroup tag]
      exact ih (by omega) rest
  | @group inner levels number other head nested following tag _ _ ihNested ih =>
      have nonempty := List.length_pos_iff.mpr tag.numeral.ne_nil
      rw [List.length_append, List.length_append] at enough
      obtain ⟨step, rfl⟩ : ∃ step, steps = step + 1 := ⟨steps - 1, by omega⟩
      rw [List.append_assoc, List.append_assoc, Wire.skipGroup, tag.tag?]
      cases depth with
      | zero => exact (if_neg (by omega)).symm
      | succ depth =>
          change (Wire.skipGroup step depth (nested ++ (following ++ rest))).bind
            (Wire.skipGroup step (depth + 1)) = _
          rw [ihNested (by omega) (following ++ rest)]
          by_cases fits : inner ≤ depth
          · have whole : max (inner + 1) levels ≤ depth + 1 ↔ levels ≤ depth + 1 := by omega
            rw [if_pos fits, Option.bind_some, ih (by omega) rest]
            simp only [whole]
          · rw [if_neg fits, Option.bind_none]
            exact (if_neg (by omega)).symm

/-! ## Fields -/

/-- A value is whole if it has all its octets, and its length takes 32 bits. -/
def Value.Whole : Value → Prop
  | .delimited content =>
    content.width ≤ 5 ∧ content.length < UInt32.size ∧ content.octets.length = content.length
  | _ => True

namespace Complete

variable {levels number : Nat} {octets : Bytes}

theorem ne_nil (complete : Complete levels number octets) : octets ≠ [] := by
  cases complete with
  | plain tag _ => exact List.append_ne_nil_of_left_ne_nil tag.numeral.ne_nil _
  | group tag _ => exact List.append_ne_nil_of_left_ne_nil tag.numeral.ne_nil _

/-- A field with any value is read as a whole where there is room for it and its groups have
levels enough. -/
theorem field? (complete : Complete levels number octets) :
    ∃ value : Value, value.Whole ∧ ∀ depth room rest, octets.length ≤ room →
      field? depth room (octets ++ rest) =
        if levels ≤ depth then some (⟨number, value⟩, rest) else none := by
  cases complete with
  | @plain number kind head value tag plain =>
      cases plain with
      | @varint written value numeral =>
          refine ⟨.varint (UInt64.ofNat written), trivial, fun depth room rest _ => ?_⟩
          rw [List.append_assoc, Wire.field?, tag.tag?, if_pos (Nat.zero_le depth)]
          simp only [numeral.varint?, Option.map_some]
      | fixed64 length =>
          refine ⟨.fixed64 (UInt64.ofNat (Bytes.ofLittleEndian value)), trivial,
            fun depth room rest _ => ?_⟩
          rw [List.append_assoc, Wire.field?, tag.tag?, if_pos (Nat.zero_le depth)]
          simp only [word?_append length, Option.map_some]
      | @delimited length content numeral =>
          refine ⟨.delimited ⟨content.length, length.length, content⟩,
            ⟨numeral.length_le, numeral.lt, rfl⟩, fun depth room rest fits => ?_⟩
          rw [List.length_append, List.length_append] at fits
          rw [List.append_assoc, Wire.field?, tag.tag?, if_pos (Nat.zero_le depth),
            List.append_assoc]
          have consumed : (head ++ (length ++ (content ++ rest))).length -
              (length ++ (content ++ rest)).length = head.length := by
            rw [List.length_append]
            omega
          simp only [consumed, delimited?_append (numeral.mono (by decide))
            (show length.length + content.length ≤ room - head.length by omega), Option.map_some]
      | fixed32 length =>
          refine ⟨.fixed32 (UInt32.ofNat (Bytes.ofLittleEndian value)), trivial,
            fun depth room rest _ => ?_⟩
          rw [List.append_assoc, Wire.field?, tag.tag?, if_pos (Nat.zero_le depth)]
          simp only [word?_append length, Option.map_some]
  | @group levels number head following tag group =>
      refine ⟨.group, trivial, fun depth room rest _ => ?_⟩
      have within : following.length ≤ (following ++ rest).length := by
        rw [List.length_append]
        omega
      rw [List.append_assoc, Wire.field?, tag.tag?]
      simp only [group.skipGroup within]
      split <;> rfl

end Complete

end OnnxForge.Wire
