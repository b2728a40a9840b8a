import OnnxForge.Graph.OfMessage
import OnnxForge.Proofs.Message.Files
import OnnxForge.Proofs.Message.Schema
import OnnxForge.Proofs.Wire.Unknown

/-!
# Files of other writers

Writers of richer formats insert fields that are not declared here, at any place in any message,
and need not pack numbers. Such a file is read as if it was written here: a field that is not
declared is passed over as a whole, and packed numbers are taken like single ones. Only groups
within groups may take more levels of nesting than a reader has, and a file is refused exactly
then.
-/

namespace OnnxForge.Message

open Wire (Complete)

/-! ## Variants -/

/-- The levels that are taken by a message around what takes levels itself. -/
def enclose : Nat → Nat
  | 0 => 0
  | levels + 1 => levels + 2

/-- Octets of a message of a kind other than those of its fields: fields that the kind does not
declare may come at any place, in messages within the message as well, and numbers that are
packed may come in several fields or on their own. What is inserted takes so many levels. -/
inductive Variant : (levels : Nat) → Kind → List Wire.Field → Bytes → Prop
  | done {kind : Kind} : Variant 0 kind [] []
  | same {levels : Nat} {kind : Kind} {field : Wire.Field} {fields : List Wire.Field}
      {octets : Bytes} (written : field.Written) (following : Variant levels kind fields octets) :
      Variant levels kind (field :: fields) (field.encode ++ octets)
  | inserted {more levels number : Nat} {kind : Kind} {fields : List Wire.Field}
      {unknown octets : Bytes} (undeclared : number ∉ kind.numbers)
      (complete : Complete more number unknown) (following : Variant levels kind fields octets) :
      Variant (max more levels) kind fields (unknown ++ octets)
  | nested {more levels number : Nat} {kind inner : Kind} {part fields : List Wire.Field}
      {content octets : Bytes} (declared : (number, .message inner) ∈ kind.declarations)
      (nested : Variant more inner part content) (following : Variant levels kind fields octets) :
      Variant (max (enclose more) levels) kind (messageField number part :: fields)
        (Wire.Field.encode ⟨number, .octets content⟩ ++ octets)
  | run {levels number : Nat} {kind : Kind} {packing : Packing} {fields : List Wire.Field}
      {octets : Bytes} (items rest : List packing.Item)
      (declared : (number, .packed packing) ∈ kind.declarations)
      (following : Variant levels kind (⟨number, packing.run rest⟩ :: fields) octets) :
      Variant levels kind (⟨number, packing.run (items ++ rest)⟩ :: fields)
        (Wire.Field.encode ⟨number, packing.run items⟩ ++ octets)
  | element {levels number : Nat} {kind : Kind} {packing : Packing} {fields : List Wire.Field}
      {octets : Bytes} (item : packing.Item) (rest : List packing.Item)
      (declared : (number, .packed packing) ∈ kind.declarations)
      (following : Variant levels kind (⟨number, packing.run rest⟩ :: fields) octets) :
      Variant levels kind (⟨number, packing.run (item :: rest)⟩ :: fields)
        (Wire.Field.encode ⟨number, packing.single item⟩ ++ octets)
  | spent {levels number : Nat} {kind : Kind} {packing : Packing} {fields : List Wire.Field}
      {octets : Bytes} (declared : (number, .packed packing) ∈ kind.declarations)
      (following : Variant levels kind fields octets) :
      Variant levels kind (⟨number, packing.run []⟩ :: fields) octets

/-- All numbers that are packed may be written on their own. -/
theorem Variant.unpacked {levels number : Nat} {kind : Kind} {packing : Packing}
    {fields : List Wire.Field} {octets : Bytes} (items : List packing.Item)
    (declared : (number, .packed packing) ∈ kind.declarations)
    (following : Variant levels kind fields octets) :
    Variant levels kind (⟨number, packing.run items⟩ :: fields)
      (Wire.encode (items.map fun item => ⟨number, packing.single item⟩) ++ octets) := by
  induction items with
  | nil => exact .spent declared following
  | cons item rest ih =>
      rw [List.map_cons, Wire.encode_cons, List.append_assoc]
      exact .element item rest declared ih

/-! ## Written fields -/

theorem Packing.written_run {kind : Kind} {number : Nat} {packing : Packing}
    (declared : (number, .packed packing) ∈ kind.declarations) (items : List packing.Item) :
    Wire.Field.Written ⟨number, packing.run items⟩ :=
  have ⟨positive, small⟩ := Kind.number_bounds declared
  written_octets positive small _

theorem Packing.written_single {kind : Kind} {number : Nat} {packing : Packing}
    (declared : (number, .packed packing) ∈ kind.declarations) (item : packing.Item) :
    Wire.Field.Written ⟨number, packing.single item⟩ := by
  have ⟨positive, small⟩ := Kind.number_bounds declared
  cases packing <;> exact ⟨positive, small, trivial⟩

/-- Variants are those of fields that are written. -/
theorem Variant.written {levels : Nat} {kind : Kind} {fields : List Wire.Field} {octets : Bytes}
    (variant : Variant levels kind fields octets) : Written fields := by
  induction variant with
  | done => exact written_nil
  | same written _ ih => exact List.forall_mem_cons.mpr ⟨written, ih⟩
  | inserted _ _ _ ih => exact ih
  | nested declared _ _ _ ih =>
      have ⟨positive, small⟩ := Kind.number_bounds declared
      exact List.forall_mem_cons.mpr ⟨written_octets positive small _, ih⟩
  | run items rest declared _ ih =>
      exact List.forall_mem_cons.mpr
        ⟨Packing.written_run declared _, (List.forall_mem_cons.mp ih).2⟩
  | element item rest declared _ ih =>
      exact List.forall_mem_cons.mpr
        ⟨Packing.written_run declared _, (List.forall_mem_cons.mp ih).2⟩
  | spent declared _ ih => exact List.forall_mem_cons.mpr ⟨Packing.written_run declared _, ih⟩

/-- The values of the fields are few enough for a message: their numbers of octets take 64
bits. -/
def Sized (fields : List Wire.Field) : Prop :=
  ∀ field ∈ fields, ∀ content, field.value = .delimited content →
    content.octets.length < UInt64.size

theorem sized_of_bounded {fields : List Wire.Field} (bounded : Bounded fields) : Sized fields := by
  intro field member content value
  obtain ⟨number, _⟩ := field
  obtain rfl : _ = Wire.Value.delimited content := value
  have within := bounded.of_mem member
  rw [Bounded, Wire.encode_cons, Wire.Field.encode] at within
  simp only [List.length_append] at within
  omega

theorem Sized.part {number : Nat} {part fields : List Wire.Field}
    (sized : Sized (messageField number part :: fields)) : Bounded part :=
  sized _ List.mem_cons_self _ rfl

theorem Sized.tail {field : Wire.Field} {fields : List Wire.Field}
    (sized : Sized (field :: fields)) : Sized fields :=
  fun other member => sized other (List.mem_cons_of_mem _ member)

/-- Fewer numbers take no more octets. -/
theorem Sized.rest {number : Nat} {packing : Packing} {items rest : List packing.Item}
    {fields : List Wire.Field}
    (sized : Sized (⟨number, packing.run (items ++ rest)⟩ :: fields)) :
    Sized (⟨number, packing.run rest⟩ :: fields) := by
  refine List.forall_mem_cons.mpr ⟨fun content value => ?_, sized.tail⟩
  have whole := sized _ List.mem_cons_self _ rfl
  cases value
  rw [List.flatMap_append, List.length_append] at whole
  exact Nat.lt_of_le_of_lt (Nat.le_add_left _ _) whole

/-! ## Reading -/

/-- Reads fields until the octets end, at most `steps` of them, into a message. -/
def readOn {α : Type} (add : α → Wire.Field → Option α) (depth steps room : Nat) (octets : Bytes)
    (message : α) : Option α :=
  (Wire.fieldsWithin depth steps room octets).bind fun fields => fields.foldlM add message

section ReadOn

variable {α : Type} {add : α → Wire.Field → Option α} {depth steps room : Nat}
variable {octets following : Bytes} {message : α}

/-- A field that is read is added to the message before those that follow. -/
theorem readOn_some {field : Wire.Field} (nonempty : octets ≠ [])
    (read : Wire.field? depth room (octets ++ following) = some (field, following)) :
    readOn add depth (steps + 1) room (octets ++ following) message =
      (add message field).bind (readOn add depth steps (room - octets.length) following) := by
  have consumed : (octets ++ following).length - following.length = octets.length := by
    rw [List.length_append]
    omega
  rw [readOn, Wire.fieldsWithin]
  · simp only [read, consumed]
    cases added : add message field with
    | none => cases Wire.fieldsWithin depth steps _ following <;> simp [added]
    | some next =>
        rw [Option.bind_some, readOn]
        cases Wire.fieldsWithin depth steps _ following <;> simp [added]
  · exact List.append_ne_nil_of_left_ne_nil nonempty _

theorem readOn_none (nonempty : octets ≠ [])
    (read : Wire.field? depth room (octets ++ following) = none) :
    readOn add depth (steps + 1) room (octets ++ following) message = none := by
  rw [readOn, Wire.fieldsWithin]
  · rw [read]
    rfl
  · exact List.append_ne_nil_of_left_ne_nil nonempty _

end ReadOn

theorem passOver_whole {α : Type} {value : Wire.Value} (whole : value.Whole) (message : α) :
    passOver message value = some message := by
  cases value with
  | delimited content =>
      have complete : complete? content = some content.octets := if_pos whole
      rw [passOver, complete]
      rfl
  | _ => rfl

/-- Octets are read like fields of a kind of message, into any message by any reader that
follows its declarations, where it leaves so many levels; with fewer they are refused. -/
structure ReadsAlike (levels : Nat) (kind : Kind) (fields : List Wire.Field) (octets : Bytes) :
    Prop where
  read : ∀ {α : Type} {add : α → Wire.Field → Option α} {depth steps room : Nat},
    Follows kind depth add → octets.length ≤ steps → octets.length ≤ room → room < UInt64.size →
      ∀ message, readOn add depth steps room octets message =
        if levels ≤ depth then fields.foldlM add message else none

/-- Fields amount to others where a reader leaves so many levels; with fewer they are refused. -/
structure Amounts (levels : Nat) (kind : Kind) (fields others : List Wire.Field) : Prop where
  add : ∀ {α : Type} {add : α → Wire.Field → Option α} {depth : Nat}, Follows kind depth add →
    ∀ message, fields.foldlM add message =
      if levels ≤ depth then others.foldlM add message else none

section Alike

variable {levels more number : Nat} {kind inner : Kind} {packing : Packing}
variable {field : Wire.Field} {part fields others : List Wire.Field}
variable {content octets unknown : Bytes}

theorem ReadsAlike.done : ReadsAlike 0 kind [] [] := by
  refine ⟨fun {α add depth steps room} _ _ _ _ message => ?_⟩
  rw [if_pos (Nat.zero_le depth), readOn]
  cases steps <;> rfl

theorem ReadsAlike.same (written : field.Written) (alike : ReadsAlike levels kind fields octets) :
    ReadsAlike levels kind (field :: fields) (field.encode ++ octets) := by
  refine ⟨fun {α add depth steps room} follows enough fits small message => ?_⟩
  have nonempty := List.length_pos_iff.mpr field.encode_ne_nil
  rw [List.length_append] at enough fits
  obtain ⟨step, rfl⟩ : ∃ step, steps = step + 1 := ⟨steps - 1, by omega⟩
  have following := alike.read follows (show octets.length ≤ step by omega)
    (show octets.length ≤ room - field.encode.length by omega) (by omega)
  rw [readOn_some field.encode_ne_nil (Wire.field?_encode written (by omega) small octets),
    List.foldlM_cons, funext following]
  split
  · rfl
  · exact Option.bind_fun_none _

/-- What is inserted leaves the message as it is, or is refused. -/
theorem ReadsAlike.inserted (undeclared : number ∉ kind.numbers)
    (complete : Complete more number unknown) (alike : ReadsAlike levels kind fields octets) :
    ReadsAlike (max more levels) kind fields (unknown ++ octets) := by
  refine ⟨fun {α add depth steps room} follows enough fits small message => ?_⟩
  obtain ⟨value, whole, read⟩ := complete.field?
  have nonempty := List.length_pos_iff.mpr complete.ne_nil
  rw [List.length_append] at enough fits
  obtain ⟨step, rfl⟩ : ∃ step, steps = step + 1 := ⟨steps - 1, by omega⟩
  have following := alike.read follows (show octets.length ≤ step by omega)
    (show octets.length ≤ room - unknown.length by omega) (by omega) message
  have first := read depth room octets (by omega)
  by_cases shallow : more ≤ depth
  · rw [if_pos shallow] at first
    rw [readOn_some complete.ne_nil first, follows.undeclared number undeclared,
      passOver_whole whole, Option.bind_some, following]
    simp only [Nat.max_le, shallow, true_and]
  · rw [if_neg shallow] at first
    rw [readOn_none complete.ne_nil first, if_neg (by omega)]

/-- Octets that are read like fields are read like those to which the fields amount. -/
theorem ReadsAlike.exchange (alike : ReadsAlike levels kind fields octets)
    (amounts : octets.length < UInt64.size → Amounts more kind fields others) :
    ReadsAlike (max more levels) kind others octets := by
  refine ⟨fun {α add depth steps room} follows enough fits small message => ?_⟩
  have both : max more levels ≤ depth ↔ levels ≤ depth ∧ more ≤ depth := by omega
  rw [alike.read follows enough fits small, (amounts (by omega)).add follows]
  by_cases within : levels ≤ depth
  · simp only [both, within, true_and, if_true]
  · rw [if_neg within, if_neg (fun whole => within (both.mp whole).1)]

/-- A message is read from other octets like from its own. -/
theorem ReadsAlike.reader (alike : ReadsAlike levels kind fields octets) (written : Written fields)
    {depth room ownRoom : Nat} (fits : octets.length ≤ room) (small : room < UInt64.size)
    (ownFits : (Wire.encode fields).length ≤ ownRoom) (ownSmall : ownRoom < UInt64.size) :
    kind.reader depth room octets =
      if levels ≤ depth then kind.reader depth ownRoom (Wire.encode fields) else none := by
  obtain ⟨empty, add, reader, follows⟩ := kind.exists_follows depth
  rw [reader, readFields, readFields, Wire.fields?_encode written ownFits ownSmall]
  exact alike.read follows (Nat.le_refl _) fits small empty

theorem ReadsAlike.nested? (alike : ReadsAlike more inner part content) (written : Written part)
    (bounded : Bounded part) (small : content.length < UInt64.size) (depth : Nat) :
    nested? inner.reader depth (contentOf content) =
      if enclose more ≤ depth then nested? inner.reader depth (contentOf (Wire.encode part))
      else none := by
  cases depth with
  | zero =>
      change none = if enclose more ≤ 0 then none else none
      rw [ite_self]
  | succ depth =>
      have levels : enclose more ≤ depth + 1 ↔ more ≤ depth := by
        cases more <;> simp only [enclose] <;> omega
      simp only [levels]
      exact alike.reader written (Nat.le_refl _) small (Nat.le_refl _) bounded

theorem Amounts.nested (declared : (number, .message inner) ∈ kind.declarations)
    (written : Written part) (bounded : Bounded part) (small : content.length < UInt64.size)
    (alike : ReadsAlike more inner part content) :
    Amounts (enclose more) kind (⟨number, .octets content⟩ :: fields)
      (messageField number part :: fields) := by
  refine ⟨fun {α add depth} follows message => ?_⟩
  obtain ⟨put, reads⟩ := follows.declared _ declared
  have original := reads message (contentOf (Wire.encode part))
  have variant := reads message (contentOf content)
  rw [alike.nested? written bounded small depth] at variant
  rw [List.foldlM_cons, List.foldlM_cons]
  change (add message ⟨number, .delimited (contentOf content)⟩ >>= _) =
    if _ then add message ⟨number, .delimited (contentOf (Wire.encode part))⟩ >>= _ else none
  rw [original, variant]
  split <;> rfl

theorem Amounts.run (items rest : List packing.Item)
    (declared : (number, .packed packing) ∈ kind.declarations) :
    Amounts 0 kind (⟨number, packing.run items⟩ :: ⟨number, packing.run rest⟩ :: fields)
      (⟨number, packing.run (items ++ rest)⟩ :: fields) := by
  refine ⟨fun {α add depth} follows message => ?_⟩
  have packs : Packs add number packing := follows.declared _ declared
  rw [if_pos (Nat.zero_le depth)]
  simp only [List.foldlM_cons, packs (items ++ rest), packs items, List.foldlM_append, bind_assoc]
  refine bind_congr fun next => ?_
  rw [packs rest]

theorem Amounts.element (item : packing.Item) (rest : List packing.Item)
    (declared : (number, .packed packing) ∈ kind.declarations) :
    Amounts 0 kind (⟨number, packing.single item⟩ :: ⟨number, packing.run rest⟩ :: fields)
      (⟨number, packing.run (item :: rest)⟩ :: fields) := by
  refine ⟨fun {α add depth} follows message => ?_⟩
  have packs : Packs add number packing := follows.declared _ declared
  rw [if_pos (Nat.zero_le depth)]
  simp only [List.foldlM_cons, packs (item :: rest), packs rest, bind_assoc]

theorem Amounts.spent (declared : (number, .packed packing) ∈ kind.declarations) :
    Amounts 0 kind fields (⟨number, packing.run []⟩ :: fields) := by
  refine ⟨fun {α add depth} follows message => ?_⟩
  have packs : Packs add number packing := follows.declared _ declared
  rw [if_pos (Nat.zero_le depth), List.foldlM_cons, packs]
  rfl

end Alike

/-- Variants of fields are read like the fields, by induction on how they differ. -/
theorem Variant.readsAlike {levels : Nat} {kind : Kind} {fields : List Wire.Field}
    {octets : Bytes} (variant : Variant levels kind fields octets) (sized : Sized fields) :
    ReadsAlike levels kind fields octets := by
  induction variant with
  | done => exact .done
  | same written _ ih => exact .same written (ih sized.tail)
  | inserted undeclared complete _ ih => exact .inserted undeclared complete (ih sized)
  | @nested _ _ number _ _ _ _ content _ declared nested _ ihNested ih =>
      have ⟨positive, small⟩ := Kind.number_bounds declared
      have written : Wire.Field.Written ⟨number, .octets content⟩ :=
        written_octets positive small content
      refine (ReadsAlike.same written (ih sized.tail)).exchange fun bounded =>
        .nested declared nested.written sized.part ?_ (ihNested (sized_of_bounded sized.part))
      have content_le := Wire.length_le_encode number content
      rw [List.length_append] at bounded
      omega
  | @run levels _ _ _ _ _ items rest declared _ ih =>
      have alike := ReadsAlike.same (Packing.written_run declared items) (ih sized.rest)
      rw [← Nat.zero_max levels]
      exact alike.exchange fun _ => .run items rest declared
  | @element levels number _ packing fields _ item rest declared _ ih =>
      have whole : Sized (⟨number, packing.run ([item] ++ rest)⟩ :: fields) := sized
      have alike := ReadsAlike.same (Packing.written_single declared item) (ih whole.rest)
      rw [← Nat.zero_max levels]
      exact alike.exchange fun _ => .element item rest declared
  | @spent levels _ _ _ _ _ declared _ ih =>
      rw [← Nat.zero_max levels]
      exact (ih sized.tail).exchange fun _ => .spent declared

/-! ## Files -/

/-- A file with fields that are not declared, or with numbers that are not packed, gives what the
model's own file gives: the same model, which is given back if it is admitted, and the same
graph. Where groups in it nest too deep, the file is refused. -/
theorem Variant.decode_eq {model : Model} {levels : Nat} {octets : Bytes}
    (variant : Variant levels .model model.fields octets)
    (bounded : model.encode.length < UInt64.size) (small : octets.length < UInt64.size) :
    (levels ≤ nestingLimit →
        Model.decode octets = Model.decode model.encode ∧
          OnnxForge.Graph.ofFile (some octets) = OnnxForge.Graph.ofFile (some model.encode) ∧
          (model.Admitted → Model.decode octets = some model.restored)) ∧
      (nestingLimit < levels →
        Model.decode octets = none ∧
          OnnxForge.Graph.ofFile (some octets) = .error .malformed) := by
  have decoded : Model.decode octets =
      if levels ≤ nestingLimit then Model.decode model.encode else none :=
    (variant.readsAlike (sized_of_bounded bounded)).reader model.written
      (Nat.le_pred_of_lt small) (by decide) (Nat.le_pred_of_lt bounded) (by decide)
  refine ⟨fun fits => ?_, fun deep => ?_⟩
  · rw [if_pos fits] at decoded
    refine ⟨decoded, ?_, fun admitted => ?_⟩
    · rw [OnnxForge.Graph.ofFile, OnnxForge.Graph.ofFile, decoded]
    · rw [decoded, Model.decode_encode admitted.shallow admitted.short bounded]
  · rw [if_neg (Nat.not_le_of_lt deep)] at decoded
    exact ⟨decoded, by rw [OnnxForge.Graph.ofFile, decoded]⟩

/-- A model with one array. -/
def stored : Model where
  graph := some { initializers := [{ dims := [2, 1], dataType := 7, int64Data := [5, 300] }] }

/-- The array with an extent of its own, another that is packed, a group in a group, and the
elements one by one. -/
def storedArray : Bytes :=
  Wire.Field.encode ⟨1, Packing.varint.single 2⟩ ++
    (Wire.Field.encode ⟨1, Packing.varint.run [1]⟩ ++
      ([0x7b, 0x7b, 0x7c, 0x7c] ++ (Wire.Field.encode ⟨2, .varint 7⟩ ++
        (Wire.encode ([5, 300].map fun item => ⟨7, Packing.varint.single item⟩) ++ []))))

/-- The model as another writer has it, who knows a field for lists of texts. -/
def storedElsewhere : Bytes :=
  [0x72, 2, 0x0a, 0] ++
    (Wire.Field.encode ⟨7, .octets (Wire.Field.encode ⟨5, .octets storedArray⟩ ++ [])⟩ ++ [])

theorem stored_read_alike :
    Variant 3 .model stored.fields storedElsewhere ∧
      Model.decode storedElsewhere = some stored ∧
      OnnxForge.Graph.ofFile (some storedElsewhere) =
        OnnxForge.Graph.ofFile (some stored.encode) := by
  let fields : List Wire.Field :=
    [⟨1, Packing.varint.run [2, 1]⟩, ⟨2, .varint 7⟩, ⟨7, Packing.varint.run [5, 300]⟩]
  have nested : stored.fields = [messageField 7 [messageField 5 fields]] := by decide +kernel
  have extents : (1, .packed .varint) ∈ Kind.tensor.declarations := by decide
  have elements : (7, .packed .varint) ∈ Kind.tensor.declarations := by decide
  have arrays : (5, .message .tensor) ∈ Kind.graph.declarations := by decide
  have graph : (7, .message .graph) ∈ Kind.model.declarations := by decide
  have openTag : Wire.Tag 15 3 [0x7b] := ⟨by decide, by decide, .last (by decide) (by decide)⟩
  have closeTag : Wire.Tag 15 4 [0x7c] := ⟨by decide, by decide, .last (by decide) (by decide)⟩
  have groups : Complete 1 15 [0x7b, 0x7b, 0x7c, 0x7c] :=
    .group openTag (.group openTag (.close closeTag) (.close closeTag))
  have textsTag : Wire.Tag 14 2 [0x72] := ⟨by decide, by decide, .last (by decide) (by decide)⟩
  have length : Wire.Numeral 32 [0x0a, 0].length [2] := .last (by decide) (by decide)
  have value : Wire.Plain 2 ([2] ++ [0x0a, 0]) := .delimited length
  have texts : Complete 0 14 [0x72, 2, 0x0a, 0] := .plain textsTag value
  have array : Variant 1 .tensor fields storedArray :=
    .element _ [1] extents (.run [_] [] extents (.spent extents (.inserted (by decide) groups
      (.same ⟨by decide, by decide, trivial⟩ (.unpacked [5, 300] elements .done)))))
  have file : Variant 3 .model stored.fields storedElsewhere := by
    rw [nested]
    exact .inserted (by decide) texts (.nested graph (.nested arrays array .done) .done)
  have ⟨alike, _⟩ := file.decode_eq (by decide +kernel) (by decide +kernel)
  have ⟨_, graphs, back⟩ := alike (by decide)
  exact ⟨file, back ⟨by decide +kernel, by decide +kernel⟩, graphs⟩

/-- What follows the first tag of a group with so many groups in it, one in the other. -/
def groupsWithin : Nat → Bytes
  | 0 => [0x4c]
  | levels + 1 => 0x4b :: (groupsWithin levels ++ [0x4c])

/-- The empty model with such a group. -/
theorem variant_groupsWithin (levels : Nat) :
    Variant levels .model [] (0x4b :: groupsWithin levels) := by
  have openTag : Wire.Tag 9 3 [0x4b] := ⟨by decide, by decide, .last (by decide) (by decide)⟩
  have closeTag : Wire.Tag 9 4 [0x4c] := ⟨by decide, by decide, .last (by decide) (by decide)⟩
  have group : Wire.Group levels 9 (groupsWithin levels) := by
    induction levels with
    | zero => exact .close closeTag
    | succ levels ih =>
        rw [← Nat.max_zero (levels + 1)]
        exact .group openTag ih (.close closeTag)
  have inserted := Variant.inserted (show 9 ∉ Kind.model.numbers by decide) (.group openTag group)
    .done
  rw [Nat.max_zero, List.append_nil] at inserted
  exact inserted

/-- The file of an empty model is refused when a group with too many groups is put into it. -/
theorem deep_groups_refused :
    Variant 101 .model (Model.fields {}) (0x4b :: groupsWithin 101) ∧
      Model.decode (Model.encode {}) = some {} ∧
      Model.decode (0x4b :: groupsWithin 101) = none := by
  have fields : Model.fields {} = [] := by decide +kernel
  have refused : (Model.decode (0x4b :: groupsWithin 101)).isNone := by decide +kernel
  rw [fields]
  exact ⟨variant_groupsWithin 101, rfl, Option.isNone_iff_eq_none.mp refused⟩

end OnnxForge.Message
